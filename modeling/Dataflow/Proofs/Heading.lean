import Dataflow.Mashup.Section
import Dataflow.Proofs.Blank
import Dataflow.Proofs.Lexing
import Dataflow.Proofs.Occurrence
import Mathlib.Data.Option.Basic

/-!
# The shape of headings

The heading of a declaration and the header of the section are one thing with different words: a
keyword, blanks, a name and a sign, with blanks before the sign.  `Named` is that shape as a
property of the text that is taken, and `named_eq_some_iff` says that the pattern takes exactly
the texts of that shape.  A pattern given by the shape of what it takes is local, which is what
`Dataflow.Proofs.Occurrence` asks for.

## What is here

* `IsNameToken`, the names that can stand in a document, with what the reader of literals makes
  of them.
* `named`, `Named`, `named_eq_some_iff`; `heading_eq_some_iff`, `sectionHeader_eq_some_iff` and the
  locality of both patterns.
* `keywordMark` — the keyword with a blank behind it, without which no heading begins.
* `Named.exists_of_bracket` — a heading with a bracket in it, taken apart at the bracket.
-/

set_option autoImplicit false

namespace Dataflow
namespace Mashup

/-! ## Pieces of patterns -/

theorem exists_of_keyword? {letters t r : Text} (h : keyword? letters t = some r) :
    ∃ k, t = k ++ r ∧ keyword? letters k = some [] := by
  induction letters generalizing t with
  | nil =>
    cases h
    exact ⟨[], rfl, rfl⟩
  | cons letter letters ih =>
    cases t with
    | nil => cases h
    | cons c t =>
      rw [keyword?] at h
      split at h
      · rename_i hc
        obtain ⟨k, rfl, hk⟩ := ih h
        exact ⟨c :: k, rfl, by rw [keyword?, if_pos hc, hk]⟩
      · cases h

theorem keyword?_append {letters k : Text} (h : keyword? letters k = some []) (r : Text) :
    keyword? letters (k ++ r) = some r := by
  induction letters generalizing k with
  | nil =>
    cases h
    rfl
  | cons letter letters ih =>
    cases k with
    | nil => cases h
    | cons c k =>
      rw [keyword?] at h
      rw [List.cons_append, keyword?]
      split at h
      · rename_i hc
        rw [if_pos hc, ih h]
      · cases h

/-- Every character of a keyword stands for one of its letters. -/
theorem exists_matchesLetter {letters k : Text} (h : keyword? letters k = some []) :
    ∀ c ∈ k, ∃ letter ∈ letters, matchesLetter letter c = true := by
  induction letters generalizing k with
  | nil =>
    cases h
    simp
  | cons letter letters ih =>
    cases k with
    | nil => cases h
    | cons d k =>
      rw [keyword?] at h
      split at h
      · rename_i hd
        intro c hc
        rcases List.mem_cons.1 hc with rfl | hc
        · exact ⟨letter, List.mem_cons_self, hd⟩
        · obtain ⟨l, hl, hm⟩ := ih h c hc
          exact ⟨l, List.mem_cons_of_mem _ hl, hm⟩
      · cases h

/-- A text does not begin with a blank. -/
def startsSolid (t : Text) : Bool := t.head?.all (!isBlank ·)

theorem blanks_append {ws r : Text} (hws : Text.allBlank ws = true) (hr : startsSolid r = true) :
    blanks (ws ++ r) = r := by
  have hws : ∀ c ∈ ws, isBlank c = true := by simpa [Text.allBlank] using hws
  rw [blanks, List.dropWhile_append_of_pos hws]
  cases r with
  | nil => rfl
  | cons c r => exact List.dropWhile_cons_of_neg (by simpa [startsSolid] using hr)

/-- Where blanks end does not depend on how many there are. -/
theorem eq_of_blanks_append {ws ws' r r' : Text} (hws : Text.allBlank ws = true)
    (hr : startsSolid r = true) (hws' : Text.allBlank ws' = true) (hr' : startsSolid r' = true)
    (h : ws ++ r = ws' ++ r') : r = r' := by
  have := congrArg blanks h
  rwa [blanks_append hws hr, blanks_append hws' hr'] at this

theorem exists_of_blanks (t : Text) :
    ∃ ws, t = ws ++ blanks t ∧ Text.allBlank ws = true ∧ startsSolid (blanks t) = true := by
  refine ⟨t.takeWhile isBlank, List.takeWhile_append_dropWhile.symm, ?_, ?_⟩
  · exact List.all_eq_true.2 (fun _ => List.mem_takeWhile_imp)
  · have := List.head?_dropWhile_not isBlank t
    rw [startsSolid, blanks]
    cases h : (t.dropWhile isBlank).head? with
    | none => rfl
    | some c => simpa [h] using this

theorem someBlanks?_eq_some_iff {t r : Text} :
    someBlanks? t = some r ↔
      ∃ ws, ws ≠ [] ∧ t = ws ++ r ∧ Text.allBlank ws = true ∧ startsSolid r = true := by
  cases t with
  | nil =>
    refine iff_of_false (fun h => nomatch h) ?_
    rintro ⟨ws, hne, h, -⟩
    exact hne (List.append_eq_nil_iff.1 h.symm).1
  | cons c t =>
    rw [someBlanks?]
    constructor
    · intro h
      split at h
      · rename_i hc
        cases h
        obtain ⟨ws, ht, hws, hr⟩ := exists_of_blanks t
        refine ⟨c :: ws, List.cons_ne_nil _ _, by rw [List.cons_append, ← ht], ?_, hr⟩
        rw [Text.allBlank, List.all_cons, hc]
        exact hws
      · cases h
    · rintro ⟨ws, hne, h, hws, hr⟩
      obtain ⟨d, ws, rfl⟩ := List.exists_cons_of_ne_nil hne
      rw [List.cons_append, List.cons.injEq] at h
      obtain ⟨rfl, rfl⟩ := h
      rw [Text.allBlank, List.all_cons, Bool.and_eq_true] at hws
      rw [if_pos hws.1, blanks_append hws.2 hr]

theorem sign?_eq_some_iff {s : Char} {t r : Text} : sign? s t = some r ↔ t = s :: r := by
  cases t with
  | nil => simp [sign?]
  | cons c t =>
    rw [sign?]
    split <;> simp_all

theorem guard_eq_some_iff {b : Bool} : (guard (b = true) : Option Unit) = some () ↔ b = true := by
  cases b <;> decide

/-! ## Names -/

theorem untilQuote?_eq_some {t body r : Text} (h : untilQuote? t = some (body, r)) :
    t = body ++ r ∧ untilQuote? body = some (body, []) := by
  fun_induction untilQuote? t generalizing body r with
  | case1 => cases h
  | case2 rest ih =>
    obtain ⟨⟨body', r'⟩, hy, heq⟩ := Option.map_eq_some_iff.1 h
    cases heq
    obtain ⟨rfl, hb⟩ := ih hy
    exact ⟨rfl, by rw [untilQuote?, hb]; rfl⟩
  | case3 rest =>
    cases h
    exact ⟨rfl, rfl⟩
  | case4 c rest _ hc ih =>
    obtain ⟨⟨body', r'⟩, hy, heq⟩ := Option.map_eq_some_iff.1 h
    cases heq
    obtain ⟨rfl, hb⟩ := ih hy
    have hc : c ≠ '"' := fun h => hc h
    exact ⟨rfl, by simp_all [untilQuote?]⟩

/-- What a text is made of that ends with its closing quote: pairs of quotes and other characters in
front of it. -/
theorem untilQuote?_induction {P : Text → Prop} {t body : Text}
    (h : untilQuote? t = some (body, [])) (hend : P ['"'])
    (hpair : ∀ rest, P rest → P ('"' :: '"' :: rest))
    (hother : ∀ c rest, c ≠ '"' → P rest → P (c :: rest)) : P t := by
  fun_induction untilQuote? t generalizing body with
  | case1 => cases h
  | case2 rest ih =>
    obtain ⟨⟨body', r'⟩, hy, heq⟩ := Option.map_eq_some_iff.1 h
    cases heq
    exact hpair rest (ih hy)
  | case3 rest =>
    cases h
    exact hend
  | case4 c rest _ hc ih =>
    obtain ⟨⟨body', r'⟩, hy, heq⟩ := Option.map_eq_some_iff.1 h
    cases heq
    exact hother c rest (fun h => hc h) (ih hy)

theorem untilQuote?_append {t body r : Text} (h : untilQuote? t = some (body, []))
    (hr : r.head? ≠ some '"') : untilQuote? (t ++ r) = some (body, r) := by
  fun_induction untilQuote? t generalizing body with
  | case1 => cases h
  | case2 rest ih =>
    obtain ⟨⟨body', r'⟩, hy, heq⟩ := Option.map_eq_some_iff.1 h
    cases heq
    simp [untilQuote?, ih hy]
  | case3 rest =>
    cases h
    cases r with
    | nil => rfl
    | cons c r => simp_all [untilQuote?]
  | case4 c rest _ hc ih =>
    obtain ⟨⟨body', r'⟩, hy, heq⟩ := Option.map_eq_some_iff.1 h
    cases heq
    have hc : c ≠ '"' := fun h => hc h
    simp [untilQuote?, ih hy, hc]

/-- A bare name is a run of word characters. -/
theorem isWord_of_isBareStart {c : Char} (h : Name.isBareStart c = true) : isWord c = true := by
  have hrange : ∀ n ∈ List.range' 65 26 ++ List.range' 97 26, wordClass.has n = true := by
    decide +kernel
  delta Name.isBareStart Char.isAlpha Char.isUpper Char.isLower at h
  simp only [Bool.or_eq_true, Bool.and_eq_true, decide_eq_true_eq, beq_iff_eq, ge_iff_le,
    UInt32.le_iff_toNat_le] at h
  rcases h with (h | h) | rfl
  · have hmem : c.toNat ∈ List.range' 65 26 :=
      List.mem_range'_1.2 ⟨h.1, Nat.lt_succ_of_le h.2⟩
    exact hrange c.toNat (List.mem_append_left _ hmem)
  · have hmem : c.toNat ∈ List.range' 97 26 :=
      List.mem_range'_1.2 ⟨h.1, Nat.lt_succ_of_le h.2⟩
    exact hrange c.toNat (List.mem_append_right _ hmem)
  · decide

/-- The names that can be read in a document. -/
inductive IsNameToken : Text → Prop
  /-- A name between quotes, with something in it. -/
  | quoted {body : Text} (h : untilQuote? body = some (body, [])) (hne : body ≠ ['"']) :
    IsNameToken ('#' :: '"' :: body)
  /-- A run of word characters. -/
  | bare {n : Text} (hne : n ≠ []) (h : ∀ c ∈ n, isWord c = true) : IsNameToken n

/-- A name ends in front of a text. -/
def endsName (t : Text) : Bool := t.head?.all fun c => !isWord c && c != '"'

theorem word?_eq_some {t n r : Text} (h : word? t = some (n, r)) :
    t = n ++ r ∧ n ≠ [] ∧ ∀ c ∈ n, isWord c = true := by
  rw [word?] at h
  have hall : ∀ c ∈ t.takeWhile isWord, isWord c = true := fun _ => List.mem_takeWhile_imp
  have happ := List.takeWhile_append_dropWhile (p := isWord) (l := t)
  split at h
  · cases h
  · rename_i w hne
    cases h
    exact ⟨happ.symm, fun h => hne h, hall⟩

theorem word?_append {n r : Text} (hne : n ≠ []) (h : ∀ c ∈ n, isWord c = true)
    (hr : endsName r = true) : word? (n ++ r) = some (n, r) := by
  have hstop : r.takeWhile isWord = [] ∧ r.dropWhile isWord = r := by
    cases r with
    | nil => exact ⟨rfl, rfl⟩
    | cons c r =>
      have hc : isWord c = false := by
        simp only [endsName, List.head?_cons, Option.all_some, Bool.and_eq_true] at hr
        simpa using hr.1
      exact ⟨List.takeWhile_cons_of_neg (by simp [hc]), List.dropWhile_cons_of_neg (by simp [hc])⟩
  rw [word?, List.takeWhile_append_of_pos h, List.dropWhile_append_of_pos h, hstop.1, hstop.2,
    List.append_nil]
  cases n with
  | nil => exact absurd rfl hne
  | cons c n => rfl

theorem exists_of_nameToken? {t n r : Text} (h : nameToken? t = some (n, r)) :
    t = n ++ r ∧ IsNameToken n := by
  unfold nameToken? at h
  split at h
  · rename_i rest
    split at h
    · cases h
    · rename_i body after hne hu
      cases h
      obtain ⟨rfl, hb⟩ := untilQuote?_eq_some hu
      exact ⟨rfl, .quoted hb fun h => hne (by rw [h])⟩
    · cases h
  · obtain ⟨ht, hne, hn⟩ := word?_eq_some h
    exact ⟨ht, .bare hne hn⟩

theorem nameToken?_append {n r : Text} (hn : IsNameToken n) (hr : endsName r = true) :
    nameToken? (n ++ r) = some (n, r) := by
  cases hn with
  | @quoted body h hne =>
    have hq : r.head? ≠ some '"' := by
      intro hq
      simp [endsName, hq] at hr
    simp only [List.cons_append, nameToken?, untilQuote?_append h hq]
  | bare hne h =>
    have hword := word?_append hne h hr
    unfold nameToken?
    split
    · rename_i rest heq
      obtain ⟨c, n, rfl⟩ := List.exists_cons_of_ne_nil hne
      rw [List.cons_append, List.cons.injEq] at heq
      have := h c List.mem_cons_self
      rw [heq.1] at this
      exact absurd this (by decide)
    · exact hword

theorem IsNameToken.startsSolid {n : Text} (h : IsNameToken n) (r : Text) :
    startsSolid (n ++ r) = true := by
  cases h with
  | quoted => rfl
  | bare hne h =>
    obtain ⟨c, n, rfl⟩ := List.exists_cons_of_ne_nil hne
    have hc := h c List.mem_cons_self
    cases hb : isBlank c with
    | false => simp [Mashup.startsSolid, hb]
    | true =>
      rw [isWord_of_isBlank hb] at hc
      cases hc

/-! ## Keyword, name and sign -/

/-- A sign is told apart from blanks and names. -/
def isSign (c : Char) : Bool := !isBlank c && !isWord c && c != '"'

/-- A keyword, a name and a sign, and what follows them. -/
def named (letters : Text) (sign : Char) : Pattern Text := fun before t => do
  guard (startsWord before)
  let rest ← keyword? letters t
  let rest ← someBlanks? rest
  let (name, rest) ← nameToken? rest
  let rest ← sign? sign (blanks rest)
  return (name, rest)

/-- The texts that `named` takes, with the name in them. -/
inductive Named (letters : Text) (sign : Char) : (x name : Text) → Prop
  | mk {k ws n ws' : Text} (keyword : keyword? letters k = some []) (ne : ws ≠ [])
    (blank : Text.allBlank ws = true) (name : IsNameToken n) (blank' : Text.allBlank ws' = true) :
    Named letters sign (k ++ (ws ++ (n ++ (ws' ++ [sign])))) n

theorem endsName_append_cons {ws : Text} (hws : Text.allBlank ws = true) {s : Char}
    (hs : isSign s = true) (r : Text) : endsName (ws ++ s :: r) = true := by
  simp only [isSign, Bool.and_eq_true] at hs
  cases ws with
  | nil => simpa [endsName] using ⟨by simpa using hs.1.2, by simpa using hs.2⟩
  | cons c ws =>
    rw [Text.allBlank, List.all_cons, Bool.and_eq_true] at hws
    have hq : c ≠ '"' := by
      rintro rfl
      exact absurd hws.1 (by decide)
    simp [endsName, isWord_of_isBlank hws.1, hq]

/-- **The pattern takes the texts of its shape.** -/
theorem named_eq_some_iff {letters : Text} {sign : Char} (hs : isSign sign = true)
    {b : Option Char} {t n r : Text} :
    named letters sign b t = some (n, r) ↔
      startsWord b = true ∧ ∃ x, t = x ++ r ∧ Named letters sign x n := by
  simp only [named, Option.bind_eq_bind, Option.bind_eq_some_iff]
  constructor
  · rintro ⟨_, hb, t₁, h₁, t₂, h₂, ⟨n', t₃⟩, h₃, t₄, hsign, heq⟩
    cases heq
    obtain ⟨k, rfl, hk⟩ := exists_of_keyword? h₁
    obtain ⟨ws, hne, rfl, hws, -⟩ := someBlanks?_eq_some_iff.1 h₂
    obtain ⟨rfl, hn⟩ := exists_of_nameToken? h₃
    obtain ⟨ws', ht, hws', -⟩ := exists_of_blanks t₃
    rw [sign?_eq_some_iff.1 hsign] at ht
    refine ⟨guard_eq_some_iff.1 hb, _, ?_, .mk hk hne hws hn hws'⟩
    rw [ht]
    simp
  · rintro ⟨hb, x, rfl, hx⟩
    obtain ⟨hk, hne, hws, hn, hws'⟩ := hx
    simp only [List.append_assoc, List.cons_append, List.nil_append]
    refine ⟨(), guard_eq_some_iff.2 hb, _, keyword?_append hk _, _,
      someBlanks?_eq_some_iff.2 ⟨_, hne, rfl, hws, hn.startsSolid _⟩, _,
      nameToken?_append hn (endsName_append_cons hws' hs _), r, ?_, rfl⟩
    have hsolid : startsSolid (sign :: r) = true := by
      simp only [isSign, Bool.and_eq_true] at hs
      exact hs.1.1
    rw [blanks_append hws' hsolid, sign?_eq_some_iff]

theorem heading_eq_map (b : Option Char) (t : Text) :
    heading b t = (named (text "shared") '=' b t).map fun (n, r) => (n, blanks r) := by
  simp [heading, named, Option.map_bind]

theorem sectionHeader_eq_map (b : Option Char) (t : Text) :
    sectionHeader b t = (named (text "section") ';' b t).map fun (_, r) => ((), r) := by
  simp [sectionHeader, named, Option.map_bind]

/-- A heading takes the blanks behind its sign as well. -/
theorem heading_eq_some_iff {b : Option Char} {t n r : Text} :
    heading b t = some (n, r) ↔ startsWord b = true ∧
      ∃ x ws, t = x ++ (ws ++ r) ∧ Named (text "shared") '=' x n ∧ Text.allBlank ws = true ∧
        startsSolid r = true := by
  rw [heading_eq_map, Option.map_eq_some_iff]
  constructor
  · rintro ⟨⟨n', r'⟩, h, heq⟩
    cases heq
    obtain ⟨hb, x, rfl, hx⟩ := (named_eq_some_iff (by decide)).1 h
    obtain ⟨ws, hr, hws, hsolid⟩ := exists_of_blanks r'
    exact ⟨hb, x, ws, by rw [← hr], hx, hws, hsolid⟩
  · rintro ⟨hb, x, ws, rfl, hx, hws, hr⟩
    refine ⟨(n, ws ++ r), (named_eq_some_iff (by decide)).2 ⟨hb, x, rfl, hx⟩, ?_⟩
    simp only [blanks_append hws hr]

theorem sectionHeader_eq_some_iff {b : Option Char} {t r : Text} :
    sectionHeader b t = some ((), r) ↔ startsWord b = true ∧
      ∃ x n, t = x ++ r ∧ Named (text "section") ';' x n := by
  rw [sectionHeader_eq_map, Option.map_eq_some_iff]
  constructor
  · rintro ⟨⟨n, r'⟩, h, heq⟩
    cases heq
    obtain ⟨hb, x, rfl, hx⟩ := (named_eq_some_iff (by decide)).1 h
    exact ⟨hb, x, n, rfl, hx⟩
  · rintro ⟨hb, x, n, rfl, hx⟩
    exact ⟨(n, r), (named_eq_some_iff (by decide)).2 ⟨hb, x, rfl, hx⟩, rfl⟩

theorem Named.ne_nil {letters x n : Text} {sign : Char} (h : Named letters sign x n) : x ≠ [] := by
  cases h
  simp

theorem isLocal_named (letters : Text) {sign : Char} (hs : isSign sign = true) :
    (named letters sign).IsLocal where
  takes h := by
    obtain ⟨-, x, ht, hx⟩ := (named_eq_some_iff hs).1 h
    exact ⟨x, hx.ne_nil, ht⟩
  restricts h := by
    obtain ⟨hb, x, ht, hx⟩ := (named_eq_some_iff hs).1 h
    rw [← List.append_assoc] at ht
    exact (named_eq_some_iff hs).2 ⟨hb, x, List.append_cancel_right ht, hx⟩
  persists h v := by
    obtain ⟨hb, x, rfl, hx⟩ := (named_eq_some_iff hs).1 h
    rw [(named_eq_some_iff hs).2 ⟨hb, x, List.append_assoc _ _ _, hx⟩]
    rfl

theorem isLocal_heading : heading.IsLocal where
  takes h := by
    obtain ⟨-, x, ws, rfl, hx, -⟩ := heading_eq_some_iff.1 h
    exact ⟨x ++ ws, fun h => hx.ne_nil (List.append_eq_nil_iff.1 h).1,
      (List.append_assoc _ _ _).symm⟩
  restricts {b u v n r} h := by
    obtain ⟨hb, x, ws, ht, hx, hws, hr⟩ := heading_eq_some_iff.1 h
    have hu : u ++ v = x ++ (ws ++ r) ++ v := by simpa using ht
    refine heading_eq_some_iff.2 ⟨hb, x, ws, List.append_cancel_right hu, hx, hws, ?_⟩
    cases r with
    | nil => rfl
    | cons c r => exact hr
  persists {b u n r} h v := by
    rw [heading_eq_map] at h ⊢
    obtain ⟨⟨n', r'⟩, h, -⟩ := Option.map_eq_some_iff.1 h
    rw [Option.isSome_map]
    exact (isLocal_named _ (by decide)).persists h v

theorem isLocal_sectionHeader : sectionHeader.IsLocal where
  takes h := by
    obtain ⟨-, x, n, rfl, hx⟩ := sectionHeader_eq_some_iff.1 h
    exact ⟨x, hx.ne_nil, rfl⟩
  restricts h := by
    obtain ⟨hb, x, n, ht, hx⟩ := sectionHeader_eq_some_iff.1 h
    rw [← List.append_assoc] at ht
    exact sectionHeader_eq_some_iff.2 ⟨hb, x, n, List.append_cancel_right ht, hx⟩
  persists {b u y r} h v := by
    rw [sectionHeader_eq_map] at h ⊢
    obtain ⟨⟨n', r'⟩, h, -⟩ := Option.map_eq_some_iff.1 h
    rw [Option.isSome_map]
    exact (isLocal_named _ (by decide)).persists h v

/-! ## The mark of a keyword -/

/-- A keyword at the beginning of a word, with a blank behind it. -/
def keywordMark (letters : Text) : Pattern Unit := fun before t => do
  guard (startsWord before)
  let rest ← keyword? letters t
  let rest ← someBlanks? rest
  return ((), rest)

theorem keywordMark_isSome_iff {letters : Text} {b : Option Char} {t : Text} :
    (keywordMark letters b t).isSome = true ↔ startsWord b = true ∧
      ∃ k c r, t = k ++ c :: r ∧ keyword? letters k = some [] ∧ isBlank c = true := by
  simp only [keywordMark, Option.bind_eq_bind, Option.isSome_bind, Option.any_eq_true]
  constructor
  · rintro ⟨_, hb, t₁, h₁, t₂, h₂, -⟩
    obtain ⟨k, rfl, hk⟩ := exists_of_keyword? h₁
    obtain ⟨ws, hne, rfl, hws, -⟩ := someBlanks?_eq_some_iff.1 h₂
    obtain ⟨c, ws, rfl⟩ := List.exists_cons_of_ne_nil hne
    rw [Text.allBlank, List.all_cons, Bool.and_eq_true] at hws
    exact ⟨guard_eq_some_iff.1 hb, k, c, ws ++ t₂, rfl, hk, hws.1⟩
  · rintro ⟨hb, k, c, r, rfl, hk, hc⟩
    exact ⟨(), guard_eq_some_iff.2 hb, _, keyword?_append hk _, blanks r,
      by rw [someBlanks?, if_pos hc], rfl⟩

theorem Named.isSome_keywordMark {letters x n : Text} {sign : Char} (h : Named letters sign x n)
    {b : Option Char} (hb : startsWord b = true) (r : Text) :
    (keywordMark letters b (x ++ r)).isSome = true := by
  obtain ⟨hk, hne, hws, -, -⟩ := h
  rename_i k ws ws'
  obtain ⟨c, ws, rfl⟩ := List.exists_cons_of_ne_nil hne
  rw [Text.allBlank, List.all_cons, Bool.and_eq_true] at hws
  refine keywordMark_isSome_iff.2 ⟨hb, k, c, ws ++ (n ++ (ws' ++ [sign])) ++ r, ?_, hk, hws.1⟩
  simp

theorem keywordMark_of_heading (b : Option Char) (t : Text) (h : (heading b t).isSome = true) :
    (keywordMark (text "shared") b t).isSome = true := by
  obtain ⟨⟨n, r⟩, h⟩ := Option.isSome_iff_exists.1 h
  obtain ⟨hb, x, ws, rfl, hx, -⟩ := heading_eq_some_iff.1 h
  exact hx.isSome_keywordMark hb (ws ++ r)

/-- A character that stands for no letter of a keyword. -/
def avoids (letters : Text) (c : Char) : Bool := letters.all fun letter => !matchesLetter letter c

theorem not_mem_of_keyword? {letters k : Text} (hk : keyword? letters k = some []) {c : Char}
    (hc : avoids letters c = true) : c ∉ k := by
  intro hmem
  obtain ⟨l, hl, hm⟩ := exists_matchesLetter hk c hmem
  simp only [avoids, List.all_eq_true, Bool.not_eq_true'] at hc
  rw [hc l hl] at hm
  cases hm

/-- A character that belongs to no mark of a keyword. -/
def barsMark (letters : Text) (c : Char) : Bool := !isBlank c && avoids letters c

/-- No mark reaches over such a character. -/
theorem keywordMark_of_barsMark {letters : Text} {c : Char} (hc : barsMark letters c = true)
    (v : Text) (b : Option Char) (x : Text)
    (h : (keywordMark letters b (x ++ c :: v)).isSome = true) :
    x ≠ [] ∧ (keywordMark letters b x).isSome = true := by
  simp only [barsMark, Bool.and_eq_true, Bool.not_eq_true'] at hc
  obtain ⟨hb, k, d, r, ht, hk, hd⟩ := keywordMark_isSome_iff.1 h
  have hne : d ≠ c := by
    rintro rfl
    rw [hd] at hc
    cases hc.1
  rcases List.append_eq_append_iff.1 ht with ⟨y, rfl, hy⟩ | ⟨y, rfl, hy⟩
  · cases y with
    | nil => exact absurd (List.cons.inj hy).1.symm hne
    | cons e y =>
      obtain rfl : c = e := (List.cons.inj hy).1
      exact absurd (by simp) (not_mem_of_keyword? hk hc.2)
  · cases y with
    | nil => exact absurd (List.cons.inj hy).1 hne
    | cons e y =>
      obtain rfl : d = e := (List.cons.inj hy).1
      exact ⟨by simp, keywordMark_isSome_iff.2 ⟨hb, k, d, y, rfl, hk, hd⟩⟩

theorem keywordMark_congr {letters : Text} {b b' : Option Char} (h : startsWord b = startsWord b')
    (t : Text) : keywordMark letters b t = keywordMark letters b' t := by
  rw [keywordMark, keywordMark, h]

theorem foundAfter_congr {letters : Text} {b b' : Option Char}
    (h : startsWord b = startsWord b') (t : Text) :
    (keywordMark letters).foundAfter b t = (keywordMark letters).foundAfter b' t := by
  cases t with
  | nil => rfl
  | cons c t => rw [Pattern.foundAfter_cons, Pattern.foundAfter_cons, keywordMark_congr h]

theorem foundAfter_of_append {letters : Text} {b : Option Char} {u v : Text}
    (h : (keywordMark letters).foundAfter b (u ++ v) = false) :
    (keywordMark letters).foundAfter b u = false := by
  induction u generalizing b with
  | nil => rfl
  | cons c u ih =>
    rw [List.cons_append, Pattern.foundAfter_cons, Bool.or_eq_false_iff] at h
    rw [Pattern.foundAfter_cons, Bool.or_eq_false_iff]
    refine ⟨?_, ih h.2⟩
    cases hm : (keywordMark letters b (c :: u)).isSome with
    | false => rfl
    | true =>
      obtain ⟨hb, k, d, r, ht, hk, hd⟩ := keywordMark_isSome_iff.1 hm
      have hsome : (keywordMark letters b (c :: (u ++ v))).isSome = true :=
        keywordMark_isSome_iff.2 ⟨hb, k, d, r ++ v, by
          rw [← List.cons_append, ht, List.append_assoc, List.cons_append], hk, hd⟩
      rw [h.1] at hsome
      cases hsome

/-- What is not found in a text is found at none of its places. -/
theorem isSome_eq_false_of_foundAfter {α : Type} {p : Pattern α} {b : Option Char} {u : Text}
    {c : Char} {v : Text} (h : p.foundAfter b (u ++ c :: v) = false) :
    (p (u.getLast?.or b) (c :: v)).isSome = false := by
  induction u generalizing b with
  | nil =>
    rw [List.nil_append, Pattern.foundAfter_cons, Bool.or_eq_false_iff] at h
    exact h.1
  | cons d u ih =>
    rw [List.cons_append, Pattern.foundAfter_cons, Bool.or_eq_false_iff] at h
    rw [getLast?_cons_or]
    exact ih h.2

/-! ## How headings are read -/

/-- A character without a small form is matched by itself only, four beyond ASCII apart. -/
theorem eq_of_matchesLetter {letter c : Char} (hc : c.toLower = c)
    (h : matchesLetter letter c = true) : c = letter ∨ c ∈ ['ſ', '\u212A', '\u0130', 'ı'] := by
  simp only [matchesLetter, Bool.or_eq_true, beq_iff_eq, Bool.and_eq_true, hc] at h
  rcases h with ((rfl | ⟨-, rfl⟩) | ⟨-, rfl⟩) | ⟨-, rfl | rfl⟩
  · exact .inl rfl
  all_goals exact .inr (by decide)

theorem toLower_of_isBlank {c : Char} (h : isBlank c = true) : c.toLower = c := by
  obtain ⟨r, hr, hfirst, hlast⟩ := CharClass.exists_of_has h
  have hapart : ∀ r ∈ blankClass, r.2 < 0x41 ∨ 0x5A < r.1 := by decide
  have hrange := hapart r hr
  delta Char.toLower
  split
  · rename_i hupper
    have hlow : 0x41 ≤ c.toNat := hupper.1
    have hhigh : c.toNat ≤ 0x5A := hupper.2
    omega
  · rfl

/-- No character is blank or of any concern to the reader of literals. -/
def IsPlainWord (letters : Text) : Prop :=
  ∀ letter ∈ letters, Lex.isPlain letter = true ∧ isBlank letter = false

instance (letters : Text) : Decidable (IsPlainWord letters) :=
  List.decidableBAll (fun letter => Lex.isPlain letter = true ∧ isBlank letter = false) letters

/-- What is matched by a plain letter is plain. -/
theorem isPlain_of_matchesLetter {letter c : Char}
    (hletter : Lex.isPlain letter = true ∧ isBlank letter = false)
    (h : matchesLetter letter c = true) : Lex.isPlain c = true ∧ isBlank c = false := by
  have hfour : IsPlainWord ['ſ', '\u212A', '\u0130', 'ı'] := by decide
  have hself : c.toLower = c → Lex.isPlain c = true ∧ isBlank c = false := by
    intro hc
    rcases eq_of_matchesLetter hc h with rfl | hmem
    · exact hletter
    · exact hfour c hmem
  by_cases hc : c.toLower = c
  · exact hself hc
  · constructor
    · simp only [Lex.isPlain, Bool.and_eq_true, bne_iff_ne]
      refine ⟨⟨⟨?_, ?_⟩, ?_⟩, ?_⟩ <;> rintro rfl <;> exact hc (by decide)
    · exact Bool.eq_false_iff.2 fun hblank => hc (toLower_of_isBlank hblank)

/-- A keyword begins with a character that is neither blank nor of any concern to the reader of
literals. -/
theorem keyword?_head {letter : Char} (hletter : Lex.isPlain letter = true ∧ isBlank letter = false)
    {letters t r : Text} (h : keyword? (letter :: letters) t = some r) :
    ∃ c rest, t = c :: rest ∧ Lex.isPlain c = true ∧ isBlank c = false := by
  cases t with
  | nil => cases h
  | cons c t =>
    rw [keyword?] at h
    split at h
    · rename_i hc
      exact ⟨c, t, rfl, isPlain_of_matchesLetter hletter hc⟩
    · cases h

theorem run_string_of_untilQuote? {t body : Text} (h : untilQuote? t = some (body, [])) :
    Lex.string.run t = .quote := by
  refine untilQuote?_induction (P := fun t => Lex.string.run t = .quote) h rfl
    (fun rest ih => ih) fun c rest hc ih => ?_
  rw [Lex.run_cons, Lex.step, if_neg hc]
  exact ih

/-- In front of a character of a quoted name, other than a quote, the reader is in a string. -/
theorem run_string_of_untilQuote?_append {y z body : Text} {c : Char} (hc : c ≠ '"')
    (h : untilQuote? (y ++ c :: z) = some (body, [])) : Lex.string.run y = .string := by
  refine untilQuote?_induction (P := fun t => ∀ y, y ++ c :: z = t → Lex.string.run y = .string) h
    (fun y ht => ?_) (fun rest ih y ht => ?_) (fun d rest hd ih y ht => ?_) y rfl
  · rcases y with _ | ⟨d, y⟩
    · rfl
    · simp at ht
  · rcases y with _ | ⟨d, _ | ⟨e, y⟩⟩
    · rfl
    · exact absurd (by simp_all) hc
    · simp only [List.cons_append, List.cons.injEq] at ht
      obtain ⟨rfl, rfl, ht'⟩ := ht
      rw [Lex.run_cons, Lex.run_cons]
      exact ih y ht'
  · rcases y with _ | ⟨e, y⟩
    · rfl
    · rw [List.cons_append, List.cons.injEq] at ht
      obtain ⟨rfl, ht'⟩ := ht
      rw [Lex.run_cons, Lex.step, if_neg hd]
      exact ih y ht'

theorem run_code_of_isWord {n : Text} (h : ∀ c ∈ n, isWord c = true) : Lex.code.run n = .code := by
  refine Lex.run_code_of_forall fun c hc => ⟨?_, ?_⟩
  · rintro rfl
    exact absurd (h _ hc) (by decide)
  · rintro rfl
    exact absurd (h _ hc) (by decide)

/-- A name leaves nothing open. -/
theorem IsNameToken.isCode_run {n : Text} (h : IsNameToken n) :
    (Lex.code.run n).isCode = true := by
  cases h with
  | quoted h =>
    have := run_string_of_untilQuote? h
    rw [Lex.run_cons, Lex.run_cons]
    exact congrArg Lex.isCode this
  | bare _ h => rw [run_code_of_isWord h]; rfl

theorem exists_of_append_cons {α : Type} {u v k r : List α} {c : α} (h : k ++ r = u ++ c :: v)
    (hc : c ∉ k) : ∃ y, u = k ++ y ∧ r = y ++ c :: v := by
  rcases List.append_eq_append_iff.1 h with ⟨y, rfl, hr⟩ | ⟨y, rfl, hy⟩
  · exact ⟨y, rfl, hr⟩
  · cases y with
    | nil => exact ⟨[], by simp, by simpa using hy.symm⟩
    | cons d y =>
      obtain rfl : c = d := (List.cons.inj hy).1
      exact absurd (by simp) hc

theorem append_eq_append_cases {α : Type} {u v p q : List α} (h : u ++ v = p ++ q) :
    (∃ t, p = u ++ t ∧ v = t ++ q) ∨ ∃ c t, u = p ++ c :: t ∧ q = c :: (t ++ v) := by
  rcases List.append_eq_append_iff.1 h with h | ⟨t, rfl, rfl⟩
  · exact .inl h
  · cases t with
    | nil => exact .inl ⟨[], by simp, rfl⟩
    | cons c t => exact .inr ⟨c, t, rfl, rfl⟩

/-- So it is in front of any other character that is found in the name and not behind it. -/
theorem run_string_of_body {body r u v : Text} {c : Char}
    (hb : untilQuote? body = some (body, [])) (h : body ++ r = u ++ c :: v) (hr : c ∉ r)
    (hc : c ≠ '"') : Lex.string.run u = .string := by
  rcases List.append_eq_append_iff.1 h with ⟨z, rfl, hz⟩ | ⟨z, rfl, hz⟩
  · exact absurd (by rw [hz]; simp) hr
  · cases z with
    | nil =>
      rw [List.nil_append] at hz
      exact absurd (by rw [← hz]; simp) hr
    | cons d z =>
      obtain rfl : c = d := (List.cons.inj hz).1
      exact run_string_of_untilQuote?_append hc hb

theorem not_mem_of_allBlank {ws : Text} (hws : Text.allBlank ws = true) {c : Char}
    (hc : isBlank c = false) : c ∉ ws := by
  intro hmem
  rw [List.all_eq_true.1 hws c hmem] at hc
  cases hc

theorem run_code_of_keyword? {letters k : Text} (hk : keyword? letters k = some [])
    (hquote : avoids letters '"' = true) (hslash : avoids letters '/' = true) :
    Lex.code.run k = .code := by
  refine Lex.run_code_of_forall fun c hc => ⟨?_, ?_⟩
  · rintro rfl
    exact not_mem_of_keyword? hk hquote hc
  · rintro rfl
    exact not_mem_of_keyword? hk hslash hc

theorem run_code_of_allBlank {ws : Text} (hws : Text.allBlank ws = true) :
    Lex.code.run ws = .code := by
  refine Lex.run_code_of_forall fun c hc => ⟨?_, ?_⟩
  · rintro rfl
    exact not_mem_of_allBlank hws (by decide) hc
  · rintro rfl
    exact not_mem_of_allBlank hws (by decide) hc

/-- **An opening bracket in a heading belongs to a quoted name**: so the heading can be taken apart
at it. -/
theorem Named.exists_of_bracket {letters n u v : Text} {sign : Char}
    (h : Named letters sign (u ++ '[' :: v) n) (hbracket : avoids letters '[' = true)
    (hs : sign ≠ '[') :
    ∃ k ws y z ws', keyword? letters k = some [] ∧ ws ≠ [] ∧ Text.allBlank ws = true ∧
      untilQuote? (y ++ '[' :: z) = some (y ++ '[' :: z, []) ∧ Text.allBlank ws' = true ∧
      u = k ++ (ws ++ '#' :: '"' :: y) ∧ v = z ++ (ws' ++ [sign]) := by
  generalize hx : u ++ '[' :: v = x at h
  obtain ⟨hk, hne, hws, hn, hws'⟩ := h
  rename_i k ws ws'
  obtain ⟨u₁, rfl, h₁⟩ := exists_of_append_cons hx.symm (not_mem_of_keyword? hk hbracket)
  obtain ⟨u₂, rfl, h₂⟩ := exists_of_append_cons h₁ (not_mem_of_allBlank hws (by decide))
  have hend : '[' ∉ ws' ++ [sign] := by
    rw [List.mem_append, List.mem_singleton, not_or]
    exact ⟨not_mem_of_allBlank hws' (by decide), hs.symm⟩
  cases hn with
  | bare _ hw =>
    obtain ⟨u₃, -, h₃⟩ := exists_of_append_cons h₂ fun h => absurd (hw _ h) (by decide)
    exact absurd (by rw [h₃]; simp) hend
  | quoted hb _ =>
    rcases u₂ with _ | ⟨_, _ | ⟨_, y⟩⟩
    · simp at h₂
    · simp at h₂
    · simp only [List.cons_append, List.cons.injEq] at h₂
      obtain ⟨rfl, rfl, h₃⟩ := h₂
      rcases append_eq_append_cases h₃ with ⟨t, rfl, h₄⟩ | ⟨d, z, rfl, h₄⟩
      · exact absurd (by rw [h₄]; simp) hend
      · obtain ⟨rfl, rfl⟩ := List.cons.inj h₄
        exact ⟨k, ws, y, z, ws', hk, hne, hws, hb, hws', rfl, rfl⟩

/-- In front of such a bracket the reader is in a string. -/
theorem Named.run_of_bracket {letters n u v : Text} {sign : Char}
    (h : Named letters sign (u ++ '[' :: v) n) (hquote : avoids letters '"' = true)
    (hslash : avoids letters '/' = true) (hbracket : avoids letters '[' = true)
    (hs : sign ≠ '[') : Lex.code.run u = .string := by
  obtain ⟨k, ws, y, z, ws', hk, -, hws, hb, -, rfl, -⟩ := h.exists_of_bracket hbracket hs
  rw [Lex.run_append, Lex.run_append, run_code_of_keyword? hk hquote hslash,
    run_code_of_allBlank hws]
  exact run_string_of_untilQuote?_append (by decide) hb

end Mashup
end Dataflow
