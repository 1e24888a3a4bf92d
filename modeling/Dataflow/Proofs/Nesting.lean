import Dataflow.Proofs.Entrance

/-!
# Headings inside of headings

A heading and a section header take their text for themselves: no other one begins in code inside of
it.  The keyword does not show its first letter a second time, a blank begins no keyword, behind a
bare name there is the sign and not another name, and between the quotes of a name nothing counts.
The word and the sign play no part in this, so `named_inside_named` shows it of `named`, for any
`IsKeyword` and any sign.

A pattern with this property is `Pattern.Exclusive`, and then it is known where its occurrences that
count begin (`Pattern.exists_mem_live_iff`).
-/

set_option autoImplicit false

namespace Dataflow
namespace Mashup

/-! ## Keywords -/

/-- A keyword of small letters with an `s` at its beginning and no other. -/
structure IsKeyword (letters : Text) : Prop where
  /-- Its letters are small ASCII letters. -/
  small : letters.all Char.isLower = true
  /-- It begins with an `s`. -/
  head : letters.head? = some 's'
  /-- There is no other in it. -/
  once : 's' ∉ letters.tail

theorem isKeyword_shared : IsKeyword (text "shared") := ⟨by decide, by decide, by decide⟩

theorem isKeyword_section : IsKeyword (text "section") := ⟨by decide, by decide, by decide⟩

/-- What is matched by a small letter is a word character. -/
theorem isWord_of_matchesLetter {letter c : Char} (hletter : letter.isLower = true)
    (h : matchesLetter letter c = true) : isWord c = true := by
  have hfour : ['ſ', '\u212A', '\u0130', 'ı'].all isWord = true := by decide +kernel
  by_cases hc : c.toLower = c
  · rcases eq_of_matchesLetter hc h with rfl | hmem
    · refine isWord_of_isBareStart ?_
      delta Name.isBareStart Char.isAlpha
      simp only [hletter, Bool.or_true, Bool.true_or]
    · exact List.all_eq_true.1 hfour c hmem
  · have hupper : c.isUpper = true := by
      delta Char.isUpper
      refine decide_eq_true ?_
      by_contra hrange
      exact hc (dif_neg hrange)
    refine isWord_of_isBareStart ?_
    delta Name.isBareStart Char.isAlpha
    simp only [hupper, Bool.true_or]

/-- What is matched by an `s` is matched by no other small letter. -/
theorem eq_s_of_matchesLetter {letter c : Char} (hletter : letter.isLower = true)
    (hs : matchesLetter 's' c = true) (h : matchesLetter letter c = true) : letter = 's' := by
  simp only [matchesLetter, Bool.or_eq_true, beq_iff_eq, Bool.and_eq_true] at hs h
  rcases hs with ((hs | ⟨-, rfl⟩) | ⟨hs, -⟩) | ⟨hs, -⟩
  · rcases h with ((h | ⟨h, -⟩) | ⟨-, rfl⟩) | ⟨-, rfl | rfl⟩
    · exact h.symm.trans hs
    · exact h
    all_goals exact absurd hs (by decide)
  · rcases h with ((rfl | ⟨h, -⟩) | ⟨-, h⟩) | ⟨-, h | h⟩
    · exact absurd hletter (by decide)
    · exact h
    all_goals exact absurd h (by decide)
  all_goals exact absurd hs (by decide)

namespace IsKeyword

variable {letters k : Text} (hl : IsKeyword letters)

include hl

theorem isWord (hk : keyword? letters k = some []) : ∀ c ∈ k, isWord c = true := by
  intro c hc
  obtain ⟨letter, hletter, hm⟩ := exists_matchesLetter hk c hc
  exact isWord_of_matchesLetter (List.all_eq_true.1 hl.small letter hletter) hm

/-- A keyword is not empty, and only its first character can begin a keyword. -/
theorem exists_cons (hk : keyword? letters k = some []) :
    ∃ c rest, k = c :: rest ∧ ∀ d ∈ rest, matchesLetter 's' d = false := by
  obtain ⟨rest, rfl⟩ := List.head?_eq_some_iff.1 hl.head
  cases k with
  | nil => cases hk
  | cons c k =>
    refine ⟨c, k, rfl, fun d hd => ?_⟩
    rw [keyword?] at hk
    split at hk
    · obtain ⟨letter, hletter, hm⟩ := exists_matchesLetter hk d hd
      refine Bool.eq_false_iff.2 fun hs => hl.once ?_
      have hsmall := List.all_eq_true.1 hl.small letter (List.mem_cons_of_mem _ hletter)
      exact eq_s_of_matchesLetter hsmall hs hm ▸ hletter
    · cases hk

/-- A keyword can be read as a bare name. -/
theorem isNameToken (hk : keyword? letters k = some []) : IsNameToken k := by
  refine .bare ?_ (hl.isWord hk)
  obtain ⟨c, rest, rfl, -⟩ := hl.exists_cons hk
  exact List.cons_ne_nil c rest

end IsKeyword

/-! ## A sign behind a name -/

section

variable {sign : Char} (hs : isSign sign = true) (hhash : sign ≠ '#')

include hs

theorem startsSolid_sign (r : Text) : startsSolid (sign :: r) = true := by
  simp only [isSign, Bool.and_eq_true] at hs
  exact hs.1.1

/-- No sign begins a keyword. -/
theorem matchesLetter_sign : matchesLetter 's' sign = false := by
  refine Bool.eq_false_iff.2 fun h => ?_
  have hword := isWord_of_matchesLetter (by decide) h
  simp [isSign, hword] at hs

include hhash

theorem IsNameToken.append_ne_cons {n r s : Text} (h : IsNameToken n) : n ++ r ≠ sign :: s := by
  cases h with
  | quoted =>
    intro heq
    exact hhash (List.cons.inj heq).1.symm
  | bare hne hw =>
    obtain ⟨c, n, rfl⟩ := List.exists_cons_of_ne_nil hne
    intro heq
    have hword := hw c List.mem_cons_self
    rw [(List.cons.inj heq).1] at hword
    simp [isSign, hword] at hs

/-- **A keyword with a name behind it** is not read as a name with a sign behind it. -/
theorem IsKeyword.ne_append {letters k ws n r m ws' s : Text} (hl : IsKeyword letters)
    (hk : keyword? letters k = some []) (hne : ws ≠ []) (hws : Text.allBlank ws = true)
    (hn : IsNameToken n) (hm : IsNameToken m) (hws' : Text.allBlank ws' = true) :
    k ++ (ws ++ (n ++ r)) ≠ m ++ (ws' ++ sign :: s) := by
  intro h
  have hends : endsName (ws ++ (n ++ r)) = true := by
    obtain ⟨c, ws, rfl⟩ := List.exists_cons_of_ne_nil hne
    have hc := List.all_eq_true.1 hws c List.mem_cons_self
    have hquote : c ≠ '"' := by
      rintro rfl
      exact absurd hc (by decide)
    simp [endsName, isWord_of_isBlank hc, hquote]
  have htoken := congrArg nameToken? h
  rw [nameToken?_append (hl.isNameToken hk) hends,
    nameToken?_append hm (endsName_append_cons hws' hs s), Option.some_inj, Prod.mk.injEq] at htoken
  have hrest :=
    eq_of_blanks_append hws (hn.startsSolid r) hws' (startsSolid_sign hs s) htoken.2
  exact hn.append_ne_cons hs hhash hrest

end

/-! ## What does not begin -/

theorem not_startsWord_of_getLast? {p : Text} (hp : p ≠ []) (hw : ∀ c ∈ p, isWord c = true)
    (u : Text) : startsWord (u ++ p).getLast? = false := by
  rw [List.getLast?_append, List.getLast?_eq_some_getLast hp]
  simp [startsWord, hw _ (List.getLast_mem hp)]

section

variable {letters : Text} {sign : Char} (hl : IsKeyword letters)

theorem named_eq_none_of_not_startsWord {b : Option Char} {t : Text}
    (hb : startsWord b = false) : named letters sign b t = none := by
  simp [named, hb]

include hl

theorem named_eq_none_of_cons {b : Option Char} {c : Char} {t : Text}
    (hc : matchesLetter 's' c = false) : named letters sign b (c :: t) = none := by
  obtain ⟨rest, rfl⟩ := List.head?_eq_some_iff.1 hl.head
  simp [named, keyword?, hc]

theorem named_eq_none_of_isBlank {b : Option Char} {c : Char} {t : Text}
    (hc : isBlank c = true) : named letters sign b (c :: t) = none := by
  refine named_eq_none_of_cons hl (Bool.eq_false_iff.2 fun h => ?_)
  have hword := isWord_of_matchesLetter (by decide) h
  rw [isWord_of_isBlank hc] at hword
  cases hword

theorem named_eq_none_in_keyword {b : Option Char} {k p t v : Text} {c : Char}
    (hk : keyword? letters k = some []) (h : k = p ++ c :: t) (hp : p ≠ []) :
    named letters sign b (c :: v) = none := by
  obtain ⟨e, p, rfl⟩ := List.exists_cons_of_ne_nil hp
  obtain ⟨d, rest, rfl, hrest⟩ := hl.exists_cons hk
  refine named_eq_none_of_cons hl (hrest c ?_)
  rw [(List.cons.inj h).2]
  exact List.mem_append_right p List.mem_cons_self

variable (hs : isSign sign = true) (hhash : sign ≠ '#')

include hs hhash

/-- A name with the sign behind it begins no heading, be it the keyword itself. -/
theorem named_eq_none_of_sign {b : Option Char} {n ws r : Text} (hn : IsNameToken n)
    (hws : Text.allBlank ws = true) : named letters sign b (n ++ (ws ++ sign :: r)) = none := by
  cases hm : named letters sign b (n ++ (ws ++ sign :: r)) with
  | none => rfl
  | some y =>
    obtain ⟨-, x, hx, ⟨hk, hne, hws', hn', -⟩⟩ := (named_eq_some_iff hs).1 hm
    simp only [List.append_assoc] at hx
    exact absurd hx.symm (hl.ne_append hs hhash hk hne hws' hn' hn hws)

/-- Nothing begins in code in a name with the sign behind it. -/
theorem named_eq_none_in_name {p t ws : Text} {c : Char} (hn : IsNameToken (p ++ c :: t))
    (hcode : (Lex.code.run p).isCode = true) (hws : Text.allBlank ws = true) (u r : Text) :
    named letters sign (u ++ p).getLast? (c :: (t ++ (ws ++ sign :: r))) = none := by
  generalize hname : p ++ c :: t = n at hn
  cases hn with
  | bare hne hw =>
    subst hname
    rcases List.eq_nil_or_concat p with rfl | ⟨p', d, rfl⟩
    · exact named_eq_none_of_sign hl hs hhash (.bare hne hw) hws
    · refine named_eq_none_of_not_startsWord (not_startsWord_of_getLast? (by simp) ?_ u)
      exact fun c hc => hw c (List.mem_append_left _ hc)
  | quoted hbody _ =>
    refine named_eq_none_of_cons hl (Bool.eq_false_iff.2 fun hc => ?_)
    rcases p with _ | ⟨_, _ | ⟨_, y⟩⟩
    · obtain rfl : c = '#' := (List.cons.inj hname).1
      exact absurd hc (by decide)
    · obtain rfl : c = '"' := (List.cons.inj (List.cons.inj hname).2).1
      exact absurd hc (by decide)
    · -- between the quotes nothing counts
      simp only [List.cons_append, List.cons.injEq] at hname
      obtain ⟨rfl, rfl, rfl⟩ := hname
      have hne : c ≠ '"' := by
        rintro rfl
        exact absurd hc (by decide)
      have hrun : Lex.code.run ('#' :: '"' :: y) = .string :=
        run_string_of_untilQuote?_append hne hbody
      rw [hrun] at hcode
      cases hcode

/-- Nothing begins in an unmarked text with blanks and a heading behind it. -/
theorem named_eq_none_of_unmarked {b : Option Char} {x ws y n r : Text}
    (hmark : (keywordMark letters b x).isSome = false) (hws : Text.allBlank ws = true)
    (hne : ws ≠ []) (hy : Named letters sign y n) :
    named letters sign b (x ++ (ws ++ (y ++ r))) = none := by
  cases hm : named letters sign b (x ++ (ws ++ (y ++ r))) with
  | none => rfl
  | some z =>
    obtain ⟨hb, x', hx', ⟨hk, hne₁, hws₁, hn₁, hws₂⟩⟩ := (named_eq_some_iff hs).1 hm
    rename_i k ws₁ ws₂
    simp only [List.append_assoc] at hx'
    rcases append_eq_append_cases hx'.symm with ⟨_ | ⟨d, t⟩, rfl, hrest⟩ | ⟨d, t, rfl, hrest⟩
    · -- behind the keyword there is the other one, and not a name with the sign
      obtain ⟨hk₂, hne₂, hws₃, hn₂, -⟩ := hy
      simp only [List.nil_append, List.append_assoc] at hrest
      have heq := eq_of_blanks_append hws ((hl.isNameToken hk₂).startsSolid _) hws₁
        (hn₁.startsSolid _) hrest.symm
      exact absurd heq (hl.ne_append hs hhash hk₂ hne₂ hws₃ hn₂ hn₁ hws₂)
    · -- the text goes on with a blank, which makes it marked
      obtain ⟨c, ws₁, rfl⟩ := List.exists_cons_of_ne_nil hne₁
      obtain rfl : c = d := (List.cons.inj hrest).1
      have hblank := List.all_eq_true.1 hws₁ c List.mem_cons_self
      have hsome := keywordMark_isSome_iff.2 ⟨hb, k, c, t, rfl, hk, hblank⟩
      rw [hmark] at hsome
      cases hsome
    · -- the keyword has a blank in it
      obtain ⟨c, ws, rfl⟩ := List.exists_cons_of_ne_nil hne
      obtain rfl : c = d := (List.cons.inj hrest).1
      have hword := hl.isWord hk c (List.mem_append_right x List.mem_cons_self)
      rw [isWord_of_isBlank (List.all_eq_true.1 hws c List.mem_cons_self)] at hword
      cases hword

/-- **Nothing begins in code inside of what `named` takes.** -/
theorem named_inside_named {x n r p q : Text} {c : Char} (hx : Named letters sign x n)
    (h : x ++ r = p ++ c :: q) (hp : p ≠ []) (hlt : p.length < x.length)
    (hcode : (Lex.code.run p).isCode = true) (u : Text) :
    named letters sign (u ++ p).getLast? (c :: q) = none := by
  obtain ⟨hk, -, hws₁, hn, hws₂⟩ := hx
  rename_i k ws₁ ws₂
  simp only [List.append_assoc] at h
  rcases append_eq_append_cases h with ⟨p₁, rfl, h₁⟩ | ⟨d, t, hd, hq⟩
  · rcases append_eq_append_cases h₁ with ⟨p₂, rfl, h₂⟩ | ⟨d, t, rfl, hq⟩
    · rcases append_eq_append_cases h₂ with ⟨p₃, rfl, h₃⟩ | ⟨d, t, rfl, hq⟩
      · -- behind the name
        rw [← List.append_assoc] at h₃
        rcases append_eq_append_cases h₃ with ⟨t, rfl, -⟩ | ⟨d, t, hd, hq⟩
        · simp only [List.length_append] at hlt
          omega
        · obtain rfl : c = d := (List.cons.inj hq).1
          have hmem : c ∈ ws₂ ++ [sign] := hd ▸ List.mem_append_right p₃ List.mem_cons_self
          rcases List.mem_append.1 hmem with hc | hc
          · exact named_eq_none_of_isBlank hl (List.all_eq_true.1 hws₂ c hc)
          · rw [List.mem_singleton.1 hc]
            exact named_eq_none_of_cons hl (matchesLetter_sign hs)
      · -- in the name
        obtain ⟨rfl, rfl⟩ := List.cons.inj hq
        have hname : Lex.code.run (k ++ ws₁) = .code := by
          rw [Lex.run_append, run_code_of_isWord (hl.isWord hk), run_code_of_allBlank hws₁]
        rw [← List.append_assoc k, Lex.run_append, hname] at hcode
        have hnone := named_eq_none_in_name hl hs hhash hn hcode hws₂ (u ++ (k ++ ws₁)) r
        simpa only [List.append_assoc, List.singleton_append] using hnone
    · -- in the blanks between the keyword and the name
      obtain rfl : c = d := (List.cons.inj hq).1
      refine named_eq_none_of_isBlank hl (List.all_eq_true.1 hws₁ c ?_)
      exact List.mem_append_right p₁ List.mem_cons_self
  · obtain rfl : c = d := (List.cons.inj hq).1
    exact named_eq_none_in_keyword hl hk hd hp

end

/-! ## The places of a pattern -/

namespace Pattern

variable {α : Type} {p : Pattern α}

/-- A pattern takes something at an offset. -/
def At (p : Pattern α) (t : Text) (i : Nat) : Prop :=
  (p (t.take i).getLast? (t.drop i)).isSome = true

instance (p : Pattern α) (t : Text) (i : Nat) : Decidable (p.At t i) :=
  inferInstanceAs (Decidable (_ = true))

theorem foundAfter_iff {b : Option Char} {t : Text} :
    p.foundAfter b t = true ↔
      ∃ i < t.length, (p ((t.take i).getLast?.or b) (t.drop i)).isSome = true := by
  induction t generalizing b with
  | nil => simp [foundAfter, firstAfter]
  | cons c t ih =>
    rw [foundAfter_cons, Bool.or_eq_true, ih]
    constructor
    · rintro (h | ⟨i, hi, h⟩)
      · exact ⟨0, Nat.zero_lt_succ _, h⟩
      · exact ⟨i + 1, Nat.succ_lt_succ hi, by rwa [List.take_succ_cons, getLast?_cons_or]⟩
    · rintro ⟨_ | i, hi, h⟩
      · exact .inl h
      · rw [List.take_succ_cons, getLast?_cons_or] at h
        exact .inr ⟨i, Nat.lt_of_succ_lt_succ hi, h⟩

/-- A pattern is in a text when it takes something at one of its places. -/
theorem isIn_iff (hnil : ∀ b, p b [] = none) {t : Text} :
    p.isIn t = true ↔ ∃ i, p.At t i := by
  simp only [isIn, foundAfter_iff, Option.or_none]
  constructor
  · rintro ⟨i, -, h⟩
    exact ⟨i, h⟩
  · rintro ⟨i, h⟩
    refine ⟨i, Nat.lt_of_not_le fun hle => ?_, h⟩
    rw [At, List.drop_eq_nil_of_le hle, hnil] at h
    cases h

theorem foundAfter_mono {β : Type} {q : Pattern β}
    (h : ∀ b t, (p b t).isSome = true → (q b t).isSome = true) {b : Option Char} {t : Text}
    (hp : p.foundAfter b t = true) : q.foundAfter b t = true := by
  obtain ⟨i, hi, hsome⟩ := foundAfter_iff.1 hp
  exact foundAfter_iff.2 ⟨i, hi, h _ _ hsome⟩

/-- What a pattern takes has it for itself: no second match begins there in code. -/
def Exclusive (p : Pattern α) : Prop :=
  ∀ {b : Option Char} {w q r : Text} {c : Char} {x : α}, p b (w ++ c :: q) = some (x, r) →
    w ≠ [] → r.length ≤ q.length → (Lex.code.run w).isCode = true →
      ∀ u : Text, p (u ++ w).getLast? (c :: q) = none

theorem at_of_mem_occurrences (hp : p.IsLocal) {t : Text} {o : Occurrence α}
    (ho : o ∈ occurrences p t) : p.At t o.start := by
  rw [At, mem_occurrences hp ho]
  rfl

variable (hp : p.IsLocal) (hs : p.StartsPlain)

include hp hs

/-- From an occurrence that counts to any place in code, the reader of literals ends in code. -/
theorem isCode_run_slice {t : Text} {o : Occurrence α} (ho : o ∈ p.live t) {i : Nat}
    (hlt : o.start < i) (hcode : (Lex.code.run (t.take i)).isCode = true) :
    (Lex.code.run (Text.slice t o.start i)).isCode = true := by
  obtain ⟨hocc, hlive⟩ := (hs.mem_live_iff hp).1 ho
  obtain ⟨c, hc, hplain, -⟩ := hs.getElem? hp hocc
  have hfront : (Lex.code.run ((t.take i).take o.start)).isCode = true := by
    rwa [List.take_take, Nat.min_eq_left (Nat.le_of_lt hlt)]
  rw [← List.getElem?_take_of_lt hlt] at hc
  rwa [Lex.run_eq_run_drop hc hplain hfront] at hcode

/-- An occurrence that counts takes the place of no other. -/
theorem not_at_of_mem_live (he : p.Exclusive) {t : Text} {o : Occurrence α} (ho : o ∈ p.live t)
    {i : Nat} (hstart : o.start < i) (hstop : i < o.stop)
    (hcode : isCode (literalSpans t) i = true) : ¬p.At t i := by
  intro hat
  obtain ⟨⟨y, r⟩, hm⟩ := Option.isSome_iff_exists.1 hat
  obtain ⟨c, q, hcons, hplain, -⟩ := hs hm
  have hc : t[i]? = some c := by
    rw [← List.head?_drop, hcons, List.head?_cons]
  rw [isCode_literalSpans hc hplain] at hcode
  have hbounds := live_bounds hp ho
  -- what stands between the beginnings of the two
  have hrun := isCode_run_slice hp hs ho hstart hcode
  have htake := Text.take_append_slice_of_le t (Nat.le_of_lt hstart)
  have hdrop := Text.slice_append_drop t (Nat.le_of_lt hstart)
  have hlen := Text.length_slice t o.start i
  generalize Text.slice t o.start i = w at hrun htake hdrop hlen
  have hne : w ≠ [] := List.ne_nil_of_length_pos (by omega)
  have hfound := mem_occurrences hp (List.mem_filter.1 ho).1
  have hsize := congrArg List.length hcons
  simp only [List.length_drop, List.length_cons] at hsize
  rw [← hdrop, hcons] at hfound
  rw [hcons, ← htake, he hfound hne (by rw [List.length_drop]; omega) hrun] at hm
  cases hm

/-- **The occurrences that count begin where the pattern takes something in code** and no match
from elsewhere reaches over the place. -/
theorem exists_mem_live_iff (he : p.Exclusive) {t : Text} {i : Nat} :
    (∃ o ∈ p.live t, o.start = i) ↔ p.At t i ∧ isCode (literalSpans t) i = true ∧
      ¬∃ o ∈ occurrences p t,
        isCode (literalSpans t) o.start = false ∧ o.start < i ∧ i < o.stop := by
  constructor
  · rintro ⟨o, ho, rfl⟩
    obtain ⟨hocc, hcode⟩ := List.mem_filter.1 ho
    refine ⟨at_of_mem_occurrences hp hocc, hcode, ?_⟩
    rintro ⟨o', ho', -, hstart, hstop⟩
    have hbounds := live_bounds hp ho
    obtain rfl := eq_of_mem_occurrences hp ho' hocc (by omega) hstop
    omega
  · rintro ⟨hat, hcode, hno⟩
    obtain ⟨o, ho, hle, hlt⟩ := exists_mem_occurrences hp hat
    rcases Nat.lt_or_eq_of_le hle with hstart | rfl
    · cases hlive : isCode (literalSpans t) o.start with
      | false => exact absurd ⟨o, ho, hlive, hstart, hlt⟩ hno
      | true =>
        exact absurd hat (not_at_of_mem_live hp hs he (List.mem_filter.2 ⟨ho, hlive⟩) hstart hlt
          hcode)
    · exact ⟨o, List.mem_filter.2 ⟨ho, hcode⟩, rfl⟩

end Pattern

theorem heading_eq_none_iff {b : Option Char} {t : Text} :
    heading b t = none ↔ named (text "shared") '=' b t = none := by
  rw [heading_eq_map, Option.map_eq_none_iff]

theorem sectionHeader_eq_none_iff {b : Option Char} {t : Text} :
    sectionHeader b t = none ↔ named (text "section") ';' b t = none := by
  rw [sectionHeader_eq_map, Option.map_eq_none_iff]

theorem exclusive_heading : heading.Exclusive := by
  intro b w q r c n hm hne hle hcode u
  obtain ⟨-, x, ws, ht, hx, hws, -⟩ := heading_eq_some_iff.1 hm
  refine heading_eq_none_iff.2 ?_
  rcases Nat.lt_or_ge w.length x.length with hin | hbehind
  · exact named_inside_named isKeyword_shared (by decide) (by decide) hx ht.symm hne hin hcode u
  · -- in the blanks behind the sign
    have hsize := congrArg List.length ht
    obtain ⟨y, rfl⟩ := List.prefix_of_prefix_length_le (List.prefix_append x _)
      (ht ▸ List.prefix_append w (c :: q)) hbehind
    rw [List.append_assoc, List.append_cancel_left_eq] at ht
    rcases append_eq_append_cases ht.symm with ⟨t, rfl, -⟩ | ⟨d, t, rfl, hq⟩
    · simp only [List.length_append, List.length_cons] at hsize
      omega
    · obtain rfl : c = d := (List.cons.inj hq).1
      exact named_eq_none_of_isBlank isKeyword_shared (List.all_eq_true.1 hws c (by simp))

theorem exclusive_sectionHeader : sectionHeader.Exclusive := by
  intro b w q r c _ hm hne hle hcode u
  obtain ⟨-, x, n, ht, hx⟩ := sectionHeader_eq_some_iff.1 hm
  have hsize := congrArg List.length ht
  simp only [List.length_append, List.length_cons] at hsize
  exact sectionHeader_eq_none_iff.2
    (named_inside_named isKeyword_section (by decide) (by decide) hx ht.symm hne (by omega) hcode u)

end Mashup
end Dataflow
