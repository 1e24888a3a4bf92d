import Dataflow.Proofs.Replacing
import Dataflow.Proofs.SectionAttribute

/-!
# Doing the same upsert twice

The second of two equal upserts should find the declaration that the first one wrote, replace it by
itself and leave the section attribute alone.  It does when the declaration is seated where it was
put and no other declaration of its name stands before it; then the document `Carries` it.  An
upsert whose declaration is not carried, for instance because it was put into a comment, writes it
again every time.

Every upsert puts in a declaration and then the section attribute (`upsert_eq`), so the two are
looked at one after the other, and `upsert_upsert_iff` has a condition for each.
-/

set_option autoImplicit false

namespace Dataflow
namespace Mashup

/-! ## What an upsert writes -/

theorem given?_settleAttributes (attr sectionAttr : Option Text) :
    Attribute.given? (settleAttributes attr sectionAttr).1 = (settleAttributes attr sectionAttr).1 ∧
      Attribute.given? (settleAttributes attr sectionAttr).2 =
        (settleAttributes attr sectionAttr).2 := by
  have hown := Attribute.given?_given? attr
  have hshared := Attribute.given?_given? sectionAttr
  rw [settleAttributes]
  cases ha : Attribute.given? attr with
  | none => exact ⟨rfl, hshared⟩
  | some a =>
    rw [ha] at hown
    simp only
    split
    · refine ⟨rfl, ?_⟩
      cases hs : Attribute.given? sectionAttr with
      | none => exact hown
      | some b =>
        rw [hs] at hshared
        exact hshared
    · exact ⟨hown, hshared⟩

theorem settleAttributes_fst_ne (attr sectionAttr : Option Text) :
    (settleAttributes attr sectionAttr).1 ≠ some [] := by
  intro h
  have hown := (given?_settleAttributes attr sectionAttr).1
  rw [h] at hown
  exact (Attribute.given?_eq_some hown).1 rfl

theorem sectionHeader?_append {header : Text} (h : (sectionHeader none header).isSome = true)
    (v : Text) : sectionHeader? (header ++ v) = some 0 := by
  obtain ⟨⟨x, r⟩, h⟩ := Option.isSome_iff_exists.1 h
  obtain ⟨⟨y, s⟩, hv⟩ := Option.isSome_iff_exists.1 (isLocal_sectionHeader.persists h v)
  obtain ⟨c, rest, ht, hplain, -⟩ := startsPlain_sectionHeader hv
  rw [ht] at hv ⊢
  have hcode : isCode (literalSpans (c :: rest)) 0 = true := by
    rw [isCode_literalSpans (c := c) rfl hplain]
    rfl
  simp [sectionHeader?, occurrences, occurrencesFrom, hv, hcode]

/-- In front of a header at the beginning there is no attribute yet. -/
theorem hasSectionAttribute_zero {a : Text} (ha : a ≠ []) (t : Text) :
    hasSectionAttribute t 0 a = false := by
  cases a with
  | nil => exact absurd rfl ha
  | cons c a => rfl

/-- A new section is a header with a declaration, which is then given the section attribute. -/
theorem newSection_eq {d declaration : Text} {shared : Option Text} (hbare : isBareSection d = true)
    (hshared : Attribute.given? shared = shared) :
    newSection (Text.strip d) declaration shared =
      withSectionAttribute (newSection (Text.strip d) declaration none) shared := by
  have hheader : (sectionHeader none
      (if (Text.strip d).isEmpty then defaultHeader else Text.strip d)).isSome = true := by
    rw [isBareSection, Bool.or_eq_true] at hbare
    split
    · decide
    · rename_i hne
      rcases hbare with h | h
      · exact absurd h hne
      · rw [Pattern.isWhole] at h
        split at h
        · rename_i hm
          rw [hm]
          rfl
        · cases h
  have hzero := sectionHeader?_append hheader (lineBreak ++ declaration)
  simp only [newSection, List.nil_append, List.append_assoc]
  generalize (if (Text.strip d).isEmpty then defaultHeader else Text.strip d) = header at *
  cases shared with
  | none => rfl
  | some a =>
    have hne := (Attribute.given?_eq_some hshared).1
    simp [withSectionAttribute, hshared, hzero, hasSectionAttribute_zero hne]

/-- An upsert puts the declaration somewhere, and the section attribute in front of the header. -/
theorem upsert_eq (d name code : Text) (attr sectionAttr : Option Text) :
    ∃ front tail, upsert d name code attr sectionAttr = withSectionAttribute
      (front ++ (declared (Name.written name) (letBlock code)
        (settleAttributes attr sectionAttr).1 ++ tail)) (settleAttributes attr sectionAttr).2 := by
  obtain ⟨hown, hshared⟩ := given?_settleAttributes attr sectionAttr
  rw [upsert]
  generalize settleAttributes attr sectionAttr = settled at *
  obtain ⟨own, shared⟩ := settled
  simp only [declare_eq, hown]
  split
  · exact ⟨_, _, by rw [List.append_assoc]⟩
  · split
    · rename_i hbare
      rw [newSection_eq hbare hshared]
      exact ⟨_, [], by rw [List.append_nil]; rfl⟩
    · exact ⟨_, [], by rw [List.append_nil]⟩

/-- The second time, the declaration that was written is put into its own place. -/
theorem upsert_of_found {t name code : Text} {attr sectionAttr : Option Text} {old : Declaration}
    (h : declaration? t (Name.plain name) = some old) :
    upsert t name code attr sectionAttr = withSectionAttribute
      (t.take old.start ++ (declared (Name.written name) (letBlock code)
        (settleAttributes attr sectionAttr).1 ++ t.drop old.stop))
      (settleAttributes attr sectionAttr).2 := by
  have hown := (given?_settleAttributes attr sectionAttr).1
  rw [upsert]
  simp only [h, declare_eq, hown, List.append_assoc]

/-! ## Finding the declaration again -/

/-- The declaration that was written is the one that is found by its name just when it is seated
and no declaration before it has this name. -/
theorem declaration?_eq_some_iff_seated {front name body tail : Text} {attr : Option Text}
    (hl : Legible name body) (hattr : attr ≠ some []) :
    declaration? (front ++ (declared name body attr ++ tail)) (Name.plain name) =
        some (writtenAt front.length name body attr) ↔
      Seated front name body attr tail ∧
        ∀ h ∈ headings (front ++ attributeLine attr), Name.plain h.value ≠ Name.plain name := by
  constructor
  · intro h
    have hseated := (mem_declarations_iff_seated hl hattr).1 (List.mem_of_find?_eq_some h)
    obtain ⟨before, rest, hall, -, -, hnames, -⟩ := hseated.exists_around hl
    refine ⟨hseated, fun o ho heq => ?_⟩
    -- a declaration before it would have been found, and it does not stand there twice
    have hmem : Name.plain o.value ∈ before.map Declaration.name :=
      hnames ▸ List.mem_map_of_mem ho
    obtain ⟨b, hb, hname⟩ := List.mem_map.1 hmem
    obtain ⟨b', hfind⟩ : ∃ b', before.find? (·.name == Name.plain name) = some b' :=
      Option.isSome_iff_exists.1 (List.find?_isSome.2 ⟨b, hb, by rw [hname, heq, beq_self_eq_true]⟩)
    rw [declaration?, hall, List.find?_append, hfind, Option.some_or, Option.some_inj] at h
    have hpair := declarations_pairwise (front ++ (declared name body attr ++ tail))
    rw [hall] at hpair
    have hle := (List.pairwise_append.1 hpair).2.2 b' (List.mem_of_find?_eq_some hfind) _
      List.mem_cons_self
    rw [h] at hle
    simp only [writtenAt, length_declared] at hle
    omega
  · rintro ⟨hseated, hno⟩
    obtain ⟨before, rest, hall, -, -, hnames, -⟩ := hseated.exists_around hl
    have hfind : before.find? (·.name == Name.plain name) = none := by
      rw [List.find?_eq_none]
      intro b hb
      have hmem : b.name ∈ before.map Declaration.name := List.mem_map_of_mem hb
      rw [hnames] at hmem
      obtain ⟨o, ho, hname⟩ := List.mem_map.1 hmem
      rw [← hname]
      simpa using hno o ho
    rw [declaration?, hall, List.find?_append, hfind, Option.none_or, List.find?_cons_of_pos]
    simp [writtenAt]

theorem nameToken?_of_heading {b : Option Char} {w n r : Text}
    (h : heading b (text "shared " ++ w) = some (n, r)) (hw : startsSolid w = true) :
    ∃ s, nameToken? w = some (n, s) := by
  simp only [heading, Option.bind_eq_bind, Option.bind_eq_some_iff] at h
  obtain ⟨-, -, t₁, h₁, t₂, h₂, ⟨n', t₃⟩, h₃, t₄, -, heq⟩ := h
  cases heq
  have hblank : t₁ = [' '] ++ w := by
    have : text "shared " ++ w = text "shared" ++ ([' '] ++ w) := by
      rw [← List.append_assoc]
      rfl
    rw [this, keyword?_append (by rfl)] at h₁
    exact (Option.some.inj h₁).symm
  rw [hblank, List.singleton_append, someBlanks?, if_pos (by decide)] at h₂
  have : blanks w = w := @blanks_append [] w rfl hw
  rw [this] at h₂
  rw [← Option.some.inj h₂] at h₃
  exact ⟨t₃, h₃⟩

theorem Name.startsSolid_written (name r : Text) : startsSolid (Name.written name ++ r) = true := by
  cases hq : Name.isQuoted name with
  | true =>
    have hwritten : Name.written name = name := by rw [Name.written, hq, Bool.true_or, if_pos rfl]
    obtain ⟨x, rfl⟩ := Name.isQuoted_iff.1 hq
    rw [hwritten]
    rfl
  | false =>
    by_cases hne : name = []
    · subst hne
      rfl
    · exact (Name.isNameToken_written_of_not_isQuoted hne hq).startsSolid r

/-- A heading that is read where the declaration was written, and with its name, is the one that
was written. -/
theorem isNameToken_of_heading {u name body tail : Text} {o : Occurrence Text}
    (ho : o ∈ headings (u ++ (declared (Name.written name) body none ++ tail)))
    (hstart : o.start = u.length) (hname : Name.plain o.value = Name.plain name) :
    IsNameToken (Name.written name) := by
  have hmatch := mem_occurrences isLocal_heading (List.mem_filter.1 ho).1
  have htext : declared (Name.written name) body none ++ tail =
      text "shared " ++ (Name.written name ++ ' ' :: ('=' :: ' ' :: (body ++ ';' :: tail))) := by
    simp [declared, opening, attributeLine, text]
  rw [hstart, List.drop_left, htext] at hmatch
  obtain ⟨s, htoken⟩ := nameToken?_of_heading hmatch (Name.startsSolid_written name _)
  exact Name.isNameToken_of_plain htoken (by rw [hname, Name.plain_written])

/-- A document carries a declaration, as it is written, in front of any other of its name. -/
def Carries (t name body : Text) (attr : Option Text) : Prop :=
  IsNameToken name ∧ ∃ front tail, t = front ++ (declared name body attr ++ tail) ∧
    Seated front name body attr tail ∧
      ∀ h ∈ headings (front ++ attributeLine attr), Name.plain h.value ≠ Name.plain name

/-- What a document carries is found where it stands. -/
theorem carries_iff {t name body : Text} {attr : Option Text} (hbody : IsSolid body)
    (hattr : attr ≠ some []) :
    Carries t (Name.written name) body attr ↔
      ∃ front tail, t = front ++ (declared (Name.written name) body attr ++ tail) ∧
        declaration? t (Name.plain name) =
          some (writtenAt front.length (Name.written name) body attr) := by
  constructor
  · rintro ⟨htoken, front, tail, rfl, hseated⟩
    have := (declaration?_eq_some_iff_seated ⟨htoken, hbody⟩ hattr).2 hseated
    rw [Name.plain_written] at this
    exact ⟨front, tail, rfl, this⟩
  · rintro ⟨front, tail, rfl, h⟩
    have htoken : IsNameToken (Name.written name) := by
      have hmem := List.mem_of_find?_eq_some h
      rw [append_declared] at hmem
      obtain ⟨o, ho, hstart, hname⟩ := exists_heading hattr rfl hmem rfl rfl
      exact isNameToken_of_heading ho hstart (by rw [hname]; exact Name.plain_written name)
    refine ⟨htoken, front, tail, rfl, ?_⟩
    rw [← Name.plain_written] at h
    exact (declaration?_eq_some_iff_seated ⟨htoken, hbody⟩ hattr).1 h

/-- A declaration that does not begin with a bracket has no attribute. -/
theorem attr_eq_nil_of_start {u v : Text} {c : Char} (hc : c ≠ '[') {d : Declaration}
    (hd : d ∈ declarations (u ++ c :: v)) (hstart : d.start = u.length) : d.attr = [] := by
  rw [declarations_eq] at hd
  obtain ⟨⟨h, attr⟩, he, boundary, rfl⟩ := exists_of_mem_declarationsUpTo hd
  cases attr with
  | none => rfl
  | some a =>
    exfalso
    have hbefore := attributeBefore?_of_mem_entrancesFrom he rfl
    rw [attributeBefore?_eq] at hbefore
    obtain ⟨hb, -, -⟩ := attributeAtEnd?_eq_some_iff.1 hbefore
    have hprefix := (Text.stripEnd_prefix ((u ++ c :: v).take h.start)).trans (List.take_prefix _ _)
    obtain ⟨z, hz⟩ := hprefix
    have hlt := lt_of_bracketAtEnd? hb
    have hbracket : (u ++ c :: v)[a.start]? = some '[' := by
      rw [← hz, List.getElem?_append_left hlt, getElem?_of_bracketAtEnd? hb]
    have hstart : a.start = u.length := hstart
    rw [hstart, List.getElem?_append_right (Nat.le_refl _), Nat.sub_self] at hbracket
    exact hc (Option.some.inj hbracket)

/-- A declaration without an attribute that takes the place of the one that was written is this
one. -/
theorem eq_writtenAt {front name body tail : Text} (hbody : IsSolid body) {d : Declaration}
    (hd : d ∈ declarations (front ++ (declared (Name.written name) body none ++ tail)))
    (hname : d.name = Name.plain name) (hstart : d.start = front.length)
    (hstop : d.stop = front.length + (declared (Name.written name) body none).length) :
    d = writtenAt front.length (Name.written name) body none := by
  obtain ⟨rest, hrest⟩ := head?_declared (Name.written name) body tail
  have hattr : d.attr = [] := attr_eq_nil_of_start (by decide) (hrest ▸ hd) hstart
  have hpos : 0 < (declared (Name.written name) body none).length := by
    rw [length_declared]
    omega
  rw [append_declared] at hd
  obtain ⟨o, ho, hheading, hvalue⟩ := exists_heading (by simp : (none : Option Text) ≠ some [])
    rfl hd hstart hattr
  have htoken := isNameToken_of_heading ho hheading (hvalue.trans hname)
  obtain ⟨-, -, -, d', hhead, hwritten, heq⟩ :=
    eq_of_heading ⟨htoken, hbody⟩ ho hheading hd (by simp [hstart]) (by simp [attributeLine]; omega)
  obtain ⟨n, code, a, start, stop⟩ := d
  simp only [Declaration.shift, Declaration.mk.injEq] at heq hstart hstop hattr
  obtain ⟨rfl, rfl, -, -, hshift⟩ := heq
  have hlen : (front ++ attributeLine none).length = front.length := by simp [attributeLine]
  have := hwritten (by omega)
  subst this
  rw [hattr, hstart, hstop]
  rfl

/-! ## The second upsert -/

theorem withSectionAttribute_eq_of_length_le {t : Text} {attr : Option Text}
    (h : (withSectionAttribute t attr).length ≤ t.length) : withSectionAttribute t attr = t := by
  cases hgiven : Attribute.given? attr with
  | none => simp only [withSectionAttribute, hgiven]
  | some a =>
    rcases withSectionAttribute_cases (t := t) hgiven with ⟨hsame, -⟩ | ⟨u, v, rfl, -, -, hput⟩
    · exact hsame
    · simp only [hput, List.length_append, lineBreak, List.length_cons] at h
      omega

theorem take_append_drop_writtenAt (front name body tail : Text) (attr : Option Text) :
    let t := front ++ (declared name body attr ++ tail)
    let d := writtenAt front.length name body attr
    t.take d.start ++ (declared name body attr ++ t.drop d.stop) = t := by
  simp only [writtenAt, List.take_left, List.drop_length_add_append, List.drop_left]

section

variable {t name code : Text} {attr sectionAttr : Option Text}

/-- What is carried is put back into its own place. -/
theorem upsert_of_carries
    (h : Carries t (Name.written name) (letBlock code) (settleAttributes attr sectionAttr).1) :
    upsert t name code attr sectionAttr =
      withSectionAttribute t (settleAttributes attr sectionAttr).2 := by
  obtain ⟨front, tail, rfl, hfound⟩ :=
    (carries_iff (letBlock_isSolid code) (settleAttributes_fst_ne attr sectionAttr)).1 h
  rw [upsert_of_found hfound, take_append_drop_writtenAt]

/-- When nothing changes and the declaration is found at its full length, it is there. -/
theorem eq_of_upsert_eq {old : Declaration} (hfound : declaration? t (Name.plain name) = some old)
    (hstop : old.stop = old.start + (declared (Name.written name) (letBlock code)
      (settleAttributes attr sectionAttr).1).length)
    (h : upsert t name code attr sectionAttr = t) :
    t.take old.start ++ (declared (Name.written name) (letBlock code)
        (settleAttributes attr sectionAttr).1 ++ t.drop old.stop) = t ∧
      withSectionAttribute t (settleAttributes attr sectionAttr).2 = t := by
  have hbounds := mem_declarations_bounds (List.mem_of_find?_eq_some hfound)
  rw [upsert_of_found hfound] at h
  generalize hu : t.take old.start ++ (declared (Name.written name) (letBlock code)
    (settleAttributes attr sectionAttr).1 ++ t.drop old.stop) = u at h ⊢
  have hlen : u.length = t.length := by
    rw [← hu]
    simp only [List.length_append, List.length_take, List.length_drop]
    omega
  have hsame := withSectionAttribute_eq_of_length_le (Nat.le_of_eq (by rw [h, hlen]))
  have hut : u = t := hsame.symm.trans h
  exact ⟨hut, by rw [hut] at h; exact h⟩

/-- So it is the declaration that was written. -/
theorem carries_of_upsert_eq {pos : Nat}
    (hfound : declaration? t (Name.plain name) = some (writtenAt pos (Name.written name)
      (letBlock code) (settleAttributes attr sectionAttr).1))
    (h : upsert t name code attr sectionAttr = t) :
    Carries t (Name.written name) (letBlock code) (settleAttributes attr sectionAttr).1 := by
  have hbounds := mem_declarations_bounds (List.mem_of_find?_eq_some hfound)
  have hpos : (t.take pos).length = pos := by
    rw [List.length_take]
    simp only [writtenAt] at hbounds
    omega
  refine (carries_iff (letBlock_isSolid code) (settleAttributes_fst_ne attr sectionAttr)).2
    ⟨t.take pos, _, (eq_of_upsert_eq hfound rfl h).1.symm, ?_⟩
  rw [hpos, hfound]

/-- Without a section attribute, a declaration that is not found is written once more. -/
theorem upsert_ne_of_not_found (hfound : declaration? t (Name.plain name) = none)
    (hshared : (settleAttributes attr sectionAttr).2 = none) (ht : Text.strip t ≠ []) :
    upsert t name code attr sectionAttr ≠ t := by
  intro h
  have hown := (given?_settleAttributes attr sectionAttr).1
  rw [upsert] at h
  generalize settleAttributes attr sectionAttr = settled at hown hshared h
  obtain ⟨own, shared⟩ := settled
  subst hshared
  simp only [hfound, declare_eq, hown] at h
  have hpos : 0 < (declared (Name.written name) (letBlock code) own).length := by
    rw [length_declared]
    omega
  split at h
  · -- the document would begin and end without a blank, so that nothing is stripped
    have hput :
        Text.strip t ++ (lineBreak ++ declared (Name.written name) (letBlock code) own) = t := by
      simpa [newSection, ht] using h
    have hhead : (Text.strip t).head? = t.head? := by
      have := congrArg List.head? hput
      obtain ⟨c, rest, hc⟩ := List.exists_cons_of_ne_nil ht
      rw [hc] at this ⊢
      exact this
    have hlast : t.getLast? = some ';' := by
      rw [← hput, List.getLast?_append, List.getLast?_append, getLast?_declared]
      rfl
    have hstrip : Text.strip t = t :=
      Text.strip_eq_self (hhead ▸ Text.head?_strip t) (by rw [hlast]; decide)
    have hlen := congrArg List.length hput
    rw [hstrip] at hlen
    simp only [List.length_append] at hlen
    omega
  · have hlen := congrArg List.length h
    simp only [withSectionAttribute, Attribute.given?, List.length_append] at hlen
    omega

/-- Without attributes it is enough that nothing changes. -/
theorem carries_of_upsert_eq_of_none (hown : (settleAttributes attr sectionAttr).1 = none)
    (hshared : (settleAttributes attr sectionAttr).2 = none) (ht : Text.strip t ≠ [])
    (h : upsert t name code attr sectionAttr = t) :
    Carries t (Name.written name) (letBlock code) none := by
  cases hfound : declaration? t (Name.plain name) with
  | none => exact absurd h (upsert_ne_of_not_found hfound hshared ht)
  | some old =>
    have hmem := List.mem_of_find?_eq_some hfound
    have hname := List.find?_some hfound
    have hbounds := mem_declarations_bounds hmem
    have hlen : (t.take old.start).length = old.start := by
      rw [List.length_take]
      omega
    rw [upsert_of_found hfound, hown, hshared] at h
    replace h : t.take old.start ++ (declared (Name.written name) (letBlock code) none ++
      t.drop old.stop) = t := h
    have htotal := congrArg List.length h
    simp only [List.length_append, List.length_drop, hlen] at htotal
    have hold : old = writtenAt old.start (Name.written name) (letBlock code) none := by
      conv => rhs; rw [← hlen]
      exact eq_writtenAt (letBlock_isSolid code) (h.symm ▸ hmem) (eq_of_beq hname) hlen.symm
        (by omega)
    refine (carries_iff (letBlock_isSolid code) (by simp)).2 ⟨t.take old.start, t.drop old.stop,
      h.symm, ?_⟩
    rw [hlen, hfound, ← hold]

end

/-- The section has its attribute if that is a text in brackets without a header in it. -/
theorem withSectionAttribute_upsert {d name code : Text} {attr sectionAttr : Option Text}
    (h : ∀ a, (settleAttributes attr sectionAttr).2 = some a → IsSectionAttribute a) :
    withSectionAttribute (upsert d name code attr sectionAttr)
        (settleAttributes attr sectionAttr).2 =
      upsert d name code attr sectionAttr := by
  have hgiven := (given?_settleAttributes attr sectionAttr).2
  obtain ⟨front, tail, hput⟩ := upsert_eq d name code attr sectionAttr
  rw [hput]
  exact withSectionAttribute_idem fun a ha => h a (hgiven.symm.trans ha)

theorem strip_upsert_ne_nil {d name code : Text} {attr sectionAttr : Option Text}
    (hshared : (settleAttributes attr sectionAttr).2 = none) :
    Text.strip (upsert d name code attr sectionAttr) ≠ [] := by
  obtain ⟨front, tail, hput⟩ := upsert_eq d name code attr sectionAttr
  rw [hput, hshared, Ne, Text.strip_eq_nil_iff]
  intro hblank
  have hmem : 's' ∈ front ++ (declared (Name.written name) (letBlock code)
      (settleAttributes attr sectionAttr).1 ++ tail) := by
    simp [declared, opening, text]
  exact not_mem_of_allBlank hblank (by decide) hmem

/-- **The second upsert finds what the first one wrote, and changes nothing, just when** the
document carries the declaration and the section has its attribute, which it has if that is a text
in brackets without a header.  Without attributes, changing nothing is enough. -/
theorem upsert_upsert_iff (d name code : Text) (attr sectionAttr : Option Text) :
    let own := (settleAttributes attr sectionAttr).1
    let shared := (settleAttributes attr sectionAttr).2
    let t := upsert d name code attr sectionAttr
    ((upsert t name code attr sectionAttr = t ∧
        ∃ pos, declaration? t (Name.plain name) =
          some (writtenAt pos (Name.written name) (letBlock code) own)) ↔
      Carries t (Name.written name) (letBlock code) own ∧ withSectionAttribute t shared = t) ∧
    ((∀ a, shared = some a → IsSectionAttribute a) → withSectionAttribute t shared = t) ∧
    (own = none → shared = none →
      (upsert t name code attr sectionAttr = t ↔
        Carries t (Name.written name) (letBlock code) none)) := by
  refine ⟨⟨?_, ?_⟩, withSectionAttribute_upsert, fun hown hshared => ⟨?_, ?_⟩⟩
  · rintro ⟨h, pos, hfound⟩
    exact ⟨carries_of_upsert_eq hfound h, (eq_of_upsert_eq hfound rfl h).2⟩
  · rintro ⟨hcarries, hsettled⟩
    obtain ⟨front, -, -, hfound⟩ := (carries_iff (letBlock_isSolid code)
      (settleAttributes_fst_ne attr sectionAttr)).1 hcarries
    exact ⟨(upsert_of_carries hcarries).trans hsettled, front.length, hfound⟩
  · exact carries_of_upsert_eq_of_none hown hshared (strip_upsert_ne_nil hshared)
  · intro hcarries
    rw [← hown] at hcarries
    rw [upsert_of_carries hcarries, hshared]
    rfl

theorem upsert_upsert_iff_sampleDocument :
    let own := text "[Kind = 2]"
    let t := upsert sampleDocument (text "A") (text "2") (some own) (some stagingMarker)
    upsert t (text "A") (text "2") (some own) (some stagingMarker) = t ∧
      Carries t (Name.written (text "A")) (letBlock (text "2")) (some own) := by
  intro own t
  have hsettle : (settleAttributes (some own) (some stagingMarker)).1 = some own := by
    decide +kernel
  have hsame : upsert t (text "A") (text "2") (some own) (some stagingMarker) = t := by
    decide +kernel
  have hiff := (upsert_upsert_iff sampleDocument (text "A") (text "2") (some own)
    (some stagingMarker)).1
  rw [hsettle] at hiff
  exact ⟨hsame, (hiff.1 ⟨hsame, 62, by decide +kernel⟩).1⟩

/-- What was written into a comment is not found, and is written again behind it. -/
theorem upsert_upsert_commentedDocument :
    upsert commentedDocument (text "A") (text "let y = 2 in y") none none =
        text "section Section1;\r\n// see shared A = let y = 2 in y;" ∧
      upsert (upsert commentedDocument (text "A") (text "let y = 2 in y") none none)
          (text "A") (text "let y = 2 in y") none none =
        text "section Section1;\r\n// see shared A = let y = 2 in y;" ++
          text "\r\nshared A = let y = 2 in y;" := by
  decide +kernel

end Mashup
end Dataflow
