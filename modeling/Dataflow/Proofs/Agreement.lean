import Dataflow.Mashup.Report
import Dataflow.Proofs.Nesting

/-!
# Who finds a section header

Two parts of the program ask a document for its section header.  The report wants a bare name and
takes the header anywhere, in a comment as well; the writer of section attributes takes any name,
but only in code, and not where a match that begins in a literal or comment reaches over it.
`HeaderAt` is what the two have in common, and each of them finds a header just when there is one
with its own side condition.  Nothing makes one condition follow from the other, so the two agree on
a document just when both kinds of header are there or both are missing (`faults_agree_iff`).
-/

set_option autoImplicit false

namespace Dataflow
namespace Mashup

/-- A section header with a name begins at an offset. -/
def HeaderAt (t : Text) (i : Nat) (name : Text) : Prop :=
  ∃ r, named (text "section") ';' (t.take i).getLast? (t.drop i) = some (name, r)

/-- An offset lies in code, and no header that begins in a literal or comment reaches over it. -/
def IsFree (t : Text) (i : Nat) : Prop :=
  isCode (literalSpans t) i = true ∧ ¬∃ o ∈ occurrences sectionHeader t,
    isCode (literalSpans t) o.start = false ∧ o.start < i ∧ i < o.stop

/-! ## The header of the report -/

/-- A bare name is a name all of word characters. -/
theorem word?_eq_some_iff {t n r : Text} :
    word? t = some (n, r) ↔ nameToken? t = some (n, r) ∧ n.all isWord = true := by
  constructor
  · intro h
    obtain ⟨rfl, hne, hw⟩ := word?_eq_some h
    refine ⟨?_, List.all_eq_true.2 hw⟩
    unfold nameToken?
    split
    · rename_i rest heq
      obtain ⟨c, n, rfl⟩ := List.exists_cons_of_ne_nil hne
      obtain rfl : c = '#' := (List.cons.inj heq).1
      exact absurd (hw '#' List.mem_cons_self) (by decide)
    · exact h
  · rintro ⟨h, hw⟩
    unfold nameToken? at h
    split at h
    · split at h
      · cases h
      · cases h
        exact absurd hw (by simp [show isWord '#' = false by decide])
      · cases h
    · exact h

/-- The header of the report is a header with a bare name. -/
theorem bareHeader_isSome_iff {b : Option Char} {t : Text} :
    (bareHeader b t).isSome = true ↔
      ∃ n r, named (text "section") ';' b t = some (n, r) ∧ n.all isWord = true := by
  simp only [bareHeader, sectionKeyword, named, Option.bind_eq_bind, Option.isSome_iff_exists,
    Option.bind_eq_some_iff]
  constructor
  · rintro ⟨_, ⟨_, t₂⟩, ⟨_, hb, t₁, h₁, t₂', h₂, heq⟩, ⟨n, t₃⟩, h₃, t₄, hsign, -⟩
    cases heq
    obtain ⟨hname, hw⟩ := word?_eq_some_iff.1 h₃
    exact ⟨n, t₄, ⟨_, hb, t₁, h₁, t₂, h₂, (n, t₃), hname, t₄, hsign, rfl⟩, hw⟩
  · rintro ⟨n, r, ⟨_, hb, t₁, h₁, t₂, h₂, ⟨n', t₃⟩, h₃, t₄, hsign, heq⟩, hw⟩
    cases heq
    exact ⟨((), r), ((), t₂), ⟨_, hb, t₁, h₁, t₂, h₂, rfl⟩, (n', t₃),
      word?_eq_some_iff.2 ⟨h₃, hw⟩, r, hsign, rfl⟩

theorem sectionKeyword_of_bareHeader (b : Option Char) (t : Text)
    (h : (bareHeader b t).isSome = true) : (sectionKeyword b t).isSome = true := by
  cases hk : sectionKeyword b t with
  | none =>
    rw [bareHeader, hk] at h
    cases h
  | some y => rfl

/-- **The report misses no section** when there is a header with a bare name, wherever it is. -/
theorem sectionFaults_eq_nil_iff {t : Text} :
    sectionFaults t = [] ↔ ∃ i name, HeaderAt t i name ∧ name.all isWord = true := by
  have hbare : bareHeader.isIn t = true ↔ ∃ i name, HeaderAt t i name ∧ name.all isWord = true := by
    rw [Pattern.isIn_iff fun b => by simp [bareHeader, sectionKeyword, text, keyword?]]
    refine exists_congr fun i => ?_
    rw [Pattern.At, bareHeader_isSome_iff]
    simp only [HeaderAt, exists_and_right]
  rw [← hbare, sectionFaults]
  cases hin : bareHeader.isIn t with
  | true =>
    have hkey : sectionKeyword.isIn t = true :=
      Pattern.foundAfter_mono sectionKeyword_of_bareHeader hin
    simp [hkey]
  | false => cases sectionKeyword.isIn t <;> simp

theorem not_mem_faults_iff {t : Text} :
    (.noSection ∉ (inspect t).faults ∧ .openSection ∉ (inspect t).faults) ↔
      sectionFaults t = [] := by
  have hqueries : .noSection ∉ queryFaults t ∧ .openSection ∉ queryFaults t := by
    rw [queryFaults]
    split <;> simp
  have hbrackets : .noSection ∉ bracketFaults t ∧ .openSection ∉ bracketFaults t := by
    simp [bracketFaults]
  have hsection : (.noSection ∉ sectionFaults t ∧ .openSection ∉ sectionFaults t) ↔
      sectionFaults t = [] := by
    rw [sectionFaults]
    split
    · simp
    · split <;> simp
  simp [inspect, hqueries, hbrackets, hsection]

/-! ## The header of the writer -/

theorem sectionHeader_isSome_iff {b : Option Char} {t : Text} :
    (sectionHeader b t).isSome = true ↔
      ∃ n r, named (text "section") ';' b t = some (n, r) := by
  rw [sectionHeader_eq_map, Option.isSome_map, Option.isSome_iff_exists]
  exact Prod.exists

/-- **The writer finds a header** when there is one, of whatever name, at a free place. -/
theorem isSome_sectionHeader?_iff {t : Text} :
    (sectionHeader? t).isSome = true ↔ ∃ i name, HeaderAt t i name ∧ IsFree t i := by
  have hplace : ∀ i, (∃ o ∈ sectionHeader.live t, o.start = i) ↔
      ∃ name, HeaderAt t i name ∧ IsFree t i := by
    intro i
    rw [Pattern.exists_mem_live_iff isLocal_sectionHeader startsPlain_sectionHeader
      exclusive_sectionHeader, Pattern.At, sectionHeader_isSome_iff, exists_and_right]
    rfl
  rw [sectionHeader?_eq, Option.isSome_map, List.isSome_head?, ← exists_congr hplace]
  constructor
  · intro h
    obtain ⟨o, ho⟩ := List.exists_mem_of_ne_nil _ h
    exact ⟨o.start, o, ho, rfl⟩
  · rintro ⟨-, o, ho, -⟩
    exact List.ne_nil_of_mem ho

/-! ## Both of them -/

/-- **The report and the writer agree on the header of a document** just when it has a header with
a bare name and a header at a free place, or neither. -/
theorem faults_agree_iff (t : Text) :
    ((.noSection ∉ (inspect t).faults ∧ .openSection ∉ (inspect t).faults) ↔
        (sectionHeader? t).isSome = true) ↔
      ((∃ i name, HeaderAt t i name ∧ name.all isWord = true) ↔
        ∃ i name, HeaderAt t i name ∧ IsFree t i) := by
  rw [not_mem_faults_iff, sectionFaults_eq_nil_iff, isSome_sectionHeader?_iff]

/-- A document whose section has a quoted name. -/
def quotedHeaderDocument : Text := text "section #\"My Section\";\r\nshared A = 1;"

/-- A document whose section is commented out. -/
def commentedHeaderDocument : Text := text "// section Section1;\r\nshared A = 1;"

/-- **A header with a quoted name is found by the writer only**, and a header in a comment by the
report only. -/
theorem not_faults_agree_quotedHeaderDocument :
    ¬((.noSection ∉ (inspect quotedHeaderDocument).faults ∧
          .openSection ∉ (inspect quotedHeaderDocument).faults) ↔
        (sectionHeader? quotedHeaderDocument).isSome = true) ∧
      (inspect quotedHeaderDocument).faults = [.openSection] ∧
      sectionHeader? quotedHeaderDocument = some 0 ∧
      (inspect commentedHeaderDocument).faults = [] ∧
      sectionHeader? commentedHeaderDocument = none := by
  decide +kernel

end Mashup
end Dataflow
