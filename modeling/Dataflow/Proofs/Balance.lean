import Dataflow.Mashup.Report
import Dataflow.Proofs.Code
import Dataflow.Proofs.Rendering

/-!
# Rendered documents are valid

A document is valid when a section header and a query can be found in it, and brackets of each kind
are closed as often as they are opened.  A document that `render` makes has the header in front and
a keyword in each line.  Its brackets are those of the bodies and attributes, since there are none
in a header, and none in a name that are code: in a name that is not written in quotes there are
only word characters, and all of a quoted one but the sign in front of it is a literal.  So it is
enough that what is rendered is balanced piece by piece, and `IsBalanced` is a property of pieces.
-/

set_option autoImplicit false

namespace Dataflow
namespace Mashup

/-! ## Balanced texts -/

/-- In code, brackets of each kind are closed as often as they are opened. -/
def IsBalanced (t : Text) : Prop :=
  ∀ kind : BracketKind, countInCode t kind.marks.1 = countInCode t kind.marks.2

theorem BracketKind.mem_all (kind : BracketKind) : kind ∈ all := by
  cases kind <;> decide

instance (t : Text) : Decidable (IsBalanced t) :=
  decidable_of_iff
    (∀ kind ∈ BracketKind.all, countInCode t kind.marks.1 = countInCode t kind.marks.2)
    ⟨fun h kind => h kind kind.mem_all, fun h kind _ => h kind⟩

theorem isPlain_marks (kind : BracketKind) :
    Lex.isPlain kind.marks.1 = true ∧ Lex.isPlain kind.marks.2 = true := by
  cases kind <;> exact ⟨rfl, rfl⟩

theorem isWord_marks (kind : BracketKind) :
    isWord kind.marks.1 = false ∧ isWord kind.marks.2 = false := by
  cases kind <;> decide

namespace IsBalanced

variable {t u : Text}

theorem nil : IsBalanced [] := fun _ => rfl

/-- What follows in code is balanced by itself. -/
theorem append (ht : IsBalanced t) (hrun : Lex.code.run t = .code) (hu : IsBalanced u) :
    IsBalanced (t ++ u) := by
  intro kind
  obtain ⟨hopening, hclosing⟩ := isPlain_marks kind
  rw [countInCode_append hopening hrun, countInCode_append hclosing hrun, ht kind, hu kind]

/-- Behind a text that leaves nothing open, so is what begins with a plain character. -/
theorem append_cons (ht : IsBalanced t) (hclosed : leavesNothingOpen t = true) {c : Char}
    (hc : Lex.isPlain c = true) (hu : IsBalanced (c :: u)) : IsBalanced (t ++ c :: u) := by
  intro kind
  obtain ⟨hopening, hclosing⟩ := isPlain_marks kind
  rw [countInCode_append_cons hopening hclosed hc, countInCode_append_cons hclosing hclosed hc,
    ht kind, hu kind]

/-- A text is balanced when none of its brackets is code. -/
theorem of_not_mem (h : ∀ kind : BracketKind, kind.marks.1 ∉ codeOf t ∧ kind.marks.2 ∉ codeOf t) :
    IsBalanced t := by
  intro kind
  obtain ⟨hopening, hclosing⟩ := h kind
  rw [countInCode, countInCode, List.count_eq_zero.2 hopening, List.count_eq_zero.2 hclosing]

end IsBalanced

/-! ## Names -/

/-- Up to the quote that ends it, nothing in a string is code. -/
theorem kept_of_untilQuote? {t body : Text} (h : untilQuote? t = some (body, [])) :
    Lex.string.kept t = [] := by
  refine untilQuote?_induction (P := fun t => Lex.string.kept t = []) h rfl (fun rest ih => ih)
    fun c rest hc ih => ?_
  have hstep : Lex.string.step c = .string := if_neg hc
  rw [Lex.kept, hstep, ih]
  rfl

/-- **The brackets in a name do not count.** -/
theorem isBalanced_of_isNameToken {name : Text} (h : IsNameToken name) : IsBalanced name := by
  refine .of_not_mem fun kind => ?_
  rw [codeOf_eq]
  cases h with
  | quoted hbody _ =>
    have hsign : Lex.code.kept ('#' :: '"' :: _) = ['#'] :=
      congrArg ('#' :: ·) (kept_of_untilQuote? hbody)
    rw [hsign]
    cases kind <;> decide
  | bare _ hword =>
    have hkept := Lex.kept_sublist .code name
    obtain ⟨hopening, hclosing⟩ := isWord_marks kind
    constructor
    · intro hmem
      rw [hword _ (hkept.mem hmem)] at hopening
      cases hopening
    · intro hmem
      rw [hword _ (hkept.mem hmem)] at hclosing
      cases hclosing

/-! ## Rendered documents -/

/-- The pieces of a query that can be written and are balanced. -/
structure Query.IsSound (q : Query) : Prop where
  /-- It reads back. -/
  writable : q.IsWritable
  /-- Its code is balanced. -/
  code : IsBalanced q.code
  /-- So is its attribute. -/
  attr : IsBalanced q.attr

theorem isBalanced_lineBreak_append {t : Text} (h : IsBalanced t) : IsBalanced (lineBreak ++ t) :=
  (by decide : IsBalanced lineBreak).append (by decide) h

theorem isBalanced_opening {name : Text} (h : IsNameToken name) : IsBalanced (opening name) := by
  have hsigns : IsBalanced (' ' :: text "= ") := by decide
  have hname := (isBalanced_of_isNameToken h).append_cons
    (by rw [leavesNothingOpen_eq, h.isCode_run]) (by decide) hsigns
  exact (by decide : IsBalanced (text "shared ")).append (by decide) hname

namespace Query.IsSound

variable {q : Query}

theorem isBalanced_attributeLine (h : q.IsSound) : IsBalanced (attributeLine q.ownAttribute) := by
  have hwritable := h.writable.writable
  rw [ownAttribute] at hwritable ⊢
  split
  · exact .nil
  · rename_i hne
    rw [if_neg hne] at hwritable
    exact h.attr.append_cons (hwritable.attr _ rfl).closed (by decide)
      (by decide : IsBalanced lineBreak)

/-- A query that is written is balanced. -/
theorem isBalanced_written (h : q.IsSound) : IsBalanced q.written := by
  have hwritable := h.writable.writable
  have hsemicolon : IsBalanced [';'] := by decide
  have hbody := h.code.append_cons hwritable.closed (by decide) hsemicolon
  exact h.isBalanced_attributeLine.append hwritable.run_attributeLine
    ((isBalanced_opening hwritable.name).append (run_opening hwritable.name) hbody)

end Query.IsSound

theorem isBalanced_lines {qs : List Query} (h : ∀ q ∈ qs, q.IsSound) : IsBalanced (lines qs) := by
  induction qs with
  | nil => exact .nil
  | cons q qs ih =>
    obtain ⟨hq, hqs⟩ := List.forall_mem_cons.1 h
    rw [lines_cons]
    exact isBalanced_lineBreak_append
      (hq.isBalanced_written.append hq.writable.writable.run_declared (ih hqs))

theorem isBalanced_render {qs : List Query} (h : ∀ q ∈ qs, q.IsSound) : IsBalanced (render qs) :=
  (by decide : IsBalanced defaultHeader).append (by decide)
    (isBalanced_lines h)

/-! ## What is looked for -/

theorem bracketFaults_eq_nil_iff {t : Text} : bracketFaults t = [] ↔ IsBalanced t := by
  rw [bracketFaults, List.filterMap_eq_nil_iff]
  constructor
  · intro h kind
    have := h kind kind.mem_all
    by_contra hne
    rw [if_neg hne] at this
    cases this
  · intro h kind _
    exact if_pos (h kind)

/-- The header is found. -/
theorem sectionFaults_defaultHeader (u : Text) : sectionFaults (defaultHeader ++ u) = [] := by
  have hkeyword : sectionKeyword.isIn (defaultHeader ++ u) = true := rfl
  have hheader : bareHeader.isIn (defaultHeader ++ u) = true := rfl
  rw [sectionFaults, hkeyword, hheader]
  rfl

/-- The keyword is found where a declaration is written. -/
theorem queryFaults_declared {u : Text} (hu : startsWord u.getLast? = true) (name body v : Text) :
    queryFaults (u ++ (declared name body none ++ v)) = [] := by
  rw [queryFaults, if_pos]
  by_contra hnot
  rw [Bool.not_eq_true] at hnot
  have hnone : (sharedKeyword (u.getLast?.or none) (declared name body none ++ v)).isSome = false :=
    isSome_eq_false_of_foundAfter hnot
  rw [Option.or_none, sharedKeyword, hu] at hnone
  cases hnone

/-- **A rendered document is valid** when what is rendered is balanced. -/
theorem isValid_inspect_render {qs : List Query} (hne : qs ≠ []) (h : ∀ q ∈ qs, q.IsSound) :
    (inspect (render qs)).isValid = true := by
  have hsection : sectionFaults (render qs) = [] := sectionFaults_defaultHeader _
  have hqueries : queryFaults (render qs) = [] := by
    obtain ⟨q, qs, rfl⟩ := List.exists_cons_of_ne_nil hne
    have htext : render (q :: qs) = (defaultHeader ++ lineBreak ++ attributeLine q.ownAttribute) ++
        (declared (Name.written q.name) q.code none ++ lines qs) := by
      rw [render, lines_cons, Query.written, declared_eq_append]
      simp only [List.append_assoc]
    have hword := startsWord_attributeLine (by decide : startsWord
      (defaultHeader ++ lineBreak).getLast? = true) q.ownAttribute
    rw [htext]
    exact queryFaults_declared hword _ _ _
  have hbrackets := bracketFaults_eq_nil_iff.2 (isBalanced_render h)
  rw [Report.isValid, inspect, hsection, hqueries, hbrackets]
  rfl

end Mashup
end Dataflow
