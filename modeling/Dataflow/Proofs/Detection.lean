import Dataflow.Proofs.Appending
import Dataflow.Proofs.Extent

/-!
# Which declarations are found

A heading is looked for from left to right, and what one match takes no other can.  Only then are
the matches left out that begin in a literal or comment.  So the question is whether a match can
take the place of a heading that counts.

One that begins in code cannot.  Inside of it there are the rest of the keyword, blanks, a name and
a sign, and a heading begins with none of them, unless the name is in quotes; but what is between
quotes is no code.  One that begins in a comment can, because the reader of literals and the pattern
do not agree about quotes there: a quoted name that is opened in a comment goes on to the next
quote, over the end of the comment and over any heading on its way.  `declared_at_iff` says that
nothing else comes in between.
-/

set_option autoImplicit false

namespace Dataflow
namespace Mashup

/-! ## The places of headings -/

/-- A heading begins at an offset. -/
def HeadingAt (t : Text) (i : Nat) : Prop := (heading (t.take i).getLast? (t.drop i)).isSome = true

instance (t : Text) (i : Nat) : Decidable (HeadingAt t i) :=
  inferInstanceAs (Decidable (_ = true))

/-- The headings that count begin where one begins in code and no match from elsewhere reaches
over it. -/
theorem exists_mem_headings_iff {t : Text} {i : Nat} :
    (∃ o ∈ headings t, o.start = i) ↔ HeadingAt t i ∧ isCode (literalSpans t) i = true ∧
      ¬∃ o ∈ occurrences heading t,
        isCode (literalSpans t) o.start = false ∧ o.start < i ∧ i < o.stop :=
  Pattern.exists_mem_live_iff isLocal_heading startsPlain_heading exclusive_heading

/-! ## The keywords of declarations -/

/-- The offset of the keyword of a declaration, which stands behind the attribute and the blanks
after it. -/
def Declaration.keyword (d : Declaration) (t : Text) : Nat :=
  d.start + d.attr.length + ((t.drop (d.start + d.attr.length)).takeWhile isBlank).length

/-- The keyword of a declaration is where its heading begins. -/
theorem keyword_declarationOf {t : Text} {e : Entrance} (he : e ∈ entrances t)
    (spans : List Span) (boundary : Nat) :
    (declarationOf spans t e boundary).keyword t = e.heading.start := by
  obtain ⟨gap, hgap, hblank, -⟩ := slice_entrance he
  obtain ⟨hstart, hlt, hle⟩ := entrances_bounds he
  have hmem : e.heading ∈ headings t := by
    rw [← map_heading_entrances]
    exact List.mem_map_of_mem he
  obtain ⟨c, q, hcons, -, hc⟩ :=
    startsPlain_heading (mem_occurrences isLocal_heading (List.mem_filter.1 hmem).1)
  rw [Declaration.keyword, declarationOf]
  simp only
  generalize (e.attr.map PlacedAttribute.value).getD [] = attr at hgap ⊢
  have hsize := congrArg List.length hgap
  rw [Text.length_slice, List.length_append] at hsize
  have hbehind : t.drop (e.start + attr.length) = gap ++ c :: q := by
    rw [← List.drop_drop, ← Text.slice_append_drop t hstart, hgap, hcons, List.append_assoc,
      List.drop_left]
  have hblanks : (gap ++ c :: q).takeWhile isBlank = gap := by
    rw [List.takeWhile_append_of_pos (List.all_eq_true.1 hblank),
      List.takeWhile_cons_of_neg (by rw [hc]; exact Bool.false_ne_true), List.append_nil]
  rw [hbehind, hblanks]
  omega

/-- **Each heading that counts is the heading of one declaration.** -/
theorem map_keyword_declarations (t : Text) :
    ((declarations t).map fun d => d.keyword t) = (headings t).map Occurrence.start := by
  have hall : ∀ (es : List Entrance) (stop : Nat), (∀ e ∈ es, e ∈ entrances t) →
      ((declarationsUpTo (literalSpans t) t stop es).map fun d => d.keyword t) =
        (es.map Entrance.heading).map Occurrence.start := by
    intro es stop
    induction es with
    | nil => exact fun _ => rfl
    | cons e es ih =>
      intro hes
      obtain ⟨he, hes⟩ := List.forall_mem_cons.1 hes
      rw [declarationsUpTo, List.map_cons, List.map_cons, List.map_cons, ih hes,
        keyword_declarationOf he]
  rw [declarations_eq, hall _ _ fun e he => he, map_heading_entrances]

/-- **A heading in code is found just when no match from a literal or comment reaches over it.** -/
theorem declared_at_iff (t : Text) (i : Nat) :
    (∃ d ∈ declarations t, d.keyword t = i) ↔ HeadingAt t i ∧ isCode (literalSpans t) i = true ∧
      ¬∃ o ∈ occurrences heading t,
        isCode (literalSpans t) o.start = false ∧ o.start < i ∧ i < o.stop := by
  rw [← exists_mem_headings_iff, ← List.mem_map, ← List.mem_map, map_keyword_declarations]

/-- A document with a comment in which a quoted name is opened. -/
def swallowedDocument : Text :=
  text "section Section1;\r\n// shared #\"x\r\nshared A = \"=\" & \"b\";"

/-- **The query behind the comment is not found.**  The name that is opened in the comment ends at
the first quote of its expression, which an equals sign follows. -/
theorem not_declared_at_swallowedDocument :
    HeadingAt swallowedDocument 34 ∧ isCode (literalSpans swallowedDocument) 34 = true ∧
      ¬∃ d ∈ declarations swallowedDocument, d.keyword swallowedDocument = 34 := by
  decide +kernel

end Mashup
end Dataflow
