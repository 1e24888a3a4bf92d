import Dataflow.Text.Basic

/-!
# Classes of characters, and the blanks

What a keyword, a name or a blank is depends on classes of Unicode characters, some with hundreds
of ranges.  A `CharClass` is a list of disjoint ranges of scalar values in increasing order, so that
`CharClass.has` can stop at the first range that lies beyond the character: plain ASCII text never
walks the long tables of `Dataflow.Text.Word` and its neighbours.

The shortest of these tables is `blankClass`, the characters that separate words, pad names and are
dropped at either end of a text: the ASCII white space, the four information separators and the
white space of Unicode.  This is more than core's `Char.isWhitespace` knows, and it is less than one
might think, since the zero width space and the byte order mark are not blank.
-/

set_option autoImplicit false

namespace Dataflow

/-! ## Classes -/

/-- Ranges of scalar values, both ends included, disjoint and in increasing order. -/
abbrev CharClass := List (Nat × Nat)

namespace CharClass

/-- Whether a scalar value lies in one of the ranges. -/
def has : CharClass → Nat → Bool
  | [], _ => false
  | (first, last) :: rest, n => if n < first then false else n ≤ last || has rest n

/-- Whether a character belongs to the class. -/
def contains (k : CharClass) (c : Char) : Bool := k.has c.toNat

/-- What `has` finds is a range around the value. -/
theorem exists_of_has {k : CharClass} {n : Nat} (h : k.has n = true) :
    ∃ r ∈ k, r.1 ≤ n ∧ n ≤ r.2 := by
  induction k with
  | nil => simp [has] at h
  | cons r rest ih =>
    obtain ⟨first, last⟩ := r
    unfold has at h
    split at h
    · simp at h
    · rename_i hfirst
      rcases Bool.or_eq_true_iff.1 h with h | h
      · exact ⟨_, List.mem_cons_self, by omega, of_decide_eq_true h⟩
      · obtain ⟨r, hr, hle⟩ := ih h
        exact ⟨r, List.mem_cons_of_mem _ hr, hle⟩

end CharClass

/-! ## Blanks -/

/-- The ranges of blank characters. -/
def blankClass : CharClass := [
    (0x9, 0xD), (0x1C, 0x20), (0x85, 0x85), (0xA0, 0xA0), (0x1680, 0x1680),
    (0x2000, 0x200A), (0x2028, 0x2029), (0x202F, 0x202F), (0x205F, 0x205F), (0x3000, 0x3000)]

/-- Whether a character is blank. -/
def isBlank (c : Char) : Bool := blankClass.contains c

/-- A list without the elements at its end that satisfy `p`.  This is the library's
`List.rdropWhile` (`dropEndWhile_eq_rdropWhile`), of which only the proofs know: what runs needs no
more than core. -/
def dropEndWhile {α : Type} (p : α → Bool) (t : List α) : List α :=
  (t.reverse.dropWhile p).reverse

namespace Text

/-- A text without the blanks at its end. -/
def stripEnd (t : Text) : Text := dropEndWhile isBlank t

/-- A text without the blanks at either end. -/
def strip (t : Text) : Text := stripEnd (t.dropWhile isBlank)

/-- Whether a text has no character but blanks. -/
def allBlank (t : Text) : Bool := t.all isBlank

end Text

end Dataflow
