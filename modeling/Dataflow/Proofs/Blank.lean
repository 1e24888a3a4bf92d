import Dataflow.Text.Blank
import Dataflow.Text.Word
import Mathlib.Data.List.DropRight

/-!
# Blanks at the ends of a text

What stripping does to a text that is put together from two pieces, and when it does nothing.  No
blank is a word character; this is a fact about the two tables, and the only one about them that
anything rests on.
-/

set_option autoImplicit false

namespace Dataflow

/-- Every range of blanks lies between two ranges of word characters. -/
theorem blankClass_disjoint_wordClass :
    ∀ r ∈ blankClass, ∀ n ∈ List.range' r.1 (r.2 + 1 - r.1), wordClass.has n = false := by
  decide +kernel

theorem isWord_of_isBlank {c : Char} (h : isBlank c = true) : isWord c = false := by
  obtain ⟨r, hr, hle⟩ := CharClass.exists_of_has h
  exact blankClass_disjoint_wordClass r hr c.toNat (List.mem_range'_1.2 (by omega))

/-! ## Dropping at the end -/

theorem dropEndWhile_eq_rdropWhile {α : Type} (p : α → Bool) (t : List α) :
    dropEndWhile p t = t.rdropWhile p := rfl

/-- What is left after dropping at the end stands at the front. -/
theorem dropEndWhile_append_exists {α : Type} (p : α → Bool) (t : List α) :
    ∃ tail, t = dropEndWhile p t ++ tail ∧ ∀ x ∈ tail, p x = true :=
  ⟨t.rtakeWhile p, List.rdropWhile_append_rtakeWhile.symm, fun _ => List.mem_rtakeWhile_imp⟩

namespace Text

theorem allBlank_append (u v : Text) : allBlank (u ++ v) = (allBlank u && allBlank v) :=
  List.all_append

/-- A text is blank exactly when nothing is left of it after stripping. -/
theorem strip_eq_nil_iff (t : Text) : strip t = [] ↔ allBlank t = true := by
  have hsplit := List.takeWhile_append_dropWhile (p := isBlank) (l := t)
  rw [strip, stripEnd, dropEndWhile_eq_rdropWhile, List.rdropWhile_eq_nil_iff, allBlank,
    List.all_eq_true]
  constructor
  · intro h x hx
    rw [← hsplit, List.mem_append] at hx
    exact hx.elim List.mem_takeWhile_imp (h x)
  · intro h x hx
    exact h x (hsplit ▸ List.mem_append_right _ hx)

/-- Blanks at the end are dropped with those before them. -/
theorem stripEnd_append_of_allBlank (u : Text) {v : Text} (h : allBlank v = true) :
    stripEnd (u ++ v) = stripEnd u := by
  have hv : ∀ c ∈ v.reverse, isBlank c = true := by
    simpa [allBlank] using h
  rw [stripEnd, stripEnd, dropEndWhile, dropEndWhile, List.reverse_append,
    List.dropWhile_append_of_pos hv]

/-- Dropping blanks at the end stops in the second piece when there is anything else in it. -/
theorem stripEnd_append (u : Text) {v : Text} (h : allBlank v = false) :
    stripEnd (u ++ v) = u ++ stripEnd v := by
  have hv : v.reverse.dropWhile isBlank ≠ [] := by
    rw [Ne, List.dropWhile_eq_nil_iff]
    simpa [allBlank] using h
  simp only [stripEnd, dropEndWhile, List.reverse_append, List.dropWhile_append]
  rw [if_neg (by simpa [List.isEmpty_iff] using hv)]
  simp

/-- Nothing is dropped behind a last character that is not blank. -/
theorem stripEnd_eq_self {t : Text} (h : t.getLast?.all (!isBlank ·) = true) : stripEnd t = t := by
  rcases List.eq_nil_or_concat t with rfl | ⟨u, c, rfl⟩
  · rfl
  · have hc : isBlank c = false := by simpa using h
    simp [stripEnd, dropEndWhile, hc]

theorem getLast?_stripEnd (t : Text) : (stripEnd t).getLast?.all (!isBlank ·) = true := by
  rw [stripEnd, dropEndWhile, List.getLast?_reverse]
  have := List.head?_dropWhile_not isBlank t.reverse
  cases h : (t.reverse.dropWhile isBlank).head? with
  | none => rfl
  | some c => simpa [h] using this

theorem stripEnd_eq_nil_iff (t : Text) : stripEnd t = [] ↔ allBlank t = true := by
  rw [stripEnd, dropEndWhile_eq_rdropWhile, List.rdropWhile_eq_nil_iff, allBlank, List.all_eq_true]

theorem stripEnd_prefix (t : Text) : stripEnd t <+: t := List.rdropWhile_prefix _ t

/-- A text that neither begins nor ends with a blank is stripped already. -/
theorem strip_eq_self {t : Text} (hhead : t.head?.all (!isBlank ·) = true)
    (hlast : t.getLast?.all (!isBlank ·) = true) : strip t = t := by
  cases t with
  | nil => rfl
  | cons c rest =>
    have hc : isBlank c = false := by simpa using hhead
    rw [strip, List.dropWhile_cons_of_neg (by simp [hc]), stripEnd_eq_self hlast]

theorem getLast?_strip (t : Text) : (strip t).getLast?.all (!isBlank ·) = true :=
  getLast?_stripEnd _

theorem head?_strip (t : Text) : (strip t).head?.all (!isBlank ·) = true := by
  obtain ⟨tail, htail⟩ := stripEnd_prefix (t.dropWhile isBlank)
  rw [strip]
  cases hs : stripEnd (t.dropWhile isBlank) with
  | nil => rfl
  | cons c rest =>
    have := List.head?_dropWhile_not isBlank t
    rw [← htail, hs] at this
    simpa using this

theorem strip_append_of_allBlank (u : Text) {v : Text} (h : allBlank v = true) :
    strip (u ++ v) = strip u := by
  rw [strip, strip, List.dropWhile_append]
  split
  · rename_i hu
    rw [List.isEmpty_iff.1 hu, List.dropWhile_eq_nil_iff.2 (List.all_eq_true.1 h)]
  · exact stripEnd_append_of_allBlank _ h

theorem strip_strip (t : Text) : strip (strip t) = strip t :=
  strip_eq_self (head?_strip t) (getLast?_strip t)

end Text
end Dataflow
