import Dataflow.Text.Blank

/-!
# Text with unpaired surrogates

A JSON document can name half of a surrogate pair by an escape (`\ud800`).  Such a half is no
character and has no UTF-8 form, but it is kept, compared and written back like any other element
of a string.  A `WideText` is a text that may hold such halves; an ordinary text is widened by
`Text.widen`, and `WideText.narrow?` goes back where no half occurs.

Where a text is only looked through, for a keyword or a bracket, it does not matter which half it
holds, since a half is part of nothing that is looked for.  There `WideText.outline` stands for it,
a text of characters in which all offsets are the same.
-/

set_option autoImplicit false

namespace Dataflow

/-- A scalar value, or one half of a surrogate pair, by its distance from U+D800. -/
inductive CodePoint where
  | scalar (c : Char)
  | surrogate (half : Fin 0x800)
deriving DecidableEq

namespace CodePoint

/-- The number of a code point. -/
def value : CodePoint → Nat
  | scalar c => c.toNat
  | surrogate half => 0xD800 + half

/-- The code point with a number below 0x110000. -/
def ofNat? (n : Nat) : Option CodePoint :=
  if h : 0xD800 ≤ n ∧ n < 0xE000 then some (surrogate ⟨n - 0xD800, by omega⟩)
  else if n < 0x110000 then some (scalar (Char.ofNat n))
  else none

/-- The character that a code point counts as where characters are told apart: a surrogate half is
no more a letter, a digit, a blank or a mark than the replacement character is. -/
def outline : CodePoint → Char
  | scalar c => c
  | surrogate _ => '\uFFFD'

/-- Whether a code point is a blank character. -/
def isBlank : CodePoint → Bool
  | scalar c => Dataflow.isBlank c
  | surrogate _ => false

end CodePoint

/-- A sequence of code points. -/
abbrev WideText := List CodePoint

/-- A text as a wide text. -/
def Text.widen (t : Text) : WideText := t.map .scalar

/-- The code points of a string. -/
def wide (s : String) : WideText := Text.widen s.toList

theorem Text.widen_append (s t : Text) :
    Text.widen (s ++ t) = Text.widen s ++ Text.widen t := by
  simp [Text.widen]

theorem Text.length_widen (t : Text) : (Text.widen t).length = t.length := List.length_map _

theorem Text.widen_injective {s t : Text} (h : Text.widen s = Text.widen t) : s = t :=
  List.map_inj_right (fun _ _ h => CodePoint.scalar.inj h) |>.1 h

namespace WideText

/-- The text that a wide text looks like, of the same length. -/
def outline (t : WideText) : Text := t.map CodePoint.outline

theorem outline_widen (t : Text) : outline (Text.widen t) = t := by
  rw [outline, Text.widen, List.map_map]
  exact List.map_id t

/-- The text of a wide text that holds no surrogate half. -/
def narrow? : WideText → Option Text
  | [] => some []
  | .scalar c :: rest => (narrow? rest).map (c :: ·)
  | .surrogate _ :: _ => none

/-- Narrowing undoes widening. -/
theorem narrow?_widen (t : Text) : narrow? (Text.widen t) = some t := by
  induction t with
  | nil => rfl
  | cons c rest ih =>
    have : narrow? (Text.widen (c :: rest)) = (narrow? (Text.widen rest)).map (c :: ·) := rfl
    rw [this, ih]
    rfl

/-- Only widened texts can be narrowed. -/
theorem eq_widen_of_narrow? {w : WideText} {t : Text} (h : narrow? w = some t) :
    w = Text.widen t := by
  induction w generalizing t with
  | nil => cases h; rfl
  | cons p rest ih =>
    cases p with
    | surrogate half => cases h
    | scalar c =>
      obtain ⟨u, hu, rfl⟩ := Option.map_eq_some_iff.1 h
      rw [ih hu]
      rfl

/-! ## Widened texts

What cuts, doubles or looks for a stretch does with a widened text what it does with the text. -/

theorem slice_widen (t : Text) (start stop : Nat) :
    Text.slice (Text.widen t) start stop = Text.widen (Text.slice t start stop) := by
  rw [Text.slice, Text.slice, Text.widen, Text.widen, List.map_drop, List.map_take]

theorem double_widen (c : Char) (t : Text) :
    Text.double (.scalar c) (Text.widen t) = Text.widen (Text.double c t) := by
  induction t with
  | nil => rfl
  | cons x t ih =>
    by_cases hx : x = c
    · rw [hx, Text.double_cons_self]
      exact (Text.double_cons_self _ _).trans (congrArg (.scalar c :: .scalar c :: ·) ih)
    · rw [Text.double_cons_of_ne hx]
      exact (Text.double_cons_of_ne (fun h => hx (CodePoint.scalar.inj h)) _).trans
        (congrArg (.scalar x :: ·) ih)

theorem single_widen (c : Char) (t : Text) :
    Text.single (.scalar c) (Text.widen t) = Text.widen (Text.single c t) := by
  fun_induction Text.single c t with
  | case1 x y rest h ih =>
    obtain ⟨rfl, rfl⟩ := h
    simp only [Text.widen, List.map_cons, Text.single, and_self, if_true] at ih ⊢
    rw [ih]
  | case2 x y rest h ih =>
    have hne : ¬(CodePoint.scalar x = .scalar c ∧ CodePoint.scalar y = .scalar c) := by
      simpa using h
    simp only [Text.widen, List.map_cons, Text.single, if_neg hne] at ih ⊢
    rw [ih]
  | case3 t hshort =>
    rcases t with _ | ⟨x, _ | ⟨y, rest⟩⟩
    · rfl
    · rfl
    · exact absurd rfl (hshort x y rest)

theorem isPrefixOf_widen (s t : Text) :
    (Text.widen s).isPrefixOf (Text.widen t) = s.isPrefixOf t := by
  induction s generalizing t with
  | nil => rfl
  | cons c s ih =>
    cases t with
    | nil => rfl
    | cons d t =>
      have hhead : (CodePoint.scalar c == CodePoint.scalar d) = (c == d) := by
        rw [Bool.eq_iff_iff, beq_iff_eq, beq_iff_eq, CodePoint.scalar.injEq]
      exact congr (congrArg and hhead) (ih t)

theorem occursIn_widen (needle t : Text) :
    Text.occursIn (Text.widen needle) (Text.widen t) = Text.occursIn needle t := by
  induction t with
  | nil => cases needle <;> rfl
  | cons c rest ih => exact congr (congrArg or (isPrefixOf_widen needle (c :: rest))) ih

/-! ## Blanks -/

theorem all_isBlank_widen (t : Text) : (Text.widen t).all CodePoint.isBlank = Text.allBlank t :=
  List.all_map

/-- A wide text without the blanks at either end. -/
def strip (t : WideText) : WideText :=
  dropEndWhile CodePoint.isBlank (t.dropWhile CodePoint.isBlank)

theorem strip_widen (t : Text) : strip (Text.widen t) = Text.widen (Text.strip t) := by
  have hblank : CodePoint.isBlank ∘ CodePoint.scalar = isBlank := rfl
  simp only [strip, Text.strip, Text.stripEnd, dropEndWhile, Text.widen, List.dropWhile_map, hblank,
    ← List.map_reverse]

/-- A wide text without any blank. -/
def removeBlanks (t : WideText) : WideText := t.filter fun p => !p.isBlank

/-- The text `s` between two copies of the quote mark that messages put around a name. -/
def inQuotes (s : WideText) : WideText := wide "'" ++ s ++ wide "'"

end WideText
end Dataflow
