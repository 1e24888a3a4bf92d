import Dataflow.Text.Blank
import Dataflow.Text.Word

/-!
# Keywords and the places where a pattern occurs

The things looked for in a document are short: a keyword, a name, a sign or two, with blanks between
them.  A `Pattern` looks at the character before a place and at the text from that place on, and
answers with what it found and with what is left.  `occurrences` tries a pattern at every offset
from left to right and goes on behind each thing it finds.

Keywords are found whatever their case.  Besides the two cases of a letter `matchesLetter` takes the
long s for an `s`, the Kelvin sign for a `k`, and the dotted capital and the dotless small i for an
`i`.
-/

set_option autoImplicit false

namespace Dataflow
namespace Mashup

/-! ## Pieces of patterns -/

/-- Whether a character stands for a small ASCII letter of a keyword. -/
def matchesLetter (letter c : Char) : Bool :=
  c.toLower == letter
    || (letter == 's' && c == 'ſ')
    || (letter == 'k' && c == '\u212A')
    || (letter == 'i' && (c == '\u0130' || c == 'ı'))

/-- What follows a keyword, given by its small letters, at the beginning of a text. -/
def keyword? : (letters : Text) → Text → Option Text
  | [], t => some t
  | letter :: letters, c :: rest =>
    if matchesLetter letter c then keyword? letters rest else none
  | _ :: _, [] => none

/-- A keyword takes as many characters as it has letters. -/
theorem length_of_keyword? {letters t rest : Text} (h : keyword? letters t = some rest) :
    t.length = letters.length + rest.length := by
  induction letters generalizing t with
  | nil => cases h; simp
  | cons letter letters ih =>
    cases t with
    | nil => cases h
    | cons c t =>
      rw [keyword?] at h
      split at h
      · simp [ih h, Nat.add_right_comm]
      · cases h

/-- Whether a word may start behind the character `before`. -/
def startsWord (before : Option Char) : Bool := !before.any isWord

/-- Whether a word may end in front of a text. -/
def endsWord (rest : Text) : Bool := !rest.head?.any isWord

/-- What follows the blanks at the beginning of a text. -/
def blanks (t : Text) : Text := t.dropWhile isBlank

/-- What follows the blanks at the beginning of a text, of which there must be one. -/
def someBlanks? : Text → Option Text
  | [] => none
  | c :: rest => if isBlank c then some (blanks rest) else none

/-- What follows a sign at the beginning of a text. -/
def sign? (s : Char) : Text → Option Text
  | [] => none
  | c :: rest => if c = s then some rest else none

/-- The word characters at the beginning of a text, of which there must be one, and what
follows. -/
def word? (t : Text) : Option (Text × Text) :=
  match t.takeWhile isWord with
  | [] => none
  | w => some (w, t.dropWhile isWord)

/-! ## Occurrences of a pattern -/

/-- A way to look at a place: from the character before it and the text from there on, to what
was found and the text behind it. -/
abbrev Pattern (α : Type) := (before : Option Char) → Text → Option (α × Text)

/-- Something found in a document. -/
structure Occurrence (α : Type) where
  /-- The offset at which it begins. -/
  start : Nat
  /-- The offset behind it. -/
  stop : Nat
  /-- What was found. -/
  value : α

/-- What a pattern finds from offset `pos` on, the next `skip` characters belonging to what was
found already. -/
def occurrencesFrom {α : Type} (p : Pattern α) :
    (before : Option Char) → (pos skip : Nat) → Text → List (Occurrence α)
  | _, _, _, [] => []
  | _, pos, skip + 1, c :: rest => occurrencesFrom p (some c) (pos + 1) skip rest
  | before, pos, 0, c :: rest =>
    match p before (c :: rest) with
    | some (value, after) =>
      let size := (c :: rest).length - after.length
      ⟨pos, pos + size, value⟩ :: occurrencesFrom p (some c) (pos + 1) (size - 1) rest
    | none => occurrencesFrom p (some c) (pos + 1) 0 rest

/-- What a pattern finds in a document, from left to right and without overlap. -/
def occurrences {α : Type} (p : Pattern α) (t : Text) : List (Occurrence α) :=
  occurrencesFrom p none 0 0 t

namespace Pattern

/-- What a pattern finds first behind the character `before`. -/
def firstAfter {α : Type} (p : Pattern α) : (before : Option Char) → Text → Option α
  | _, [] => none
  | before, c :: rest => ((p before (c :: rest)).map Prod.fst).or (firstAfter p (some c) rest)

/-- Whether a pattern is found somewhere behind the character `before`. -/
def foundAfter {α : Type} (p : Pattern α) (before : Option Char) (t : Text) : Bool :=
  (p.firstAfter before t).isSome

theorem foundAfter_cons {α : Type} (p : Pattern α) (before : Option Char) (c : Char)
    (rest : Text) : p.foundAfter before (c :: rest) =
      ((p before (c :: rest)).isSome || p.foundAfter (some c) rest) := by
  rw [foundAfter, firstAfter, Option.isSome_or, Option.isSome_map, ← foundAfter]

/-- Whether a pattern is found somewhere in a document. -/
def isIn {α : Type} (p : Pattern α) (t : Text) : Bool := foundAfter p none t

/-- Whether a pattern takes a whole text. -/
def isWhole {α : Type} (p : Pattern α) (t : Text) : Bool :=
  match p none t with
  | some (_, []) => true
  | _ => false

/-- A keyword that is a word of its own. -/
def word (letters : Text) : Pattern Unit := fun before t => do
  guard (startsWord before)
  let rest ← keyword? letters t
  guard (endsWord rest)
  return ((), rest)

end Pattern
end Mashup
end Dataflow
