import Dataflow.Text.Blank

/-!
# Marked-up text

What is printed may hold style tags: `[red]` opens a style and `[/red]`, or `[/]`, closes one.  A
tag is a bracket, a small letter, a number sign, a slash or an at sign, and whatever follows up to
the next bracket if that is a closing one; brackets around anything else are plain text.  An odd
number of backslashes in front makes a tag plain text too.  `pieces` takes a text apart by these
rules.

Without colours only the plain text remains, which is `plain?`.  Closing a style that is not open is
a fault, so there may be none.
-/

set_option autoImplicit false

namespace Dataflow
namespace Markup

/-- A stretch of plain text, or what stands between the brackets of a tag. -/
inductive Piece where
  | plain (t : Text)
  | tag (t : Text)
deriving DecidableEq

/-- Whether a tag may begin with a character. -/
def opensTag (c : Char) : Bool :=
  (97 ≤ c.toNat && c.toNat ≤ 122) || c == '#' || c == '/' || c == '@'

/-- The text up to the next bracket if that is a closing one. -/
def untilClosing? : Text → Option Text
  | [] => none
  | '[' :: _ => none
  | ']' :: _ => some []
  | c :: rest => (untilClosing? rest).map (c :: ·)

/-- What stands between the brackets of the tag whose opening bracket was passed. -/
def tag? : Text → Option Text
  | [] => none
  | c :: rest => if opensTag c then (untilClosing? rest).map (c :: ·) else none

/-- The pieces of a text in front of which `slashes` backslashes stand, and of which the next `skip`
characters belong to a tag. -/
def piecesFrom : (slashes skip : Nat) → Text → List Piece
  | slashes, _, [] => [.plain (List.replicate slashes '\\')]
  | _, skip + 1, _ :: rest => piecesFrom 0 skip rest
  | slashes, 0, '\\' :: rest => piecesFrom (slashes + 1) 0 rest
  | slashes, 0, '[' :: rest =>
    match tag? rest with
    | some t =>
      let piece : Piece := if slashes % 2 = 1 then .plain ('[' :: (t ++ [']'])) else .tag t
      .plain (List.replicate (slashes / 2) '\\') :: piece :: piecesFrom 0 (t.length + 1) rest
    | none => .plain (List.replicate (slashes - 1) '\\' ++ ['[']) :: piecesFrom 0 0 rest
  | slashes, 0, c :: rest =>
    .plain (List.replicate slashes '\\' ++ [c]) :: piecesFrom 0 0 rest

/-- A marked-up text taken apart. -/
def pieces (t : Text) : List Piece := piecesFrom 0 0 t

/-- The name of the style that a tag opens or closes. -/
def styleName (t : Text) : Text :=
  (Text.strip (t.takeWhile (· ≠ '='))).map Char.toLower

/-- The open styles after one is closed: the one of this name, or the last one. -/
def close? (name : Text) : (opened : List Text) → Option (List Text)
  | [] => none
  | s :: rest => if name.isEmpty || s = name then some rest else (close? name rest).map (s :: ·)

/-- The plain text of some pieces, the styles in `opened` being open. -/
def plainOf? : (opened : List Text) → List Piece → Option Text
  | _, [] => some []
  | opened, .plain t :: rest => (plainOf? opened rest).map (t ++ ·)
  | opened, .tag t :: rest =>
    match t with
    | '/' :: name =>
      match close? (styleName name) opened with
      | some opened => plainOf? opened rest
      | none => none
    | _ => plainOf? (styleName t :: opened) rest

/-- Whether a control character is not printed. -/
def isSilent (c : Char) : Bool :=
  c == '\x07' || c == '\x08' || c == '\x0b' || c == '\x0c' || c == '\r'

/-- The plain text of a marked-up text. -/
def plain? (t : Text) : Option Text :=
  (plainOf? [] (pieces t)).map fun s => s.filter fun c => !isSilent c

end Markup
end Dataflow
