import Dataflow.Json.Basic
import Dataflow.Number.Shortest

/-!
# Printing JSON

A `Layout` says how a value is laid out: over several lines with an indentation, or on one line, and
whether characters beyond ASCII are written as they are or by number.  Three are in use, one for the
JSON inside a definition, one for a stored file and one for the id of a connection.  Fields are
printed in their order and numbers by the shortest decimal that reads back, so `Json.print` gives
the same text for the same value.
-/

set_option autoImplicit false

namespace Dataflow
namespace Json

/-- How a value is laid out. -/
structure Layout where
  /-- By how much each level is indented; none for a single line. -/
  indent : Option Nat
  /-- What stands between two items on a line. -/
  comma : String
  /-- What stands between a name and its value. -/
  colon : String
  /-- Whether characters beyond ASCII are written by number. -/
  asciiOnly : Bool

namespace Layout

/-- The layout of JSON inside a definition: two blanks a level, all characters as they are. -/
def document : Layout := ⟨some 2, ",", ": ", false⟩

/-- The layout of a stored file: two blanks a level, ASCII only. -/
def stored : Layout := ⟨some 2, ",", ": ", true⟩

/-- The layout of a composite connection id: no blanks, ASCII only. -/
def compact : Layout := ⟨none, ",", ":", true⟩

/-- What stands before an item at a level. -/
def lineStart (l : Layout) (level : Nat) : WideText :=
  match l.indent with
  | some n => Text.widen ('\n' :: List.replicate (n * level) ' ')
  | none => []

end Layout

/-! ## Strings and numbers -/

/-- An escape by number. -/
def numberEscape (n : Nat) : Text := '\\' :: 'u' :: hexadecimal 4 n

/-- How a character is written inside quotes. -/
def escapeChar (asciiOnly : Bool) (c : Char) : Text :=
  if c = '"' then ['\\', '"']
  else if c = '\\' then ['\\', '\\']
  else if c = '\n' then ['\\', 'n']
  else if c = '\r' then ['\\', 'r']
  else if c = '\t' then ['\\', 't']
  else if c = '\x08' then ['\\', 'b']
  else if c = '\x0c' then ['\\', 'f']
  else
    let n := c.toNat
    if n < 0x20 then numberEscape n
    else if asciiOnly ∧ 0x7F ≤ n then
      if n < 0x10000 then numberEscape n
      else
        numberEscape (0xD800 + (n - 0x10000) / 0x400)
          ++ numberEscape (0xDC00 + (n - 0x10000) % 0x400)
    else [c]

/-- How a code point is written inside quotes. -/
def escapePoint (asciiOnly : Bool) : CodePoint → WideText
  | .scalar c => Text.widen (escapeChar asciiOnly c)
  | .surrogate half =>
    if asciiOnly then Text.widen (numberEscape (0xD800 + half)) else [.surrogate half]

/-- A string in quotes. -/
def printString (asciiOnly : Bool) (s : WideText) : WideText :=
  wide "\"" ++ s.flatMap (escapePoint asciiOnly) ++ wide "\""

/-- Numbers are positional from 1e-4 up to, and without, 1e16. -/
def numberStyle : FloatStyle := ⟨"NaN", "Infinity", -4, 16⟩

/-! ## Values -/

mutual

/-- A value whose items are indented one level deeper than `level`. -/
def printAt (l : Layout) (level : Nat) : Json → WideText
  | .null => wide "null"
  | .bool true => wide "true"
  | .bool false => wide "false"
  | .int n => Text.widen (signedDecimal n)
  | .float x => Text.widen (x.render numberStyle)
  | .string s => printString l.asciiOnly s
  | .array items =>
    match items with
    | [] => wide "[]"
    | item :: rest =>
      wide "[" ++ l.lineStart (level + 1) ++ printAt l (level + 1) item
        ++ printItems l (level + 1) rest ++ l.lineStart level ++ wide "]"
  | .object fields =>
    match fields with
    | [] => wide "\x7b\x7d"
    | (key, value) :: rest =>
      wide "\x7b" ++ l.lineStart (level + 1) ++ printString l.asciiOnly key ++ wide l.colon
        ++ printAt l (level + 1) value ++ printFields l (level + 1) rest ++ l.lineStart level
        ++ wide "\x7d"

/-- The further items of a list at a level. -/
def printItems (l : Layout) (level : Nat) : List Json → WideText
  | [] => []
  | item :: rest =>
    wide l.comma ++ l.lineStart level ++ printAt l level item ++ printItems l level rest

/-- The further fields of an object at a level. -/
def printFields (l : Layout) (level : Nat) : List (WideText × Json) → WideText
  | [] => []
  | (key, value) :: rest =>
    wide l.comma ++ l.lineStart level ++ printString l.asciiOnly key ++ wide l.colon
      ++ printAt l level value ++ printFields l level rest

end

/-- A value in a layout. -/
def print (l : Layout) (value : Json) : WideText := printAt l 0 value

end Json
end Dataflow
