import Dataflow.Json.Basic
import Dataflow.Number.Shortest
import Dataflow.Text.Printable

/-!
# JSON values in messages and ids

Where an id is expected any JSON value is taken by its display text (`Json.display`): a string
stands for itself, and every other value is written on one line, with the strings inside it quoted
and the words `None`, `True` and `False`.  `Json.describe` quotes a string at the outside too;
messages show a rejected value that way.  Both are asked only for values that can be written: a
value taken for an id was read, and of any other a message shows only the kind (`Shape.shown`).
-/

set_option autoImplicit false

namespace Dataflow
namespace Json

/-- Numbers are positional from 1e-4 up to, and without, 1e16; special values are in small
letters. -/
def displayStyle : FloatStyle := ⟨"nan", "inf", -4, 16⟩

mutual

/-- A value with its strings quoted. -/
def describe : Json → Text
  | .null => text "None"
  | .bool true => text "True"
  | .bool false => text "False"
  | .int n => signedDecimal n
  | .float x => x.render displayStyle
  | .string s => Quoted.quote s
  | .array items =>
    match items with
    | [] => text "[]"
    | item :: rest => '[' :: (describe item ++ describeItems rest)
  | .object fields =>
    match fields with
    | [] => text "\x7b\x7d"
    | (key, value) :: rest =>
      '{' :: (Quoted.quote key ++ text ": " ++ describe value ++ describeFields rest)

/-- The further items of a list and its closing bracket. -/
def describeItems : List Json → Text
  | [] => [']']
  | item :: rest => text ", " ++ describe item ++ describeItems rest

/-- The further fields of an object and its closing brace. -/
def describeFields : List (WideText × Json) → Text
  | [] => ['}']
  | (key, value) :: rest =>
    text ", " ++ Quoted.quote key ++ text ": " ++ describe value ++ describeFields rest

end

/-- The display text of a value. -/
def display : Json → WideText
  | .string s => s
  | v => Text.widen (describe v)

end Json
end Dataflow
