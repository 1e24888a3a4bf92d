import Dataflow.Json.Display

/-!
# Values of a given shape

A definition or a patch that comes from outside is a JSON value of a certain shape: an object with
certain fields, some of which have two spellings or a default.  Reading it does not stop at the
first thing that is wrong.  Every `Problem` names its place, what was expected there, and the value
that was found, and `report` lists all of them in the order of the fields.

So what is read is `Checked`, a value or the problems that keep it from being one.  Two such
readings are put together by `Checked.both`, which loses the problems of neither.
-/

set_option autoImplicit false

namespace Dataflow
namespace Shape

/-- A step from a value to a part of it. -/
inductive Step where
  | field (name : String)
  | item (index : Nat)
deriving DecidableEq

/-- What was expected at a place. -/
inductive Expected where
  /-- A field that is not there. -/
  | presence
  /-- A string. -/
  | string
  /-- A string without unpaired surrogates. -/
  | plainString
  /-- A list. -/
  | list
  /-- An object that is a record of this name. -/
  | record (name : String)
  /-- An object. -/
  | object
  /-- A truth value, or a number or word that stands for one. -/
  | boolean
  /-- A number or word that stands for a truth value. -/
  | booleanWord
deriving DecidableEq

/-- The code of an expectation that was not met. -/
def Expected.code : Expected → String
  | presence => "missing"
  | string => "string_type"
  | plainString => "string_unicode"
  | list => "list_type"
  | record _ => "model_type"
  | object => "dict_type"
  | boolean => "bool_type"
  | booleanWord => "bool_parsing"

/-- The wording of an expectation that was not met. -/
def Expected.message : Expected → String
  | presence => "Field required"
  | string => "Input should be a valid string"
  | plainString =>
    "Input should be a valid string, unable to parse raw data as a unicode string"
  | list => "Input should be a valid list"
  | record name => "Input should be a valid dictionary or instance of " ++ name
  | object => "Input should be a valid dictionary"
  | boolean => "Input should be a valid boolean"
  | booleanWord => "Input should be a valid boolean, unable to interpret input"

/-- Something wrong with a value. -/
structure Problem where
  /-- The way to the place. -/
  place : List Step
  /-- What was expected there. -/
  expected : Expected
  /-- What was found there, or the object that lacks the field. -/
  found : Json

/-! ## The text of a report -/

/-- How many bytes of a rejected value are shown at most. -/
def shownBytes : Nat := 50

/-- The longest beginning of a text that has at most `room` bytes. -/
def fitting : (room : Nat) → Text → Text
  | _, [] => []
  | room, c :: rest => if c.utf8Size ≤ room then c :: fitting (room - c.utf8Size) rest else []

/-- How many bytes a text has. -/
def byteCount (t : Text) : Nat := t.foldr (fun c n => c.utf8Size + n) 0

/-- A text, or its beginning and its end if it is too long to be shown. -/
def shorten (t : Text) : Text :=
  if byteCount t ≤ shownBytes then t
  else fitting 25 t ++ text "..." ++ (fitting 24 t.reverse).reverse

/-- A value as it is shown, by its kind when it holds an integer that is too long to be written. -/
def shown (v : Json) : Text :=
  if v.isWritable then shorten v.describe
  else text "<unprintable " ++ text v.kindName ++ text " object>"

/-- A step as it is shown. -/
def Step.render : Step → Text
  | field name => text name
  | item index => decimal index

/-- A problem as it is shown: its place on a line of its own, unless that is the value as a whole,
and then what is wrong. -/
def Problem.render (p : Problem) : Text :=
  let place : Text := List.intercalate ['.'] (p.place.map Step.render)
  (if p.place.isEmpty then [] else '\n' :: place)
    ++ text "\n  " ++ text p.expected.message ++ text " [type=" ++ text p.expected.code
    ++ text ", input_value=" ++ shown p.found ++ text ", input_type="
    ++ text p.found.kindName ++ [']']

/-- The text for the problems of a record of this name. -/
def report (name : String) (problems : List Problem) : Text :=
  decimal problems.length ++ text " validation error"
    ++ (if problems.length = 1 then [] else ['s']) ++ text " for " ++ text name
    ++ problems.flatMap Problem.render

/-! ## Readers -/

/-- A value, or what is wrong with it. -/
abbrev Checked (α : Type) := Except (List Problem) α

/-- The problems of a checked value. -/
def problemsOf {α : Type} : Checked α → List Problem
  | .ok _ => []
  | .error problems => problems

/-- Two checked values together, with the problems of both. -/
def both {α β : Type} (a : Checked α) (b : Checked β) : Checked (α × β) :=
  match a, b with
  | .ok x, .ok y => .ok (x, y)
  | _, _ => .error (problemsOf a ++ problemsOf b)

/-- The first of several spellings of a field that occurs, and its value. -/
def field? (fields : Fields) : (spellings : List String) → Option (String × Json)
  | [] => none
  | name :: more =>
    match fields.get? (wide name) with
    | some value => some (name, value)
    | none => field? fields more

/-- A string. -/
def asString (place : List Step) : Json → Checked WideText
  | .string s => .ok s
  | v => .error [⟨place, .string, v⟩]

/-- The fields of an object. -/
def asFields (place : List Step) (expected : Expected) : Json → Checked Fields
  | .object fields => .ok fields
  | v => .error [⟨place, expected, v⟩]

/-- The items of a list. -/
def asItems (place : List Step) : Json → Checked (List Json)
  | .array items => .ok items
  | v => .error [⟨place, .list, v⟩]

/-- The words for true and for false. -/
def booleanWords : List (String × Bool) :=
  [("1", true), ("0", false), ("true", true), ("false", false), ("t", true), ("f", false),
    ("yes", true), ("no", false), ("y", true), ("n", false), ("on", true), ("off", false)]

/-- The truth value that a word stands for, whatever the case of its ASCII letters. -/
def booleanOfWord? (word : Text) : Option Bool :=
  booleanWords.lookup (String.ofList (word.map Char.toLower))

/-- The truth value that an integer stands for. -/
def booleanOfInt? (n : Int) : Option Bool :=
  if n = 1 then some true else if n = 0 then some false else none

/-- A truth value.  Zero, one and some words stand for truth values; other words, and other
integers of 64 bits, are told from values that could never be one. -/
def asBool (place : List Step) (v : Json) : Checked Bool :=
  let orWord (b : Option Bool) : Checked Bool :=
    match b with
    | some b => .ok b
    | none => .error [⟨place, .booleanWord, v⟩]
  match v with
  | .bool b => .ok b
  | .string s =>
    match s.narrow? with
    | some word => orWord (booleanOfWord? word)
    | none => .error [⟨place, .plainString, v⟩]
  | .int n =>
    if -9223372036854775808 ≤ n ∧ n < 9223372036854775808 then orWord (booleanOfInt? n)
    else .error [⟨place, .boolean, v⟩]
  | .float x =>
    match x.toInt? with
    | some n =>
      if -9223372036854775808 < n ∧ n < 9223372036854775808 then orWord (booleanOfInt? n)
      else .error [⟨place, .boolean, v⟩]
    | none => .error [⟨place, .boolean, v⟩]
  | _ => .error [⟨place, .boolean, v⟩]

end Shape
end Dataflow
