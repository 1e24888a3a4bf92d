import Dataflow.Number.Double
import Dataflow.Text.Wide

/-!
# JSON values

A JSON value keeps what a round trip has to keep: the order of the fields of an object, the
difference between an integer and a number with a fraction or an exponent, and unpaired surrogates
in strings.

`Fields`, the fields of an object, are a list of pairs and not a map, because their order is part of
what is written.  `Fields.set` replaces the value of a field in place, and a new field goes to the
end, so an edit of one field never moves another one.

Integers have no bound, but there is one on their text: an integer of more than `digitLimit` digits
is neither read nor written.  A value that was read therefore always can be written
(`Json.isWritable`), and only one that a caller builds may not.
-/

set_option autoImplicit false

namespace Dataflow

/-- A JSON value. -/
inductive Json where
  | null
  | bool (b : Bool)
  | int (n : Int)
  | float (x : Double)
  | string (s : WideText)
  | array (items : List Json)
  | object (fields : List (WideText × Json))

/-- The fields of an object in order. -/
abbrev Fields := List (WideText × Json)

namespace Fields

/-- The value of a field. -/
def get? (fields : Fields) (key : WideText) : Option Json :=
  match fields with
  | [] => none
  | (k, v) :: rest => if k = key then some v else get? rest key

/-- Whether there is a field. -/
def has (fields : Fields) (key : WideText) : Bool := (get? fields key).isSome

/-- The names of the fields. -/
def keys (fields : Fields) : List WideText := fields.map Prod.fst

/-- Give a field a value. -/
def set (fields : Fields) (key : WideText) (value : Json) : Fields :=
  match fields with
  | [] => [(key, value)]
  | (k, v) :: rest => if k = key then (k, value) :: rest else (k, v) :: set rest key value

/-- Give a field a value unless it has one. -/
def setIfMissing (fields : Fields) (key : WideText) (value : Json) : Fields :=
  if has fields key then fields else fields ++ [(key, value)]

/-- Give several fields their values, one after the other. -/
def setAll (fields : Fields) (new : Fields) : Fields :=
  new.foldl (fun acc f => set acc f.1 f.2) fields

/-- The fields of an object whose text names them in this order: of a repeated name the first place
and the last value count. -/
def ofPairs (pairs : Fields) : Fields := setAll [] pairs

theorem get?_set_self (fields : Fields) (key : WideText) (value : Json) :
    get? (set fields key value) key = some value := by
  induction fields with
  | nil => simp [set, get?]
  | cons f rest ih =>
    obtain ⟨k, v⟩ := f
    by_cases h : k = key <;> simp [set, get?, h, ih]

theorem get?_set_other {fields : Fields} {key other : WideText} (h : other ≠ key) (value : Json) :
    get? (set fields key value) other = get? fields other := by
  induction fields with
  | nil => simp [set, get?, Ne.symm h]
  | cons f rest ih =>
    obtain ⟨k, v⟩ := f
    by_cases hk : k = key
    · subst hk; simp [set, get?, Ne.symm h]
    · simp [set, get?, hk, ih]

end Fields

namespace Json

/-- The fields of a value that is an object. -/
def fields? : Json → Option Fields
  | object fields => some fields
  | _ => none

/-- Whether a value is something: not null, false, zero or empty.  What is not a number is
something. -/
def isTruthy : Json → Bool
  | null => false
  | bool b => b
  | int n => n != 0
  | float x => !x.isZero
  | string s => !s.isEmpty
  | array items => !items.isEmpty
  | object fields => !fields.isEmpty

/-- The most digits of an integer that is turned from or into text.  What is read, printed, shown in
a message or taken for an id by its text has no more; the texts of longer integers are defined
below like all others, but nothing asks for them. -/
def digitLimit : Nat := 4300

mutual

/-- Whether the integers in a value are short enough to be written. -/
def isWritable : Json → Bool
  | int n => (decimal n.natAbs).length ≤ digitLimit
  | array items => areWritable items
  | object fields => fieldsWritable fields
  | _ => true

/-- The same for the items of a list. -/
def areWritable : List Json → Bool
  | [] => true
  | item :: rest => isWritable item && areWritable rest

/-- The same for the fields of an object. -/
def fieldsWritable : List (WideText × Json) → Bool
  | [] => true
  | (_, value) :: rest => isWritable value && fieldsWritable rest

end

theorem areWritable_iff {items : List Json} :
    areWritable items = true ↔ ∀ v ∈ items, v.isWritable = true := by
  induction items with
  | nil => simp [areWritable]
  | cons item rest ih => simp [areWritable, ih]

theorem fieldsWritable_iff {fields : Fields} :
    fieldsWritable fields = true ↔ ∀ f ∈ fields, f.2.isWritable = true := by
  induction fields with
  | nil => simp [fieldsWritable]
  | cons f rest ih => simp [fieldsWritable, ih]

/-- What messages call the kind of a value. -/
def kindName : Json → String
  | null => "NoneType"
  | bool _ => "bool"
  | int _ => "int"
  | float _ => "float"
  | string _ => "str"
  | array _ => "list"
  | object _ => "dict"

end Json
end Dataflow
