import Dataflow.Definition.Basic
import Dataflow.Json.Shape

/-!
# Definitions as JSON

A definition travels as an object with a list `parts` of objects with `path`, `payload` and
`payloadType`.  `Definition.toJson` writes all of it.  `Definition.ofJson` asks for less: the list
may be missing, and so may all of a part but its path.  What it refuses it reports as a whole, with
every problem there is.
-/

set_option autoImplicit false

namespace Dataflow

open Shape

/-- A string field of a part, with a value for when it is missing. -/
def Part.stringField (place : List Step) (fields : Fields) (spellings : List String)
    (default : WideText) : Checked WideText :=
  match field? fields spellings with
  | some (name, value) => asString (place ++ [.field name]) value
  | none => .ok default

/-- The path of a part, which must be there. -/
def Part.pathField (place : List Step) (fields : Fields) : Checked WideText :=
  match field? fields ["path"] with
  | some (name, value) => asString (place ++ [.field name]) value
  | none => .error [⟨place ++ [.field "path"], .presence, .object fields⟩]

/-- The part that a value is. -/
def Part.ofJson (place : List Step) (value : Json) : Checked Part :=
  match asFields place (.record "DefinitionPart") value with
  | .error problems => .error problems
  | .ok fields =>
    let path := Part.pathField place fields
    let payload := Part.stringField place fields ["payload"] []
    let payloadType := Part.stringField place fields ["payloadType", "payload_type"] inlineBase64
    (both path (both payload payloadType)).map fun p => ⟨p.1, p.2.1, p.2.2⟩

/-- The parts that the items of a list from an index on are. -/
def Part.listOfJson : (index : Nat) → List Json → Checked (List Part)
  | _, [] => .ok []
  | index, value :: rest =>
    (both (Part.ofJson [.field "parts", .item index] value)
      (Part.listOfJson (index + 1) rest)).map fun p => p.1 :: p.2

/-- What a definition is called in reports. -/
def Definition.shapeName : String := "DataflowDefinition"

/-- The definition that a value is. -/
def Definition.ofJson (value : Json) : Checked Definition :=
  match asFields [] (.record Definition.shapeName) value with
  | .error problems => .error problems
  | .ok fields =>
    match field? fields ["parts"] with
    | none => .ok .empty
    | some (name, list) =>
      match asItems [.field name] list with
      | .error problems => .error problems
      | .ok items => (Part.listOfJson 0 items).map Definition.mk

/-- A part as an object. -/
def Part.toJson (p : Part) : Json :=
  .object [(wide "path", .string p.path), (wide "payload", .string p.payload),
    (wide "payloadType", .string p.payloadType)]

/-- A definition as an object. -/
def Definition.toJson (d : Definition) : Json :=
  .object [(wide "parts", .array (d.parts.map Part.toJson))]

end Dataflow
