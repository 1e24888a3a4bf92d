import Dataflow.Mashup.Bracket
import Dataflow.Mashup.Keyword
import Dataflow.Text.Lower

/-!
# Attributes

An attribute is a bracketed text such as `[DataDestinations = {…}]` in front of a query or of the
section header.  `attributeBefore?` finds it in front of an offset, from its closing bracket.  A
staging marker, `[StagingDefinition …]`, belongs to the section and is never the attribute of a
query, so what `Attribute.isStaging` recognizes is passed over.

Two things are read of an attribute: the key it sets (`Attribute.key?`) and the query to which it
sends the data (`Attribute.destination?`).
-/

set_option autoImplicit false

namespace Dataflow
namespace Mashup
namespace Attribute

/-- An attribute without the blanks around it, and none if nothing else is left. -/
def given? (attr : Option Text) : Option Text :=
  match attr with
  | none => none
  | some a => if Text.allBlank a then none else some (Text.strip a)

/-- Whether an attribute is a staging marker, whatever its case. -/
def isStaging (attr : Text) : Bool :=
  List.isPrefixOf (wide "[stagingdefinition") (Text.lower attr)

/-- The key behind the opening bracket, in lower case. -/
def key? (attr : Text) : Option WideText := do
  let rest ← sign? '[' (Text.strip attr)
  let (key, _) ← word? (blanks rest)
  return Text.lower key

/-- An attribute that names where the data of a query goes. -/
def destinationMarker : Pattern Unit := fun _ t => do
  let rest ← sign? '[' t
  let rest ← keyword? (text "datadestinations") (blanks rest)
  guard (endsWord rest)
  return ((), rest)

/-- The name in a field `QueryName = "…"`. -/
def queryNameField : Pattern Text := fun _ t => do
  let rest ← keyword? (text "queryname") t
  let rest ← sign? '=' (blanks rest)
  let rest ← sign? '"' (blanks rest)
  let name := rest.takeWhile (· ≠ '"')
  guard (!name.isEmpty)
  let rest ← sign? '"' (rest.dropWhile (· ≠ '"'))
  return (name, rest)

/-- The name of the query to which an attribute sends the data. -/
def destination? (attr : Option Text) : Option Text := do
  let a ← attr
  guard (destinationMarker.isIn a)
  let found ← (occurrences queryNameField a).head?
  return found.value

end Attribute

/-! ## The attribute in front of an offset -/

/-- An attribute found in a document. -/
structure PlacedAttribute where
  /-- The offset of its opening bracket. -/
  start : Nat
  /-- Its text, both brackets included. -/
  value : Text
deriving DecidableEq

/-- The attribute that ends before an offset with nothing but blanks in between. -/
def attributeBefore? (t : Text) (index : Int) : Option PlacedAttribute := do
  let close := lastSolidBefore t index
  let start ← openBracketAt? t close
  let value := Text.strip (Text.slice t start (close.toNat + 1))
  guard (!Attribute.isStaging value)
  return ⟨start, value⟩

end Mashup
end Dataflow
