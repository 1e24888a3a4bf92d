import Dataflow.Failure
import Dataflow.Metadata.Basic

/-!
# Patching an entry

A `Patch` sets some fields of the entry of one query.  A field that the patch does not mention, or
mentions with null, stays as it is, so a patch that is read is told by what it leaves out as much as
by what it sets.  `Metadata.patch` refuses a query that has no entry.
-/

set_option autoImplicit false

namespace Dataflow

open Shape

/-- What is set on an entry. -/
structure Patch where
  /-- Whether the data of the query is loaded. -/
  loadEnabled : Option Bool
  /-- Whether the query is hidden. -/
  isHidden : Option Bool
  /-- Where the data of the query goes. -/
  destinationSettings : Option Fields

namespace Patch

/-- What a patch is called in reports. -/
def shapeName : String := "MetadataPatch"

/-- A field that may be missing or null. -/
def optionalField {α : Type} (fields : Fields) (spellings : List String)
    (read : List Step → Json → Checked α) : Checked (Option α) :=
  match field? fields spellings with
  | none | some (_, .null) => .ok none
  | some (name, value) => (read [.field name] value).map some

/-- The patch that a value is. -/
def ofJson (value : Json) : Checked Patch :=
  match asFields [] (.record shapeName) value with
  | .error problems => .error problems
  | .ok fields =>
    let loadEnabled := optionalField fields ["loadEnabled", "load_enabled"] asBool
    let isHidden := optionalField fields ["isHidden", "is_hidden"] asBool
    let settings := optionalField fields ["destinationSettings", "destination_settings"]
      fun place => asFields place .object
    (both loadEnabled (both isHidden settings)).map fun p => ⟨p.1, p.2.1, p.2.2⟩

/-- The fields with which a patch names all it could set, in order; null for what it leaves. -/
def toFields (p : Patch) : Fields :=
  [(wide "loadEnabled", (p.loadEnabled.map Json.bool).getD .null),
    (wide "isHidden", (p.isHidden.map Json.bool).getD .null),
    (wide "destinationSettings", (p.destinationSettings.map Json.object).getD .null)]

/-- The fields that a patch sets, in order. -/
def fields (p : Patch) : Fields :=
  p.toFields.filter fun f => match f.2 with
    | .null => false
    | _ => true

end Patch

/-- The metadata with a patch applied to the entry of a query, which must be there. -/
def Metadata.patch (m : Metadata) (name : WideText) (p : Patch) : Except Failure Metadata :=
  match Fields.get? m entriesKey with
  | some (.object entries) =>
    match Fields.get? entries name with
    | some (.object entry) =>
      let entry := Fields.setAll entry p.fields
      .ok (Fields.set m entriesKey (.object (Fields.set entries name (.object entry))))
    | _ => .error (.unknownQuery name)
  | _ => .error .noQueriesSection

end Dataflow
