import Dataflow.Json.Display
import Dataflow.Mashup.Wide
import Dataflow.Metadata.Basic
import Dataflow.Text.Fold

/-!
# Keeping entries in step with queries

There are two ways to bring the entries in line with the document.  `register` adds one query, and
the query to which its data goes, and leaves all other entries alone.  `rebuild` takes a list of
queries for the whole truth and builds the entries anew, keeping the ids of names that had one.  A
`Change` is one of the two.

A query to which another one sends its data is hidden.  `register` knows only its own query, and
hides the destination by its name as it is spelled.  `rebuild` knows all of them and compares folded
names, the `destinations` of the list.
-/

set_option autoImplicit false

namespace Dataflow
namespace Metadata

open Mashup (WideQuery)

/-! ## Registering one query -/

/-- The entries with one for a query.  An entry that is there only gets what it does not say about
loading. -/
def touch (entries : Fields) (name : WideText) (defaults : Defaults) (ids : IdSupply) :
    Fields × IdSupply :=
  match Fields.get? entries name with
  | some (.object entry) =>
    let entry := Fields.setIfMissing entry (wide "loadEnabled") (.bool defaults.loadEnabled)
    (Fields.set entries name (.object entry), ids)
  | _ =>
    let (id, ids) := ids.draw
    (Fields.set entries name (newEntry name id defaults false), ids)

/-- The entries with a hidden one for a query. -/
def hide (entries : Fields) (name : WideText) (defaults : Defaults) (ids : IdSupply) :
    Fields × IdSupply :=
  match Fields.get? entries name with
  | some (.object entry) =>
    let entry := Fields.set entry (wide "isHidden") (.bool true)
    (Fields.set entries name (.object entry), ids)
  | _ =>
    let (id, ids) := ids.draw
    (Fields.set entries name (newEntry name id defaults true), ids)

/-- The metadata with a query and, unless it is empty, the query to which its data goes. -/
def register (m : Metadata) (name : WideText) (destination : Option WideText)
    (defaults : Defaults) (ids : IdSupply) : Metadata × IdSupply :=
  let m := m.withLocale defaults
  let (entries, ids) := touch m.entriesOf name defaults ids
  let (entries, ids) :=
    match destination with
    | none | some [] => (entries, ids)
    | some target => hide entries target defaults ids
  (Fields.set m entriesKey (.object entries), ids)

/-! ## Rebuilding from a list of queries -/

/-- The folded names of the queries to which some query sends its data, each once. -/
def destinations (queries : List WideQuery) : List WideText :=
  ((queries.filterMap fun q => Mashup.Wide.destination? (some q.attr)).map WideText.fold).eraseDups

/-- The id that an entry has, if it is something. -/
def idOf? (entry : Option Json) : Option WideText :=
  match entry with
  | some (.object entry) =>
    match Fields.get? entry (wide "queryId") with
    | some id => if id.isTruthy then some id.display else none
    | none => none
  | _ => none

/-- The entries of a list of queries set one after the other, old ids being taken from
`previous`. -/
def rebuildEntries (previous : Fields) (hidden : List WideText) (defaults : Defaults) :
    (entries : Fields) → IdSupply → List WideQuery → Fields × IdSupply
  | entries, ids, [] => (entries, ids)
  | entries, ids, q :: rest =>
    let (id, ids) :=
      match idOf? (Fields.get? previous q.name) with
      | some id => (id, ids)
      | none => ids.draw
    let entry := newEntry q.name id defaults (hidden.contains (WideText.fold q.name))
    rebuildEntries previous hidden defaults (Fields.set entries q.name entry) ids rest

/-- The metadata with exactly the entries of a list of queries. -/
def rebuild (m : Metadata) (queries : List WideQuery) (defaults : Defaults) (ids : IdSupply) :
    Metadata × IdSupply :=
  let m := m.withLocale defaults
  let (entries, ids) :=
    rebuildEntries m.entriesOf (destinations queries) defaults [] ids queries
  (Fields.set m entriesKey (.object entries), ids)

/-! ## Either of the two -/

/-- A change of the entries. -/
inductive Change where
  /-- A query was written, with this attribute. -/
  | register (name : WideText) (attr : Option WideText)
  /-- These are all queries. -/
  | rebuild (queries : List WideQuery)

/-- The metadata after a change. -/
def Change.apply (m : Metadata) (c : Change) (defaults : Defaults) (ids : IdSupply) :
    Metadata × IdSupply :=
  match c with
  | .register name attr => m.register name (Mashup.Wide.destination? attr) defaults ids
  | .rebuild queries => m.rebuild queries defaults ids

end Metadata
end Dataflow
