import Dataflow.Console.Screen
import Dataflow.Service

/-!
# What commands print

The lines and tables for a failure, for what was found out about a document, for a definition, and
for a document that was to be saved.  Cells show values by their display text, and nothing for
null or for a field that is missing.
-/

set_option autoImplicit false

namespace Dataflow

/-- A wide text as it is printed, surrogate halves by number. -/
def WideText.shown (t : WideText) : Text :=
  t.flatMap fun p =>
    match p with
    | .scalar c => [c]
    | .surrogate half => '\\' :: 'u' :: hexadecimal 4 (0xD800 + half)

namespace Command

/-- The line for a failure. -/
def failureLine (message : Text) : ScreenItem := .line (styled "red" message)

/-- The lines for what was found out about a document. -/
def reportLines (r : Mashup.Report) : List ScreenItem :=
  (r.faults.map fun f => .line (styled "red" (text "error") ++ ' ' :: f.message))
    ++ (r.warnings.map fun w => .line (styled "yellow" (text "warning") ++ ' ' :: w.message))
    ++ (r.suggestions.map fun s => .line (styled "cyan" (text "suggestion") ++ ' ' :: s))

/-- The cell for a field of an object, empty when it is missing or null. -/
def cellOf (fields : Fields) (key : String) : Text :=
  match Fields.get? fields (wide key) with
  | none | some .null => []
  | some value => value.display.shown

/-- The table of the queries of a definition. -/
def queriesTable (queries : List Mashup.Query) : ScreenItem :=
  .table ⟨text "Queries", [text "name", text "attribute", text "code_chars"],
    queries.map fun q =>
      [q.name, if q.attr.isEmpty then [] else text "yes", decimal q.code.length]⟩

/-- A field of metadata as far as it is something. -/
def presentField? (m : Fields) (key : WideText) : Option Json :=
  match Fields.get? m key with
  | some value => if value.isTruthy then some value else none
  | none => none

/-- The table of the entries, unless the field holds something else than an object. -/
def entriesTable (m : Fields) : List ScreenItem :=
  let tableOf (entries : Fields) : List ScreenItem :=
    [.table ⟨text "Query metadata",
      [text "name", text "queryId", text "loadEnabled", text "isHidden"],
      entries.filterMap fun e =>
        e.2.fields?.map fun entry =>
          [WideText.shown e.1, cellOf entry "queryId", cellOf entry "loadEnabled",
            cellOf entry "isHidden"]⟩]
  match presentField? m Metadata.entriesKey with
  | none => tableOf []
  | some (.object entries) => tableOf entries
  | some _ => []

/-- The table of the connections, if there are any. -/
def connectionsTable (m : Fields) : List ScreenItem :=
  match presentField? m Metadata.connectionsKey with
  | some (.array connections) =>
    [.table ⟨text "Connections", [text "connectionId", text "kind", text "path"],
      connections.filterMap fun c =>
        c.fields?.map fun fields =>
          [cellOf fields "connectionId", cellOf fields "kind", cellOf fields "path"]⟩]
  | _ => []

/-- What is printed of a definition. -/
def viewItems (v : View) : List ScreenItem :=
  let m := v.queryMetadata.getD []
  (v.diagnostics.map fun d => .line (styled "yellow" d.message.shown))
    ++ [queriesTable v.queries] ++ entriesTable m ++ connectionsTable m

/-- What is printed of a document that was to be saved. -/
def saveItems (dataflow : Text) (r : SaveResult) : List ScreenItem :=
  let table : ScreenItem := .table ⟨text "Queries", [text "name", text "attribute"],
    r.queries.map fun q => [q.name.shown, q.attr.shown]⟩
  reportLines r.report ++
    match r.stage with
    | .validation => [failureLine (text "Document is not valid.")]
    | .parsing => [failureLine (text "No shared queries found in the document.")]
    | .validated => [table, .line (styled "green" (text "Document is valid."))]
    | .saved =>
      [table, .line (styled "green" (text "Saved") ++ ' ' :: decimal r.queries.length
        ++ text " queries to dataflow " ++ dataflow)]

end Command
end Dataflow
