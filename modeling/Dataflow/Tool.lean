import Dataflow.Service

/-!
# Tools

A tool is a service whose answer is a JSON object.  It says whether it succeeded, and a failure is
its message; only a text of connection ids that cannot be read at all is a failure of the call
itself, which `ToolCall.run` lets through.
-/

set_option autoImplicit false

namespace Dataflow

/-- A tool with its arguments. -/
inductive ToolCall where
  /-- Decode a definition and list its queries. -/
  | readDefinition (workspace dataflow : Text)
  /-- Write a query. -/
  | writeQuery (workspace dataflow : Text) (name code : WideText)
      (attr sectionAttr : Option WideText)
  /-- List connections of one kind and path; a cluster, if given, is that of all of them. -/
  | listConnections (workspace dataflow : Text) (ids : Json) (kind path : WideText)
      (cluster : Option WideText)
  /-- Check a document. -/
  | checkDocument (document : WideText)
  /-- Check a document and save it. -/
  | saveDocument (workspace dataflow : Text) (document : WideText) (validateOnly : Bool)
  /-- Patch the entry of a query. -/
  | patchEntry (workspace dataflow : Text) (name : WideText) (patch : Json)

/-! ## Answers -/

/-- An object from named values. -/
def Json.record (fields : List (String × Json)) : Json :=
  .object (fields.map fun f => (wide f.1, f.2))

/-- A text as a value. -/
def Json.ofText (t : Text) : Json := .string (Text.widen t)

/-- An optional value, null when there is none. -/
def Json.ofOption {α : Type} (encode : α → Json) : Option α → Json
  | some a => encode a
  | none => .null

/-- A query as a value. -/
def Mashup.WideQuery.toJson (q : Mashup.WideQuery) : Json :=
  .record [("name", .string q.name), ("code", .string q.code), ("attribute", .string q.attr)]

/-- A report as a value. -/
def Mashup.Report.toJson (r : Mashup.Report) : Json :=
  .record [("is_valid", .bool r.isValid), ("is_gen2", .bool r.isGen2),
    ("errors", .array (r.faults.map fun f => .ofText f.message)),
    ("warnings", .array (r.warnings.map fun w => .ofText w.message)),
    ("suggestions", .array (r.suggestions.map Json.ofText))]

/-- What a stage is called. -/
def SaveStage.label : SaveStage → String
  | validation => "validation"
  | parsing => "parsing"
  | validated => "validated"
  | saved => "saved"

/-- The fields that tell what became of a document. -/
def SaveResult.fields (r : SaveResult) : List (String × Json) :=
  [("stage", .string (wide r.stage.label)), ("validation", r.report.toJson),
    ("queries", .array (r.queries.map Mashup.WideQuery.toJson)),
    ("saved", .bool (r.stage == .saved))]

namespace ToolCall

/-- The answer to a call that failed. -/
def failedAnswer (failure : Failure) : Json :=
  .record [("success", .bool false), ("message", .string failure.message)]

/-- The answer to a call, an error being a failed one. -/
def answerOf {α : Type} (outcome : Except Failure α) (success : α → Json) : Json :=
  match outcome with
  | .ok a => success a
  | .error failure => failedAnswer failure

/-- The clusters of some connections by their ids. -/
def clustersOf (bindings : List Binding) : Json :=
  .object (Fields.ofPairs (bindings.map fun b => (b.id, Json.ofOption .string b.cluster)))

/-- The lookup that gives some connections one cluster, if it is not empty, and else the given
lookup. -/
def lookupFor (cluster : Option WideText) (ids : List WideText)
    (lookup : Option ClusterLookup) : Option ClusterLookup :=
  match cluster with
  | none | some [] => lookup
  | some c => some fun id => .ok (if ids.contains id then some c else none)

/-! ## Running a tool -/

variable {σ : Type} [DefinitionStore σ]

/-- The answer of a tool, and the desk afterwards. -/
def run (desk : Desk σ) (lookup : Option ClusterLookup) (defaults : Defaults) :
    ToolCall → Except Failure Json × Desk σ
  | readDefinition workspace dataflow =>
    (.ok (answerOf (desk.view workspace dataflow) fun v =>
      .record [("success", .bool true),
        ("queryMetadata", .ofOption .object v.queryMetadata),
        ("mashupQuery", .ofOption .ofText v.mashup),
        ("platformMetadata", .ofOption .object v.platform),
        ("queries", .array (v.queries.map fun q => q.widen.toJson)),
        ("diagnostics", .array (v.diagnostics.map fun d => .string d.message))]), desk)
  | writeQuery workspace dataflow name code attr sectionAttr =>
    let (outcome, desk) := desk.addQuery workspace dataflow name code attr sectionAttr defaults
    (.ok (answerOf outcome fun _ =>
      .record [("success", .bool true), ("queryName", .string name),
        ("message", .string (wide "Added/updated query " ++ WideText.inQuotes name))]), desk)
  | listConnections workspace dataflow value kind path cluster =>
    match Connection.ids value with
    | .error error => (.error (.unreadableJson error), desk)
    | .ok ids =>
      let requests := ids.map fun id => ⟨id, kind, path⟩
      let (outcome, desk) := desk.addConnections workspace dataflow requests
        (lookupFor cluster ids lookup) defaults
      (.ok (answerOf outcome fun bindings =>
        .record [("success", .bool true), ("connectionIds", .array (ids.map .string)),
          ("clusterIds", clustersOf bindings)]), desk)
  | checkDocument document => (.ok (Mashup.inspect document.outline).toJson, desk)
  | saveDocument workspace dataflow document validateOnly =>
    let (outcome, desk) := desk.saveDocument workspace dataflow document validateOnly defaults
    (.ok (answerOf outcome fun r =>
      .record (("success", .bool (r.stage == .validated || r.stage == .saved)) :: r.fields)), desk)
  | patchEntry workspace dataflow name value =>
    match Patch.ofJson value with
    | .error problems => (.ok (failedAnswer (.misshapen Patch.shapeName problems)), desk)
    | .ok patch =>
      let (outcome, desk) := desk.patchQuery workspace dataflow name patch
      (.ok (answerOf outcome fun _ =>
        .record [("success", .bool true), ("queryName", .string name),
          ("appliedPatch", .object patch.toFields)]), desk)

end ToolCall
end Dataflow
