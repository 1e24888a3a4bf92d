import Dataflow.Definition.Edit
import Dataflow.Mashup.Report
import Dataflow.Store.Basic

/-!
# Services

A service fetches the definition of a dataflow from a store, edits it, and persists the outcome.  It
works on a `Desk`, the store together with the supply of ids.  All services that write go one way,
`Desk.edit`, so when one of them fails the store is left as it was, and ids that were drawn stay
drawn.
-/

set_option autoImplicit false

namespace Dataflow

/-- A store and the supply of ids for new entries. -/
structure Desk (σ : Type) where
  /-- The store. -/
  store : σ
  /-- The ids. -/
  ids : IdSupply

/-! ## Clusters -/

/-- A lookup of a cluster that did not come to an end. -/
inductive LookupFailure where
  | failed

/-- The cluster of a connection, none if it has none; the lookup may fail. -/
abbrev ClusterLookup := WideText → Except LookupFailure (Option WideText)

/-- The cluster of a connection, where a failed lookup, and no lookup, count as none. -/
def clusterOf (lookup : Option ClusterLookup) (id : WideText) : Option WideText :=
  match lookup with
  | none => none
  | some find =>
    match find id with
    | .ok cluster => cluster
    | .error .failed => none

/-- A connection that is to be listed. -/
structure ConnectionRequest where
  /-- The id of the connection. -/
  id : WideText
  /-- What kind of source it is. -/
  kind : WideText
  /-- Where the source is. -/
  path : WideText

/-- A request with its cluster. -/
def ConnectionRequest.bind (lookup : Option ClusterLookup) (r : ConnectionRequest) : Binding :=
  ⟨r.id, r.kind, r.path, clusterOf lookup r.id⟩

/-! ## Saving a document -/

/-- How far a document came. -/
inductive SaveStage where
  /-- It has faults. -/
  | validation
  /-- It has no query. -/
  | parsing
  /-- It is valid, and no more was asked for. -/
  | validated
  /-- It was saved. -/
  | saved
deriving DecidableEq

/-- What became of a document. -/
structure SaveResult where
  /-- How far it came. -/
  stage : SaveStage
  /-- What was found out about it. -/
  report : Mashup.Report
  /-- Its queries, if it came so far. -/
  queries : List Mashup.WideQuery

namespace Desk

variable {σ : Type} [DefinitionStore σ]

/-- Fetch a definition, edit it, and persist the outcome. -/
def edit (desk : Desk σ) (workspace dataflow : Text)
    (change : Definition → IdSupply → Except Failure Definition × IdSupply) :
    Except Failure Definition × Desk σ :=
  match DefinitionStore.fetch desk.store workspace dataflow with
  | .error failure => (.error failure, desk)
  | .ok d =>
    match change d desk.ids with
    | (.error failure, ids) => (.error failure, { desk with ids })
    | (.ok updated, ids) =>
      match DefinitionStore.persist desk.store workspace dataflow updated with
      | .error failure => (.error failure, { desk with ids })
      | .ok store => (.ok updated, ⟨store, ids⟩)

/-- The decoded view of a stored definition. -/
def view (desk : Desk σ) (workspace dataflow : Text) : Except Failure View :=
  (DefinitionStore.fetch desk.store workspace dataflow).map Definition.view

/-- Write a query into a stored definition. -/
def addQuery (desk : Desk σ) (workspace dataflow : Text) (name code : WideText)
    (attr sectionAttr : Option WideText) (defaults : Defaults) :
    Except Failure Definition × Desk σ :=
  if name.all CodePoint.isBlank then (.error .blankName, desk)
  else if code.all CodePoint.isBlank then (.error .blankCode, desk)
  else
    desk.edit workspace dataflow fun d ids => d.addQuery name code attr sectionAttr defaults ids

/-- List connections in a stored definition; the answer is the connections with their
clusters. -/
def addConnections (desk : Desk σ) (workspace dataflow : Text)
    (requests : List ConnectionRequest) (lookup : Option ClusterLookup) (defaults : Defaults) :
    Except Failure (List Binding) × Desk σ :=
  if requests.isEmpty then (.error .noConnections, desk)
  else
    let bindings := requests.map (ConnectionRequest.bind lookup)
    match desk.edit workspace dataflow fun d ids => (d.connect bindings defaults, ids) with
    | (.error failure, desk) => (.error failure, desk)
    | (.ok _, desk) => (.ok bindings, desk)

/-- Check a document and make it the whole of a stored definition. -/
def saveDocument (desk : Desk σ) (workspace dataflow : Text) (document : WideText)
    (validateOnly : Bool) (defaults : Defaults) : Except Failure SaveResult × Desk σ :=
  let report := Mashup.inspect document.outline
  if !report.isValid then (.ok ⟨.validation, report, []⟩, desk)
  else
    let queries := Mashup.Wide.queries document
    if queries.isEmpty then (.ok ⟨.parsing, report, []⟩, desk)
    else if validateOnly then (.ok ⟨.validated, report, queries⟩, desk)
    else
      match desk.edit workspace dataflow fun d ids =>
          d.replaceDocument document queries defaults ids with
      | (.error failure, desk) => (.error failure, desk)
      | (.ok _, desk) => (.ok ⟨.saved, report, queries⟩, desk)

/-- Patch the entry of a query in a stored definition. -/
def patchQuery (desk : Desk σ) (workspace dataflow : Text) (name : WideText) (patch : Patch) :
    Except Failure Definition × Desk σ :=
  desk.edit workspace dataflow fun d ids => (d.patchQuery name patch, ids)

end Desk
end Dataflow
