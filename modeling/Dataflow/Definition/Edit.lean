import Dataflow.Definition.View
import Dataflow.Failure
import Dataflow.Mashup.Wide
import Dataflow.Metadata.Connection
import Dataflow.Metadata.Entry
import Dataflow.Metadata.Patch

/-!
# Editing a definition

Each of the four edits, `Definition.addQuery`, `connect`, `replaceDocument` and `patchQuery`,
decodes the parts that it needs, changes their content and encodes them again; all other parts stay
as they are.  The two that write the document go through `setDocument`, so that document and
metadata change together or not at all.

What is already there and cannot be read is treated in two ways.  Metadata is taken for none and
built anew, except by a patch, which needs an entry (`Definition.metadata`).  A mashup part that
holds something else than text is never overwritten by adding a query, since there might be queries
in it that someone else can read (`Definition.document`).
-/

set_option autoImplicit false

namespace Dataflow
namespace Definition

/-- The current document, empty when there is none. -/
def document (d : Definition) : Except Failure Text :=
  match d.part? Role.mashup.path with
  | none => .ok []
  | some part =>
    if part.payload.isEmpty then .ok []
    else
      match d.text? Role.mashup.path with
      | some t => .ok t
      | none => .error (.undecodableMashup part.path)

/-- The current metadata, empty when there is none that can be read. -/
def metadata (d : Definition) : Metadata := (d.fields? Role.queryMetadata.path).getD []

/-- The definition with new metadata. -/
def setMetadata (d : Definition) (m : Metadata) : Except Failure Definition :=
  match d.setJson Role.queryMetadata.path (.object m) with
  | .ok d => .ok d
  | .error fault => .error (.unencodable fault)

theorem setMetadata_eq_ok_iff {d r : Definition} {m : Metadata} : d.setMetadata m = .ok r ↔
    ∃ payload, Payload.encodeJson (.object m) = .ok payload ∧
      r = d.setPayload Role.queryMetadata.path payload := by
  rw [← setJson_eq_ok_iff, setMetadata]
  cases d.setJson Role.queryMetadata.path (.object m) with
  | error fault => exact ⟨nofun, nofun⟩
  | ok e => rw [Except.ok.injEq, Except.ok.injEq]

/-- The definition with a new document and its metadata changed.  A document that has no payload is
found out before an id is drawn. -/
def setDocument (d : Definition) (document : WideText) (change : Metadata.Change)
    (defaults : Defaults) (ids : IdSupply) : Except Failure Definition × IdSupply :=
  match d.setWide Role.mashup.path document with
  | .error fault => (.error (.unencodable fault), ids)
  | .ok updated =>
    let (m, ids) := change.apply d.metadata defaults ids
    (updated.setMetadata m, ids)

/-- The definition with a query written into its document and registered in its metadata. -/
def addQuery (d : Definition) (name code : WideText) (attr sectionAttr : Option WideText)
    (defaults : Defaults) (ids : IdSupply) : Except Failure Definition × IdSupply :=
  match d.document with
  | .error failure => (.error failure, ids)
  | .ok document =>
    d.setDocument (Mashup.Wide.upsert document name code attr sectionAttr)
      (.register (Mashup.Wide.plain name) attr) defaults ids

/-- The definition with some connections listed in its metadata. -/
def connect (d : Definition) (bindings : List Binding) (defaults : Defaults) :
    Except Failure Definition :=
  d.setMetadata (d.metadata.connect bindings defaults)

/-- The definition with another document, for whose queries the metadata is built anew. -/
def replaceDocument (d : Definition) (document : WideText) (queries : List Mashup.WideQuery)
    (defaults : Defaults) (ids : IdSupply) : Except Failure Definition × IdSupply :=
  d.setDocument document (.rebuild queries) defaults ids

/-- The definition with the entry of a query patched. -/
def patchQuery (d : Definition) (name : WideText) (patch : Patch) : Except Failure Definition :=
  match d.fields? Role.queryMetadata.path with
  | none => .error .noQueryMetadata
  | some fields =>
    match Metadata.patch fields name patch with
    | .error failure => .error failure
    | .ok m => d.setMetadata m

theorem patchQuery_eq_ok_iff {d r : Definition} {name : WideText} {patch : Patch} :
    d.patchQuery name patch = .ok r ↔
      ∃ fields m, d.fields? Role.queryMetadata.path = some fields ∧
        Metadata.patch fields name patch = .ok m ∧ d.setMetadata m = .ok r := by
  rw [patchQuery]
  cases d.fields? Role.queryMetadata.path with
  | none => exact ⟨nofun, nofun⟩
  | some fields =>
    simp only [Option.some.injEq, exists_and_left, exists_eq_left']
    cases Metadata.patch fields name patch with
    | error failure => exact ⟨nofun, nofun⟩
    | ok m => simp only [Except.ok.injEq, exists_eq_left']

end Definition

/-- The queries of a decoded definition. -/
def View.queries (v : View) : List Mashup.Query := Mashup.queries (v.mashup.getD [])

end Dataflow
