import Dataflow.Text.Lower

/-!
# Definitions

A dataflow definition is a list of parts.  A `Part` has a path, a payload, which is text or JSON in
base64, and the name of that encoding.  Paths are compared without regard to case, and of several
parts with one path the first counts: it is the one that `Definition.part?` finds, and the one that
`Definition.setPayload` writes.

Three paths have a meaning, their `Role`: the mashup document, the metadata of its queries, and the
description of the platform.  Parts with other paths are carried along.
-/

set_option autoImplicit false

namespace Dataflow

/-- The name of the encoding of payloads. -/
def inlineBase64 : WideText := wide "InlineBase64"

/-- A part of a definition. -/
structure Part where
  /-- Where the part belongs. -/
  path : WideText
  /-- Its content, encoded. -/
  payload : WideText
  /-- How it is encoded. -/
  payloadType : WideText
deriving DecidableEq

/-- A definition of a dataflow. -/
structure Definition where
  /-- The parts in order. -/
  parts : List Part
deriving DecidableEq

/-! ## Paths -/

/-- What a part with a known path holds. -/
inductive Role where
  | mashup
  | queryMetadata
  | platform
deriving DecidableEq

namespace Role

/-- The path of a role as it is written. -/
def path : Role → WideText
  | mashup => wide "mashup.pq"
  | queryMetadata => wide "queryMetadata.json"
  | platform => wide ".platform"

/-- The path of a role in lower case. -/
def key : Role → WideText
  | mashup => wide "mashup.pq"
  | queryMetadata => wide "querymetadata.json"
  | platform => wide ".platform"

theorem lower_path (r : Role) : r.path.lower = r.key := by
  cases r <;> decide

/-- The role of a path, whatever its case. -/
def ofPath? (path : WideText) : Option Role :=
  [mashup, queryMetadata, platform].find? fun r => path.lower == r.key

end Role

/-- Whether a part lies at a path, whatever the case of the two. -/
def Part.isAt (p : Part) (path : WideText) : Bool := p.path.lower == path.lower

namespace Definition

/-- The definition without parts. -/
def empty : Definition := ⟨[]⟩

/-- The first part at a path. -/
def part? (d : Definition) (path : WideText) : Option Part := d.parts.find? fun p => p.isAt path

/-- The parts with the payload of the first one at a path replaced, or with a new part behind
them. -/
def setPayloadIn (path payload : WideText) : List Part → List Part
  | [] => [⟨path, payload, inlineBase64⟩]
  | p :: rest =>
    if p.isAt path then { p with payload } :: rest else p :: setPayloadIn path payload rest

/-- The definition with a payload at a path. -/
def setPayload (d : Definition) (path payload : WideText) : Definition :=
  ⟨setPayloadIn path payload d.parts⟩

/-- Some part lies at the path afterwards, and it has the payload. -/
theorem part?_setPayload (d : Definition) (path payload : WideText) :
    ((d.setPayload path payload).part? path).map Part.payload = some payload := by
  obtain ⟨parts⟩ := d
  simp only [part?, setPayload]
  induction parts with
  | nil => simp [setPayloadIn, Part.isAt]
  | cons p rest ih =>
    by_cases h : p.isAt path = true
    · have h' : Part.isAt { p with payload } path = true := h
      simp [setPayloadIn, h, h']
    · simp [setPayloadIn, h, ih]

end Definition
end Dataflow
