import Dataflow.Definition.Payload

/-!
# The decoded view of a definition

`Definition.view` decodes the parts with known paths.  Each says something, its `Part.content`, or
cannot be decoded; then its field stays unset and a `Diagnostic` tells why.  A part whose path
occurred before is no more than a diagnostic either.  The other parts are decoded all the same.

`View.encode` goes back.  A field that is set is written to the first part of its role; every other
part is carried over as it was.
-/

set_option autoImplicit false

namespace Dataflow

/-! ## Diagnostics -/

/-- Why a part with a known path was not decoded. -/
inductive Diagnostic where
  /-- An earlier part has the role. -/
  | repeated (path : WideText) (role : Role)
  /-- There is nothing in it. -/
  | emptyPayload (path : WideText)
  /-- Its payload has no text. -/
  | undecodable (path : WideText) (fault : Payload.Fault)
  /-- Its text is no JSON object. -/
  | unreadable (path : WideText) (fault : Payload.ObjectFault)
deriving DecidableEq

/-- The wording of a diagnostic. -/
def Diagnostic.message : Diagnostic → WideText
  | repeated path role =>
    wide "Part " ++ WideText.inQuotes path ++ wide " duplicates an earlier "
      ++ WideText.inQuotes role.key ++ wide " part; ignoring it"
  | emptyPayload path => wide "Part " ++ WideText.inQuotes path ++ wide " has an empty payload"
  | undecodable path fault =>
    wide "Failed to decode part " ++ WideText.inQuotes path ++ wide ": "
      ++ Text.widen fault.message
  | unreadable path fault =>
    wide "Failed to parse JSON in part " ++ WideText.inQuotes path ++ wide ": "
      ++ Text.widen fault.message

/-! ## The content of a part -/

/-- What a part with a known path holds. -/
inductive Content where
  | mashup (document : Text)
  | queryMetadata (fields : Fields)
  | platform (fields : Fields)

/-- The content of a part in a role. -/
def Part.content (p : Part) (role : Role) : Except Diagnostic Content :=
  if p.payload.isEmpty then .error (.emptyPayload p.path)
  else
    match Payload.decode p.payload with
    | .error fault => .error (.undecodable p.path fault)
    | .ok t =>
      match role with
      | .mashup => .ok (.mashup t)
      | .queryMetadata =>
        match Payload.readObject t with
        | .ok fields => .ok (.queryMetadata fields)
        | .error fault => .error (.unreadable p.path fault)
      | .platform =>
        match Payload.readObject t with
        | .ok fields => .ok (.platform fields)
        | .error fault => .error (.unreadable p.path fault)

/-! ## The view -/

/-- A definition with its known parts decoded. -/
structure View where
  /-- The mashup document. -/
  mashup : Option Text
  /-- The metadata of the queries. -/
  queryMetadata : Option Fields
  /-- The description of the platform. -/
  platform : Option Fields
  /-- All parts as they were. -/
  parts : List Part
  /-- What could not be decoded. -/
  diagnostics : List Diagnostic

namespace View

/-- The view of no parts, apart from the parts themselves. -/
def blank (parts : List Part) : View := ⟨none, none, none, parts, []⟩

/-- The view with the content of an earlier part. -/
def withContent (v : View) : Content → View
  | .mashup document => { v with mashup := some document }
  | .queryMetadata fields => { v with queryMetadata := some fields }
  | .platform fields => { v with platform := some fields }

/-- The view with an earlier diagnostic. -/
def withDiagnostic (v : View) (d : Diagnostic) : View :=
  { v with diagnostics := d :: v.diagnostics }

/-- What some parts add to a view of `all` parts when the roles in `seen` occurred before. -/
def ofParts (all : List Part) (seen : List Role) : List Part → View
  | [] => blank all
  | p :: rest =>
    match Role.ofPath? p.path with
    | none => ofParts all seen rest
    | some role =>
      if role ∈ seen then (ofParts all seen rest).withDiagnostic (.repeated p.path role)
      else
        match p.content role with
        | .ok content => (ofParts all (role :: seen) rest).withContent content
        | .error d => (ofParts all (role :: seen) rest).withDiagnostic d

/-- The payload that a view has for a role, if the field is set. -/
def payload? (v : View) : Role → Option (Except Payload.EncodeFault WideText)
  | .mashup => v.mashup.map fun document => .ok (Payload.encodeText document)
  | .queryMetadata => v.queryMetadata.map fun fields => Payload.encodeJson (.object fields)
  | .platform => v.platform.map fun fields => Payload.encodeJson (.object fields)

/-- Some parts with the payloads of a view when the roles in `seen` occurred before. -/
def encodeParts (v : View) (seen : List Role) : List Part → Except Payload.EncodeFault (List Part)
  | [] => .ok []
  | p :: rest =>
    match Role.ofPath? p.path with
    | none => (encodeParts v seen rest).map (p :: ·)
    | some role =>
      if role ∈ seen then (encodeParts v seen rest).map (p :: ·)
      else
        match v.payload? role with
        | none => (encodeParts v (role :: seen) rest).map (p :: ·)
        | some (.error fault) => .error fault
        | some (.ok payload) =>
          (encodeParts v (role :: seen) rest).map ({ p with payload } :: ·)

/-- The definition that a view stands for. -/
def encode (v : View) : Except Payload.EncodeFault Definition :=
  (v.encodeParts [] v.parts).map Definition.mk

end View

/-- The decoded view of a definition. -/
def Definition.view (d : Definition) : View := View.ofParts d.parts [] d.parts

end Dataflow
