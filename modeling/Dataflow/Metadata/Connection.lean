import Dataflow.Json.Display
import Dataflow.Json.Printer
import Dataflow.Json.Reader
import Dataflow.Metadata.Basic

/-!
# Connections

The metadata lists the connections that the queries may use.  An entry names a connection by its id,
or by a composite id, a small JSON object that holds the id of a gateway cluster as well; which of
the two, `Connection.storedId` says.  A connection is listed once, in whichever form, so before
`Metadata.connect` appends an entry it looks with `Connection.isListed` for one of either form.

A list of ids is also given from outside, as a value or as a text, and `Connection.ids` reads it.
-/

set_option autoImplicit false

namespace Dataflow

/-- A connection with the cluster to which it is bound. -/
structure Binding where
  /-- The id of the connection. -/
  id : WideText
  /-- What kind of source it is. -/
  kind : WideText
  /-- Where the source is. -/
  path : WideText
  /-- The id of the cluster. -/
  cluster : Option WideText
deriving DecidableEq

namespace Connection

/-! ## Listed connections -/

/-- The id under which a connection is listed: with the cluster if there is one. -/
def storedId (id : WideText) (cluster : Option WideText) : WideText :=
  match cluster with
  | none | some [] => id
  | some cluster =>
    Json.print .compact
      (.object [(wide "ClusterId", .string cluster), (wide "DatasourceId", .string id)])

/-- How a composite id shows the id of its connection. -/
def idFragment (id : WideText) : WideText := wide "\"DatasourceId\":\"" ++ id ++ wide "\""

/-- The id of a listed connection, if the entry has one. -/
def listedId? : Json → Option WideText
  | .object entry =>
    match Fields.get? entry (wide "connectionId") with
    | some .null => some []
    | some id => some id.display
    | none => none
  | _ => none

/-- Whether an entry lists a connection by its id or its stored id. -/
def isEntryOf (id stored : WideText) (entry : Json) : Bool :=
  match listedId? entry with
  | some listed => listed == id || listed == stored || Text.occursIn (idFragment id) listed
  | none => false

/-- Whether a connection is listed. -/
def isListed (connections : List Json) (id stored : WideText) : Bool :=
  connections.any (isEntryOf id stored)

/-- The entry of a connection. -/
def entryOf (b : Binding) : Json :=
  .object [(wide "connectionId", .string (storedId b.id b.cluster)),
    (wide "kind", .string b.kind), (wide "path", .string b.path)]

/-- The list with a connection, unless it is listed. -/
def enlist (connections : List Json) (b : Binding) : List Json :=
  if isListed connections b.id (storedId b.id b.cluster) then connections
  else connections ++ [entryOf b]

/-! ## Lists of ids -/

/-- The strings among some values, without blanks around them, the empty ones left out and each
only once. -/
def idsAmong : (seen : List WideText) → List Json → List WideText
  | _, [] => []
  | seen, .string s :: rest =>
    let id := WideText.strip s
    if id.isEmpty || seen.contains id then idsAmong seen rest
    else id :: idsAmong (seen ++ [id]) rest
  | seen, _ :: rest => idsAmong seen rest

/-- The items of a text that is a JSON list, and otherwise the text as the only item. -/
def itemsOfText (s : WideText) : Except Json.ReadError (List Json) :=
  match s with
  | .scalar '[' :: _ =>
    match Json.readWide s with
    | .ok (.array items) => .ok items
    | .error (.tooManyDigits count) => .error (.tooManyDigits count)
    | _ => .ok [.string s]
  | _ => .ok [.string s]

/-- The ids that a value names: a list of them, a text that is such a list or a single id, or
null for none. -/
def ids : Json → Except Json.ReadError (List WideText)
  | .array items => .ok (idsAmong [] items)
  | .string s => (itemsOfText (WideText.strip s)).map (idsAmong [])
  | _ => .ok []

end Connection

namespace Metadata

/-- The listed connections, none when the field holds something else than a list. -/
def connectionsOf (m : Metadata) : List Json :=
  match Fields.get? m connectionsKey with
  | some (.array connections) => connections
  | _ => []

/-- The metadata with some connections listed. -/
def connect (m : Metadata) (bindings : List Binding) (defaults : Defaults) : Metadata :=
  let m := m.withLocale defaults
  Fields.set m connectionsKey (.array (bindings.foldl Connection.enlist m.connectionsOf))

end Metadata

end Dataflow
