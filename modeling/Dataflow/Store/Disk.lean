import Dataflow.Definition.Wire
import Dataflow.Json.Printer
import Dataflow.Json.Reader
import Dataflow.Store.Basic
import Dataflow.Store.Folder

/-!
# A store in a folder

Each definition is a JSON file, in a directory for its workspace below a root.  The names of the
directory and the file are the ids, so `DiskStore.pathFor` refuses what could lead out of its place.
Reading also takes a definition that is wrapped in an object with a field `definition`.
-/

set_option autoImplicit false

namespace Dataflow

/-- A store below a directory of a folder. -/
structure DiskStore where
  /-- The directory. -/
  root : Path
  /-- The files. -/
  folder : Folder

namespace DiskStore

/-- Whether a text can be the name of a directory or, with an ending, of a file. -/
def isIdentifier (id : Text) : Bool :=
  !id.isEmpty && !id.contains '/' && !id.contains '\\' && id != ['.'] && id != ['.', '.']

/-- The path of the file for a dataflow. -/
def pathFor (s : DiskStore) (workspace dataflow : Text) : Except Failure Path :=
  if !isIdentifier workspace then .error (.invalidIdentifier workspace)
  else if !isIdentifier dataflow then .error (.invalidIdentifier dataflow)
  else .ok ((s.root.child workspace).child (dataflow ++ text ".json"))

/-- The path as it is given to the file system, which refuses null characters. -/
def placeFor (s : DiskStore) (workspace dataflow : Text) : Except Failure Text :=
  match s.pathFor workspace dataflow with
  | .error failure => .error failure
  | .ok path => if path.toText.contains '\x00' then .error .nullInPath else .ok path.toText

/-- The value inside a wrapping object, or the value itself. -/
def unwrap (value : Json) : Json :=
  match value with
  | .object fields =>
    match Fields.get? fields (wide "definition") with
    | some inner => if Fields.has fields (wide "parts") then value else inner
    | none => value
  | _ => value

/-- The definition in the bytes of a file. -/
def ofBytes (bytes : Bytes) : Except Failure Definition :=
  match Folder.textOf bytes with
  | .error fault => .error (.undecodableFile fault)
  | .ok t =>
    match Json.read t with
    | .error error => .error (.unreadableJson error)
    | .ok value =>
      match Definition.ofJson (unwrap value) with
      | .error problems => .error (.misshapen Definition.shapeName problems)
      | .ok d => .ok d

/-- The bytes of the file for a definition. -/
def toBytes (d : Definition) : Except Failure Bytes :=
  match Utf8.encodeWide (d.toJson.print .stored ++ wide "\n") with
  | .error fault => .error (.unencodable (.utf8 fault))
  | .ok bytes => .ok bytes

/-- The definition of a dataflow. -/
def read (s : DiskStore) (workspace dataflow : Text) : Except Failure Definition :=
  match s.placeFor workspace dataflow with
  | .error failure => .error failure
  | .ok place =>
    match s.folder.bytes? place with
    | none => .error (.missingFile place)
    | some bytes => ofBytes bytes

/-- The store with the definition of a dataflow written. -/
def write (s : DiskStore) (workspace dataflow : Text) (d : Definition) :
    Except Failure DiskStore :=
  match s.placeFor workspace dataflow with
  | .error failure => .error failure
  | .ok place =>
    match toBytes d with
    | .error failure => .error failure
    | .ok bytes => .ok { s with folder := s.folder.write place bytes }

instance : DefinitionStore DiskStore where
  fetch := read
  persist := write

end DiskStore
end Dataflow
