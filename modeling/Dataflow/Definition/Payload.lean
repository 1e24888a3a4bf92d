import Dataflow.Definition.Basic
import Dataflow.Json.Printer
import Dataflow.Json.Reader
import Dataflow.Text.Base64

/-!
# Payloads

The payload of a part is the base64 form of UTF-8 text, and the text of the two metadata parts is a
JSON object.  Reading is where outside data comes in, so `Payload.decode` leaves blanks such as line
breaks out of account, and says of everything else why it is no text (`Payload.Fault`).

Writing can fail too.  A text of characters always has a payload (`Payload.encodeText`), but a text
that a caller hands over may hold surrogate halves, and so may the strings of a JSON value, which
may moreover hold an integer that is too long.  `Definition.setWide` and `Definition.setJson` then
give the fault, and the definition is not written; `setWide_widen` says that the first of them is
`Definition.setText` where the text has no halves.
-/

set_option autoImplicit false

namespace Dataflow

namespace Payload

/-! ## Text -/

/-- The payload of a text. -/
def encodeText (t : Text) : WideText := Text.widen (Base64.encode (Utf8.encode t))

/-- Why a text or a value has no payload. -/
inductive EncodeFault where
  /-- There is a surrogate half in it. -/
  | utf8 (fault : Utf8.EncodeFault)
  /-- There is an integer in it that is too long to be written. -/
  | tooManyDigits
deriving DecidableEq

/-- The wording of a fault. -/
def EncodeFault.message : EncodeFault → Text
  | utf8 fault => fault.message
  | tooManyDigits =>
    text "Exceeds the limit (" ++ decimal Json.digitLimit
      ++ text " digits) for integer string conversion; use sys.set_int_max_str_digits() "
      ++ text "to increase the limit"

/-- The payload of a wide text, which must not hold a surrogate half. -/
def encodeWide (t : WideText) : Except EncodeFault WideText :=
  match Utf8.encodeWide t with
  | .ok bytes => .ok (Text.widen (Base64.encode bytes))
  | .error fault => .error (.utf8 fault)

/-- A widened text always has a payload, that of the text. -/
theorem encodeWide_widen (t : Text) : encodeWide (Text.widen t) = .ok (encodeText t) := by
  rw [encodeWide, Utf8.encodeWide_widen, encodeText]

/-- Why a payload has no text. -/
inductive Fault where
  | base64 (fault : Base64.DecodeFault)
  | utf8 (fault : Utf8.DecodeFault)
deriving DecidableEq

/-- The wording of a fault. -/
def Fault.message : Fault → Text
  | base64 fault => fault.message
  | utf8 fault => fault.message

/-- The text of a payload. -/
def decode (payload : WideText) : Except Fault Text :=
  match Base64.decode payload.removeBlanks with
  | .error fault => .error (.base64 fault)
  | .ok bytes =>
    match Utf8.decode bytes with
    | .error fault => .error (.utf8 fault)
    | .ok t => .ok t

/-! ## JSON objects -/

/-- Why a text is no JSON object. -/
inductive ObjectFault where
  | unreadable (error : Json.ReadError)
  | notObject (kind : String)
deriving DecidableEq

/-- The wording of a fault. -/
def ObjectFault.message : ObjectFault → Text
  | unreadable error => error.message
  | notObject kind => text "expected a JSON object, got " ++ text kind

/-- The fields of the JSON object that a text is. -/
def readObject (t : Text) : Except ObjectFault Fields :=
  match Json.read t with
  | .error error => .error (.unreadable error)
  | .ok (.object fields) => .ok fields
  | .ok value => .error (.notObject value.kindName)

/-- The payload of a JSON value, in which the length of its integers is looked at first. -/
def encodeJson (value : Json) : Except EncodeFault WideText :=
  if value.isWritable then encodeWide (value.print .document) else .error .tooManyDigits

theorem encodeJson_eq_ok_iff {value : Json} {payload : WideText} :
    encodeJson value = .ok payload ↔
      value.isWritable = true ∧ encodeWide (value.print .document) = .ok payload := by
  rw [encodeJson]
  cases value.isWritable with
  | true => exact (and_iff_right rfl).symm
  | false => exact ⟨nofun, nofun⟩

end Payload

/-! ## Parts -/

namespace Definition

/-- The definition with a text at a path. -/
def setText (d : Definition) (path : WideText) (t : Text) : Definition :=
  d.setPayload path (Payload.encodeText t)

/-- The definition with a wide text at a path. -/
def setWide (d : Definition) (path : WideText) (t : WideText) :
    Except Payload.EncodeFault Definition :=
  (Payload.encodeWide t).map (d.setPayload path)

theorem setWide_widen (d : Definition) (path : WideText) (t : Text) :
    d.setWide path (Text.widen t) = .ok (d.setText path t) := by
  rw [setWide, Payload.encodeWide_widen]
  rfl

/-- The definition with a JSON value at a path. -/
def setJson (d : Definition) (path : WideText) (value : Json) :
    Except Payload.EncodeFault Definition :=
  (Payload.encodeJson value).map (d.setPayload path)

/-- Writing JSON is writing its payload, if it has one. -/
theorem setJson_eq_ok_iff {d r : Definition} {path : WideText} {v : Json} :
    d.setJson path v = .ok r ↔
      ∃ payload, Payload.encodeJson v = .ok payload ∧ r = d.setPayload path payload := by
  rw [setJson]
  cases hpayload : Payload.encodeJson v with
  | error fault => exact ⟨nofun, fun ⟨_, h, _⟩ => by cases h⟩
  | ok payload =>
    constructor
    · intro h
      exact ⟨payload, rfl, (Except.ok.inj h).symm⟩
    · rintro ⟨_, h, rfl⟩
      cases h
      rfl

/-- The text at a path, if there is a part with a payload that can be decoded. -/
def text? (d : Definition) (path : WideText) : Option Text :=
  match d.part? path with
  | none => none
  | some part => if part.payload.isEmpty then none else (Payload.decode part.payload).toOption

/-- The JSON object at a path, if there is one. -/
def fields? (d : Definition) (path : WideText) : Option Fields :=
  match d.text? path with
  | none => none
  | some t => (Payload.readObject t).toOption

end Definition
end Dataflow
