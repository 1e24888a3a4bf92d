import Dataflow.Text.Wide

/-!
# UTF-8

`Utf8.encode` writes a text as bytes and `Utf8.decode` reads bytes strictly: overlong forms,
surrogates and numbers above U+10FFFF are refused at the byte that would commit to them.  The reader
is a machine that holds, between two bytes, either nothing or the sequence it is inside of
(`Pending`), so a fault always covers the longest stretch that could still have become a character.

A wide text may hold halves of surrogate pairs, for which there are no bytes.  `Utf8.encodeWide`
refuses these, and its fault covers the first run of them.
-/

set_option autoImplicit false

namespace Dataflow

/-- A sequence of bytes. -/
abbrev Bytes := List UInt8

namespace Utf8

/-! ## Writing -/

/-- A byte that continues a sequence: `10` and the six lowest bits of `n`. -/
def continuation (n : Nat) : UInt8 := UInt8.ofNat (0x80 + n % 0x40)

/-- The one to four bytes of a character. -/
def encodeChar (c : Char) : Bytes :=
  let n := c.toNat
  if n < 0x80 then [UInt8.ofNat n]
  else if n < 0x800 then [UInt8.ofNat (0xC0 + n / 0x40), continuation n]
  else if n < 0x10000 then
    [UInt8.ofNat (0xE0 + n / 0x1000), continuation (n / 0x40), continuation n]
  else
    [UInt8.ofNat (0xF0 + n / 0x40000), continuation (n / 0x1000), continuation (n / 0x40),
      continuation n]

/-- The bytes of a text. -/
def encode (t : Text) : Bytes := t.flatMap encodeChar

/-- A run of surrogate halves that has no bytes. -/
structure EncodeFault where
  /-- The offset of the first half of the run. -/
  start : Nat
  /-- How many halves follow each other. -/
  count : Nat
  /-- The number of the first half. -/
  first : Nat
deriving DecidableEq

/-- The halves at the beginning of a wide text, counted. -/
def surrogateRun : WideText → Nat
  | .surrogate _ :: rest => surrogateRun rest + 1
  | _ => 0

/-- The first run of surrogate halves after offset `pos`, if there is one. -/
def firstFault (pos : Nat) : WideText → Option EncodeFault
  | [] => none
  | .scalar _ :: rest => firstFault (pos + 1) rest
  | .surrogate half :: rest => some ⟨pos, surrogateRun rest + 1, 0xD800 + half⟩

/-- The bytes of a wide text, which must not hold a surrogate half. -/
def encodeWide (t : WideText) : Except EncodeFault Bytes :=
  match firstFault 0 t, t.narrow? with
  | none, some s => .ok (encode s)
  | some fault, _ => .error fault
  | none, none => .ok []

/-- A widened text always has bytes, those of the text. -/
theorem encodeWide_widen (t : Text) : encodeWide (Text.widen t) = .ok (encode t) := by
  have hnone : ∀ pos, firstFault pos (Text.widen t) = none := by
    induction t with
    | nil => intro pos; rfl
    | cons c rest ih => intro pos; exact ih (pos + 1)
  simp [encodeWide, hnone 0, WideText.narrow?_widen]

/-! ## Reading -/

/-- What is wrong with the bytes at a place. -/
inductive DecodeReason where
  /-- No sequence begins with this byte. -/
  | start
  /-- The byte after these does not continue the sequence. -/
  | continuation
  /-- The input ends inside the sequence. -/
  | truncated
deriving DecidableEq

/-- A place at which bytes are no UTF-8. -/
structure DecodeFault where
  /-- The offset of the first byte at fault. -/
  start : Nat
  /-- How many bytes are at fault. -/
  count : Nat
  /-- The first byte at fault. -/
  first : UInt8
  /-- Why they are. -/
  reason : DecodeReason
deriving DecidableEq

/-- A sequence that has begun. -/
structure Pending where
  /-- The offset of its first byte. -/
  start : Nat
  /-- Its first byte. -/
  first : UInt8
  /-- How many bytes are missing after the next one. -/
  more : Nat
  /-- The least value of the next byte. -/
  low : UInt8
  /-- The greatest value of the next byte. -/
  high : UInt8
  /-- The bits read so far. -/
  bits : Nat

/-- What the first byte of a character says. -/
inductive Lead where
  /-- The byte is the character. -/
  | whole (c : Char)
  /-- The byte begins a sequence. -/
  | opens (p : Pending)
  /-- The byte begins nothing. -/
  | invalid

/-- Read a first byte at offset `pos`.  The bounds on the second byte keep out overlong forms,
surrogates and numbers that are too large. -/
def lead (pos : Nat) (b : UInt8) : Lead :=
  let n := b.toNat
  if n < 0x80 then .whole (Char.ofNat n)
  else if n < 0xC2 then .invalid
  else if n < 0xE0 then .opens ⟨pos, b, 0, 0x80, 0xBF, n - 0xC0⟩
  else if n = 0xE0 then .opens ⟨pos, b, 1, 0xA0, 0xBF, 0⟩
  else if n = 0xED then .opens ⟨pos, b, 1, 0x80, 0x9F, 0xD⟩
  else if n < 0xF0 then .opens ⟨pos, b, 1, 0x80, 0xBF, n - 0xE0⟩
  else if n = 0xF0 then .opens ⟨pos, b, 2, 0x90, 0xBF, 0⟩
  else if n < 0xF4 then .opens ⟨pos, b, 2, 0x80, 0xBF, n - 0xF0⟩
  else if n = 0xF4 then .opens ⟨pos, b, 2, 0x80, 0x8F, 4⟩
  else .invalid

/-- Read on at offset `pos`, inside the sequence `pending` if there is one. -/
def decodeFrom : (pos : Nat) → (pending : Option Pending) → Bytes → Except DecodeFault Text
  | _, none, [] => .ok []
  | pos, some p, [] => .error ⟨p.start, pos - p.start, p.first, .truncated⟩
  | pos, none, b :: rest =>
    match lead pos b with
    | .whole c => (decodeFrom (pos + 1) none rest).map (c :: ·)
    | .opens p => decodeFrom (pos + 1) (some p) rest
    | .invalid => .error ⟨pos, 1, b, .start⟩
  | pos, some p, b :: rest =>
    if p.low ≤ b ∧ b ≤ p.high then
      let bits := p.bits * 0x40 + b.toNat % 0x40
      match p.more with
      | 0 => (decodeFrom (pos + 1) none rest).map (Char.ofNat bits :: ·)
      | more + 1 => decodeFrom (pos + 1) (some ⟨p.start, p.first, more, 0x80, 0xBF, bits⟩) rest
    else .error ⟨p.start, pos - p.start, p.first, .continuation⟩

/-- The text of a sequence of bytes. -/
def decode (bytes : Bytes) : Except DecodeFault Text := decodeFrom 0 none bytes

/-! ## The wording of faults -/

/-- Where a run of `count` elements from `start` lies, as messages put it. -/
def placeOf (start count : Nat) : Text :=
  if count = 1 then decimal start else decimal start ++ '-' :: decimal (start + count - 1)

/-- The wording of a reason. -/
def DecodeReason.message : DecodeReason → String
  | .start => "invalid start byte"
  | .continuation => "invalid continuation byte"
  | .truncated => "unexpected end of data"

/-- The wording of a fault found while reading. -/
def DecodeFault.message (f : DecodeFault) : Text :=
  text "'utf-8' codec can't decode "
    ++ (if f.count = 1 then text "byte 0x" ++ hexadecimal 2 f.first.toNat else text "bytes")
    ++ text " in position " ++ placeOf f.start f.count ++ text ": " ++ text f.reason.message

/-- The wording of a fault found while writing. -/
def EncodeFault.message (f : EncodeFault) : Text :=
  text "'utf-8' codec can't encode "
    ++ (if f.count = 1 then text "character '\\u" ++ hexadecimal 4 f.first ++ text "'"
        else text "characters")
    ++ text " in position " ++ placeOf f.start f.count ++ text ": surrogates not allowed"

end Utf8
end Dataflow
