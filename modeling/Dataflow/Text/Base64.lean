import Dataflow.Text.Utf8

/-!
# Base64

`Base64.encode` writes bytes in the standard alphabet with padding.  `Base64.decode` reads strictly,
character by character, and keeps three things between two characters (`State`): how far inside a
group of four it is, the bits left over, and whether padding has begun.

A padding character inside the first half of a group is passed over, the one that completes the
group ends the reading, and nothing may follow it.  Bits left over at the end are dropped.
-/

set_option autoImplicit false

namespace Dataflow
namespace Base64

/-! ## Writing -/

/-- The character for a number below sixty-four. -/
def digit (n : Nat) : Char :=
  if n < 26 then Char.ofNat (65 + n)
  else if n < 52 then Char.ofNat (71 + n)
  else if n < 62 then Char.ofNat (n - 4)
  else if n = 62 then '+'
  else '/'

/-- The characters for bytes, three at a time. -/
def encode : Bytes → Text
  | [] => []
  | [a] =>
    let n := a.toNat
    [digit (n / 4), digit (n % 4 * 16), '=', '=']
  | [a, b] =>
    let m := a.toNat
    let n := b.toNat
    [digit (m / 4), digit (m % 4 * 16 + n / 16), digit (n % 16 * 4), '=']
  | a :: b :: c :: rest =>
    let l := a.toNat
    let m := b.toNat
    let n := c.toNat
    digit (l / 4) :: digit (l % 4 * 16 + m / 16) :: digit (m % 16 * 4 + n / 64)
      :: digit (n % 64) :: encode rest

/-! ## Reading -/

/-- What can be wrong with base64 text. -/
inductive DecodeFault where
  /-- A character that is not ASCII. -/
  | notAscii
  /-- Padding in front. -/
  | leadingPadding
  /-- Something after the padding that completed a group. -/
  | excessData
  /-- A character outside the alphabet. -/
  | foreignCharacter
  /-- Data after padding that did not complete a group. -/
  | discontinuousPadding
  /-- A last group of one character, which holds no whole byte; `count` characters were read. -/
  | loneCharacter (count : Nat)
  /-- A last group of two or three characters without its padding. -/
  | missingPadding
deriving DecidableEq

/-- The wording of a fault. -/
def DecodeFault.message : DecodeFault → Text
  | .notAscii => text "string argument should contain only ASCII characters"
  | .leadingPadding => text "Leading padding not allowed"
  | .excessData => text "Excess data after padding"
  | .foreignCharacter => text "Only base64 data is allowed"
  | .discontinuousPadding => text "Discontinuous padding not allowed"
  | .loneCharacter count =>
    text "Invalid base64-encoded string: number of data characters (" ++ decimal count
      ++ text ") cannot be 1 more than a multiple of 4"
  | .missingPadding => text "Incorrect padding"

/-- The number for a character of the alphabet. -/
def value? (c : Char) : Option Nat :=
  let n := c.toNat
  if 65 ≤ n ∧ n ≤ 90 then some (n - 65)
  else if 97 ≤ n ∧ n ≤ 122 then some (n - 71)
  else if 48 ≤ n ∧ n ≤ 57 then some (n + 4)
  else if n = 43 then some 62
  else if n = 47 then some 63
  else none

/-- Where the reader stands between two characters. -/
structure State where
  /-- How many characters of the current group were read. -/
  phase : Fin 4
  /-- The bits of the group that no byte holds yet. -/
  left : Nat
  /-- How many padding characters were counted in this group. -/
  pads : Nat
  /-- Whether a padding character was seen. -/
  padded : Bool
  /-- How many characters of data were read. -/
  count : Nat

/-- Nothing was read yet. -/
def State.start : State := ⟨0, 0, 0, false, 0⟩

/-- Take in the six bits of a character: the bytes they complete and the next state. -/
def State.take (s : State) (bits : Nat) : Bytes × State :=
  let next (left : Nat) (bytes : Bytes) : Bytes × State :=
    (bytes, ⟨s.phase + 1, left, 0, s.padded, s.count + 1⟩)
  match s.phase with
  | 0 => next bits []
  | 1 => next (bits % 16) [UInt8.ofNat (s.left * 4 + bits / 16)]
  | 2 => next (bits % 4) [UInt8.ofNat (s.left * 16 + bits / 4)]
  | 3 => next 0 [UInt8.ofNat (s.left * 64 + bits)]

/-- The bytes of what follows. -/
def decodeFrom (s : State) : Text → Except DecodeFault Bytes
  | [] =>
    match s.phase with
    | 0 => .ok []
    | 1 => .error (.loneCharacter s.count)
    | _ => .error .missingPadding
  | c :: rest =>
    if c = '=' then
      if 2 ≤ s.phase.val then
        if 4 ≤ s.phase.val + (s.pads + 1) then
          if rest.isEmpty then .ok [] else .error .excessData
        else decodeFrom ⟨s.phase, s.left, s.pads + 1, true, s.count⟩ rest
      else decodeFrom ⟨s.phase, s.left, s.pads, true, s.count⟩ rest
    else
      match value? c with
      | none => .error .foreignCharacter
      | some bits =>
        if s.padded then .error .discontinuousPadding
        else (decodeFrom (s.take bits).2 rest).map ((s.take bits).1 ++ ·)

/-- Whether a code point is an ASCII character. -/
def isAscii : CodePoint → Bool
  | .scalar c => c.toNat < 0x80
  | .surrogate _ => false

/-- The bytes of base64 text.  Whether all of it is ASCII is looked at first, then its first
character, and then all characters in turn. -/
def decode (t : WideText) : Except DecodeFault Bytes :=
  if t.all isAscii then
    match t.narrow? with
    | some ('=' :: _) => .error .leadingPadding
    | some s => decodeFrom .start s
    | none => .error .notAscii
  else .error .notAscii

end Base64
end Dataflow
