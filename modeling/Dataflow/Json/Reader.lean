import Dataflow.Json.Basic
import Dataflow.Text.Basic

/-!
# Reading JSON

The reader works on the text that is left.  Each of its functions takes the text from its place on
and gives back what it read and the text behind it; a fault carries the length of the text that is
left at the place it names, so that offset, line and column can be told at the end, in
`ReadError.at`.

The grammar is the usual one with three more numbers, `NaN`, `Infinity` and `-Infinity`.  A number
ends where its grammar ends, so a stray character behind it is something after the value and not a
fault of the number.  Two escaped halves of a surrogate pair that stand next to each other become
one character, by `joinHalf`.

Lists and objects nest, so `readValue` and its two companions share one measure of fuel, of which
`Json.read` gives them more than the text can use up.

A text that is handed over, and not decoded from bytes, may hold surrogate halves as they are.  They
make sense in a string alone, so that all else can be read in the outline of the text.  How strings
are read is therefore left open in `readValue`: `Json.read` has them read by `readString`, and
`Json.readWide` by `readStringIn`, which looks up what the outline does not tell.
-/

set_option autoImplicit false

namespace Dataflow
namespace Json

/-! ## Faults -/

/-- What can be wrong at a place. -/
inductive ReadFault where
  /-- The text begins with a byte order mark. -/
  | byteOrderMark
  /-- There is no value. -/
  | noValue
  /-- There is no quoted name of a field. -/
  | noFieldName
  /-- There is no colon behind the name of a field. -/
  | noColon
  /-- There is neither a comma nor a closing bracket. -/
  | noComma
  /-- There is something behind the value. -/
  | extraData
  /-- The string that begins here does not end. -/
  | openString
  /-- A control character in a string. -/
  | controlCharacter
  /-- An escape that does not exist. -/
  | badEscape
  /-- An escape by number without its four digits. -/
  | badNumberEscape
deriving DecidableEq

/-- The wording of a fault. -/
def ReadFault.message : ReadFault → String
  | byteOrderMark => "Unexpected UTF-8 BOM (decode using utf-8-sig)"
  | noValue => "Expecting value"
  | noFieldName => "Expecting property name enclosed in double quotes"
  | noColon => "Expecting ':' delimiter"
  | noComma => "Expecting ',' delimiter"
  | extraData => "Extra data"
  | openString => "Unterminated string starting at"
  | controlCharacter => "Invalid control character at"
  | badEscape => "Invalid \\escape"
  | badNumberEscape => "Invalid \\uXXXX escape"

/-- Why the reader stops. -/
inductive Halt where
  /-- A fault where `left` characters of the text are left. -/
  | fault (what : ReadFault) (left : Nat)
  /-- An integer of more digits than are read. -/
  | tooManyDigits (count : Nat)
deriving DecidableEq

/-! ## Strings -/

/-- The number of a hexadecimal digit. -/
def hexValue? (c : Char) : Option Nat :=
  let n := c.toNat
  if 48 ≤ n ∧ n ≤ 57 then some (n - 48)
  else if 97 ≤ n ∧ n ≤ 102 then some (n - 87)
  else if 65 ≤ n ∧ n ≤ 70 then some (n - 55)
  else none

/-- The number of four hexadecimal digits. -/
def hexValue4? (a b c d : Char) : Option Nat := do
  let w ← hexValue? a
  let x ← hexValue? b
  let y ← hexValue? c
  let z ← hexValue? d
  return ((w * 16 + x) * 16 + y) * 16 + z

/-- The code point of an escape by number. -/
def ofEscape (n : Nat) : CodePoint := (CodePoint.ofNat? n).getD (.scalar '\uFFFD')

/-- A code point in front of a string.  A high half in front of a low half becomes the character
of the pair. -/
def joinHalf (p : CodePoint) (s : WideText) : WideText :=
  match p, s with
  | .surrogate high, .surrogate low :: rest =>
    if high.val < 0x400 ∧ 0x400 ≤ low.val then
      .scalar (Char.ofNat (0x10000 + high.val * 0x400 + (low.val - 0x400))) :: rest
    else p :: s
  | _, _ => p :: s

/-- The character that an escape of one letter stands for. -/
def letterEscape? : Char → Option Char
  | '"' => some '"'
  | '\\' => some '\\'
  | '/' => some '/'
  | 'b' => some '\x08'
  | 'f' => some '\x0c'
  | 'n' => some '\n'
  | 'r' => some '\r'
  | 't' => some '\t'
  | _ => none

/-- The string whose opening quote has been passed, `opened` characters being left at that quote,
and the text behind it. -/
def readString (opened : Nat) : Text → Except Halt (WideText × Text)
  | [] => .error (.fault .openString opened)
  | '"' :: rest => .ok ([], rest)
  | '\\' :: [] => .error (.fault .openString opened)
  | '\\' :: 'u' :: a :: b :: c :: d :: rest =>
    match hexValue4? a b c d, rest with
    | some n, _ :: _ =>
      match readString opened rest with
      | .ok (s, after) => .ok (joinHalf (ofEscape n) s, after)
      | .error halt => .error halt
    | _, _ => .error (.fault .badNumberEscape (rest.length + 5))
  | '\\' :: 'u' :: rest => .error (.fault .badNumberEscape (rest.length + 1))
  | '\\' :: c :: rest =>
    match letterEscape? c with
    | some x =>
      match readString opened rest with
      | .ok (s, after) => .ok (.scalar x :: s, after)
      | .error halt => .error halt
    | none => .error (.fault .badEscape (rest.length + 2))
  | c :: rest =>
    if c.toNat < 0x20 then .error (.fault .controlCharacter (rest.length + 1))
    else
      match readString opened rest with
      | .ok (s, after) => .ok (.scalar c :: s, after)
      | .error halt => .error halt

/-! ## Strings with surrogate halves -/

/-- What a piece of a string stands for that holds no half as it is. -/
def pieceValue (piece : Text) : WideText :=
  match readString 0 (piece ++ ['"']) with
  | .ok (s, _) => s
  | .error _ => []

/-- What stands between two quotes stands for, `piece` being what lies behind the last half.  A half
stands for itself, and is not joined with what an escape beside it stands for. -/
def piecesValue (piece : Text) : WideText → WideText
  | [] => pieceValue piece
  | .scalar c :: rest => piecesValue (piece ++ [c]) rest
  | .surrogate half :: rest => pieceValue piece ++ .surrogate half :: piecesValue [] rest

/-- As `readString`, of a text that is left of the outline of a wide text. -/
def readStringIn (whole : WideText) (opened : Nat) (t : Text) : Except Halt (WideText × Text) :=
  match readString opened t with
  | .error halt => .error halt
  | .ok (s, after) =>
    let inner := Text.slice whole (whole.length - t.length) (whole.length - after.length - 1)
    match WideText.narrow? inner with
    | some _ => .ok (s, after)
    | none => .ok (piecesValue [] inner, after)

/-- Where there are no halves a string is read as ever. -/
theorem readStringIn_widen (whole : Text) : readStringIn (Text.widen whole) = readString := by
  funext opened t
  rw [readStringIn]
  cases readString opened t with
  | error halt => rfl
  | ok r => simp only [WideText.slice_widen, WideText.narrow?_widen]

/-! ## Numbers -/

/-- Whether a character is a decimal digit. -/
def isDigit (c : Char) : Bool := 48 ≤ c.toNat && c.toNat ≤ 57

/-- The number that decimal digits denote. -/
def digitsValue (digits : Text) : Nat := digits.foldl (fun n c => n * 10 + (c.toNat - 48)) 0

/-- The digits of a whole number, a single zero or digits that begin with another one, and the
text behind them. -/
def wholeDigits? : Text → Option (Text × Text)
  | [] => none
  | '0' :: rest => some (['0'], rest)
  | c :: rest =>
    if isDigit c then some (c :: rest.takeWhile isDigit, rest.dropWhile isDigit) else none

/-- The digits of a fraction, empty if there is none, and the text behind it. -/
def fractionDigits (t : Text) : Text × Text :=
  match t with
  | '.' :: c :: rest =>
    if isDigit c then (c :: rest.takeWhile isDigit, rest.dropWhile isDigit) else ([], t)
  | _ => ([], t)

/-- The power of ten of an exponent, if there is one, and the text behind it. -/
def exponent? (t : Text) : Option (Int × Text) :=
  let digits (negative : Bool) (rest : Text) : Option (Int × Text) :=
    let ds := rest.takeWhile isDigit
    if ds.isEmpty then none
    else
      let n := digitsValue ds
      some (if negative then -(n : Int) else n, rest.dropWhile isDigit)
  match t with
  | 'e' :: '+' :: rest => digits false rest
  | 'e' :: '-' :: rest => digits true rest
  | 'E' :: '+' :: rest => digits false rest
  | 'E' :: '-' :: rest => digits true rest
  | 'e' :: rest => digits false rest
  | 'E' :: rest => digits false rest
  | _ => none

/-- The value of the pieces of a number. -/
def numberOf (negative : Bool) (whole fraction : Text) (exponent : Option Int) :
    Except Halt Json :=
  match fraction, exponent with
  | [], none =>
    if digitLimit < whole.length then .error (.tooManyDigits whole.length)
    else
      let n := digitsValue whole
      .ok (.int (if negative then -(n : Int) else n))
  | _, _ =>
    .ok (.float (Double.ofDecimal negative (digitsValue (whole ++ fraction))
      (exponent.getD 0 - fraction.length)))

/-- The number behind its sign, if there is one, and the text behind it. -/
def readUnsigned? (negative : Bool) (t : Text) : Option (Except Halt Json × Text) :=
  match wholeDigits? t with
  | none => none
  | some (whole, rest) =>
    let (fraction, rest) := fractionDigits rest
    match exponent? rest with
    | some (power, rest) => some (numberOf negative whole fraction (some power), rest)
    | none => some (numberOf negative whole fraction none, rest)

/-- The number at the beginning of a text, if there is one, and the text behind it. -/
def readNumber? (t : Text) : Option (Except Halt Json × Text) :=
  match t with
  | '-' :: rest => readUnsigned? true rest
  | _ => readUnsigned? false t

/-! ## Values -/

/-- The words that are values. -/
def words : List (Text × Json) :=
  [(text "null", .null), (text "true", .bool true), (text "false", .bool false),
    (text "NaN", .float .nan), (text "Infinity", .float (.infinite false)),
    (text "-Infinity", .float (.infinite true))]

/-- The word or number at the beginning of a text, and the text behind it. -/
def readScalar (t : Text) : Except Halt (Json × Text) :=
  match words.find? fun w => w.1.isPrefixOf t with
  | some (word, value) => .ok (value, t.drop word.length)
  | none =>
    match readNumber? t with
    | some (.ok value, rest) => .ok (value, rest)
    | some (.error halt, _) => .error halt
    | none => .error (.fault .noValue t.length)

/-- Whether a character may stand between the parts of a document. -/
def isSpace (c : Char) : Bool := c == ' ' || c == '\n' || c == '\r' || c == '\t'

/-- A text without the space at its beginning. -/
def skipSpace (t : Text) : Text := t.dropWhile isSpace

section

variable (strings : Nat → Text → Except Halt (WideText × Text))

mutual

/-- The value at the beginning of a text and the text behind it. -/
def readValue : (fuel : Nat) → Text → Except Halt (Json × Text)
  | 0, t => .error (.fault .noValue t.length)
  | fuel + 1, t =>
    match t with
    | '"' :: rest =>
      match strings t.length rest with
      | .ok (s, after) => .ok (.string s, after)
      | .error halt => .error halt
    | '[' :: rest =>
      match skipSpace rest with
      | ']' :: after => .ok (.array [], after)
      | inner =>
        match readItems fuel inner with
        | .ok (items, after) => .ok (.array items, after)
        | .error halt => .error halt
    | '{' :: rest =>
      match skipSpace rest with
      | '}' :: after => .ok (.object [], after)
      | inner =>
        match readFields fuel inner with
        | .ok (fields, after) => .ok (.object (Fields.ofPairs fields), after)
        | .error halt => .error halt
    | _ => readScalar t

/-- The items of a list up to its closing bracket, and the text behind that. -/
def readItems : (fuel : Nat) → Text → Except Halt (List Json × Text)
  | 0, t => .error (.fault .noValue t.length)
  | fuel + 1, t =>
    match readValue fuel t with
    | .error halt => .error halt
    | .ok (item, rest) =>
      match skipSpace rest with
      | ']' :: after => .ok ([item], after)
      | ',' :: more =>
        match readItems fuel (skipSpace more) with
        | .ok (items, after) => .ok (item :: items, after)
        | .error halt => .error halt
      | other => .error (.fault .noComma other.length)

/-- The fields of an object up to its closing brace, and the text behind that. -/
def readFields : (fuel : Nat) → Text → Except Halt (Fields × Text)
  | 0, t => .error (.fault .noFieldName t.length)
  | fuel + 1, t =>
    match t with
    | '"' :: rest =>
      match strings t.length rest with
      | .error halt => .error halt
      | .ok (key, rest) =>
        match skipSpace rest with
        | ':' :: rest =>
          match readValue fuel (skipSpace rest) with
          | .error halt => .error halt
          | .ok (value, rest) =>
            match skipSpace rest with
            | '}' :: after => .ok ([(key, value)], after)
            | ',' :: more =>
              match readFields fuel (skipSpace more) with
              | .ok (fields, after) => .ok ((key, value) :: fields, after)
              | .error halt => .error halt
            | other => .error (.fault .noComma other.length)
        | other => .error (.fault .noColon other.length)
    | _ => .error (.fault .noFieldName t.length)

end

/-- The value that is the whole of a text. -/
def readWhole (t : Text) : Except Halt Json :=
  match t with
  | '\uFEFF' :: _ => .error (.fault .byteOrderMark t.length)
  | _ =>
    match readValue strings (2 * t.length + 2) (skipSpace t) with
    | .error halt => .error halt
    | .ok (value, rest) =>
      match skipSpace rest with
      | [] => .ok value
      | other => .error (.fault .extraData other.length)

end

/-! ## Errors as they are reported -/

/-- Why a text is no JSON value. -/
inductive ReadError where
  /-- A fault at an offset, which lies in a line and a column counted from one. -/
  | malformed (what : ReadFault) (offset line column : Nat)
  /-- An integer of more digits than are read. -/
  | tooManyDigits (count : Nat)
deriving DecidableEq

/-- The wording of an error. -/
def ReadError.message : ReadError → Text
  | malformed what offset line column =>
    text what.message ++ text ": line " ++ decimal line ++ text " column " ++ decimal column
      ++ text " (char " ++ decimal offset ++ text ")"
  | tooManyDigits count =>
    text "Exceeds the limit (" ++ decimal digitLimit
      ++ text " digits) for integer string conversion: value has " ++ decimal count
      ++ text " digits; use sys.set_int_max_str_digits() to increase the limit"

/-- The error for a fault in a text, at the offset before which the other characters lie. -/
def ReadError.at (t : Text) (what : ReadFault) (left : Nat) : ReadError :=
  let before := t.take (t.length - left)
  malformed what before.length (before.count '\n' + 1)
    ((before.reverse.takeWhile (· ≠ '\n')).length + 1)

/-- What is read of a text, with the place of a fault. -/
def located (t : Text) : Except Halt Json → Except ReadError Json
  | .ok value => .ok value
  | .error (.fault what left) => .error (.at t what left)
  | .error (.tooManyDigits count) => .error (.tooManyDigits count)

/-- Read a text as a JSON value. -/
def read (t : Text) : Except ReadError Json := located t (readWhole readString t)

/-- Read a wide text as a JSON value. -/
def readWide (t : WideText) : Except ReadError Json :=
  located t.outline (readWhole (readStringIn t) t.outline)

theorem readWide_widen (t : Text) : readWide (Text.widen t) = read t := by
  rw [readWide, readStringIn_widen, WideText.outline_widen, read]

end Json
end Dataflow
