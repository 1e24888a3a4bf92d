import Dataflow.Definition.Payload
import Dataflow.Proofs.Reading

/-!
# Payloads read back

A text is put into a part as the base64 form of its UTF-8 bytes.  Both codecs are read by machines
that take one character, or one byte, at a time, so the proofs follow what is written: a group of
four characters for three bytes, and one to four bytes for a character, each with any rest behind
it.  `Base64.decode_encode` and `Utf8.decode_encode` come of that.

A payload may be broken into lines, and `Payload.decode_wrapped` says that it reads back as the text
that it was made from however that was done.  The payload of a JSON value reads back as the value if
it is tidy, and there is one if its strings are texts (`Payload.exists_encodeJson`).
-/

set_option autoImplicit false

namespace Dataflow
namespace Base64

/-! ## Base64 -/

/-- The alphabet has a number for each of its digits, and has neither blanks nor padding. -/
theorem digit_table : ∀ n : Fin 64, value? (digit n) = some n.val ∧ digit n ≠ '=' ∧
    (digit n).toNat < 0x80 ∧ isBlank (digit n) = false := by
  decide

/-- The machine takes a digit. -/
theorem decodeFrom_digit {s : State} (hs : s.padded = false) {n : Nat} (hn : n < 64) (rest : Text) :
    decodeFrom s (digit n :: rest) = (decodeFrom (s.take n).2 rest).map ((s.take n).1 ++ ·) := by
  obtain ⟨hvalue, hpad, -⟩ := digit_table ⟨n, hn⟩
  simp only at hvalue
  rw [decodeFrom, if_neg hpad]
  simp only [hvalue, hs, Bool.false_eq_true, if_false]

section

variable {left pads count n : Nat} (hn : n < 64) (rest : Text)
include hn

theorem decodeFrom_first : decodeFrom ⟨0, left, pads, false, count⟩ (digit n :: rest) =
    decodeFrom ⟨1, n, 0, false, count + 1⟩ rest := by
  have hstep := decodeFrom_digit (s := ⟨0, left, pads, false, count⟩) rfl hn rest
  rw [hstep]
  exact congrFun Except.map_id _

theorem decodeFrom_second : decodeFrom ⟨1, left, pads, false, count⟩ (digit n :: rest) =
    (decodeFrom ⟨2, n % 16, 0, false, count + 1⟩ rest).map (UInt8.ofNat (left * 4 + n / 16) :: ·) :=
  decodeFrom_digit rfl hn rest

theorem decodeFrom_third : decodeFrom ⟨2, left, pads, false, count⟩ (digit n :: rest) =
    (decodeFrom ⟨3, n % 4, 0, false, count + 1⟩ rest).map (UInt8.ofNat (left * 16 + n / 4) :: ·) :=
  decodeFrom_digit rfl hn rest

theorem decodeFrom_fourth : decodeFrom ⟨3, left, pads, false, count⟩ (digit n :: rest) =
    (decodeFrom ⟨0, 0, 0, false, count + 1⟩ rest).map (UInt8.ofNat (left * 64 + n) :: ·) :=
  decodeFrom_digit rfl hn rest

end

theorem ofNat_eq_of_toNat {n : Nat} {b : UInt8} (h : n = b.toNat) : UInt8.ofNat n = b := by
  rw [h, UInt8.ofNat_toNat]

theorem decodeFrom_encode (count : Nat) (bytes : Bytes) :
    decodeFrom ⟨0, 0, 0, false, count⟩ (encode bytes) = .ok bytes := by
  fun_induction encode bytes generalizing count with
  | case1 => rfl
  | case2 a n =>
    have ha := a.toNat_lt
    have hbyte : UInt8.ofNat (n / 4 * 4 + n % 4 * 16 / 16) = a :=
      ofNat_eq_of_toNat (by simp only [n]; omega)
    rw [decodeFrom_first (by omega), decodeFrom_second (by omega), hbyte]
    rfl
  | case3 a b m n =>
    have ha := a.toNat_lt
    have hb := b.toNat_lt
    have hfirst : UInt8.ofNat (m / 4 * 4 + (m % 4 * 16 + n / 16) / 16) = a :=
      ofNat_eq_of_toNat (by simp only [m, n]; omega)
    have hsecond : UInt8.ofNat ((m % 4 * 16 + n / 16) % 16 * 16 + n % 16 * 4 / 4) = b :=
      ofNat_eq_of_toNat (by simp only [m, n]; omega)
    rw [decodeFrom_first (by omega), decodeFrom_second (by omega), decodeFrom_third (by omega),
      hfirst, hsecond]
    rfl
  | case4 a b c rest l m n ih =>
    have ha := a.toNat_lt
    have hb := b.toNat_lt
    have hc := c.toNat_lt
    have hfirst : UInt8.ofNat (l / 4 * 4 + (l % 4 * 16 + m / 16) / 16) = a :=
      ofNat_eq_of_toNat (by simp only [l, m]; omega)
    have hsecond : UInt8.ofNat ((l % 4 * 16 + m / 16) % 16 * 16 + (m % 16 * 4 + n / 64) / 4) = b :=
      ofNat_eq_of_toNat (by simp only [l, m, n]; omega)
    have hthird : UInt8.ofNat ((m % 16 * 4 + n / 64) % 4 * 64 + n % 64) = c :=
      ofNat_eq_of_toNat (by simp only [m, n]; omega)
    rw [decodeFrom_first (by omega), decodeFrom_second (by omega), decodeFrom_third (by omega),
      decodeFrom_fourth (by omega), ih, hfirst, hsecond, hthird]
    rfl

/-- What is written is in the alphabet, with padding. -/
theorem forall_mem_encode (bytes : Bytes) :
    ∀ c ∈ encode bytes, c.toNat < 0x80 ∧ isBlank c = false := by
  have hdigit : ∀ n, n < 64 → (digit n).toNat < 0x80 ∧ isBlank (digit n) = false :=
    fun n hn => (digit_table ⟨n, hn⟩).2.2
  have hpad : ('=' : Char).toNat < 0x80 ∧ isBlank '=' = false := by decide
  fun_induction encode bytes with
  | case1 => simp
  | case2 a n =>
    have ha := a.toNat_lt
    simp only [List.forall_mem_cons]
    exact ⟨hdigit _ (by omega), hdigit _ (by omega), hpad, hpad, by simp⟩
  | case3 a b m n =>
    have ha := a.toNat_lt
    have hb := b.toNat_lt
    simp only [List.forall_mem_cons]
    exact ⟨hdigit _ (by omega), hdigit _ (by omega), hdigit _ (by omega), hpad, by simp⟩
  | case4 a b c rest l m n ih =>
    have ha := a.toNat_lt
    have hb := b.toNat_lt
    have hc := c.toNat_lt
    simp only [List.forall_mem_cons]
    exact ⟨hdigit _ (by omega), hdigit _ (by omega), hdigit _ (by omega), hdigit _ (by omega), ih⟩

theorem head?_encode (bytes : Bytes) : (encode bytes).head? ≠ some '=' := by
  have hdigit : ∀ n, n < 64 → digit n ≠ '=' := fun n hn => (digit_table ⟨n, hn⟩).2.1
  cases bytes with
  | nil => simp [encode]
  | cons a bytes =>
    have ha := a.toNat_lt
    have hfirst := hdigit (a.toNat / 4) (by omega)
    rcases bytes with _ | ⟨b, _ | ⟨c, rest⟩⟩ <;> simpa [encode] using hfirst

/-- **Base64 reads back.** -/
theorem decode_encode (bytes : Bytes) : decode (Text.widen (encode bytes)) = .ok bytes := by
  have hascii : (Text.widen (encode bytes)).all isAscii = true := by
    rw [Text.widen, List.all_map, List.all_eq_true]
    intro c hc
    exact decide_eq_true (forall_mem_encode bytes c hc).1
  have hhead := head?_encode bytes
  have hread := decodeFrom_encode 0 bytes
  rw [decode, if_pos hascii, WideText.narrow?_widen]
  split
  · rename_i rest heq
    rw [Option.some.inj heq] at hhead
    exact absurd rfl hhead
  · rename_i s hs heq
    rw [← Option.some.inj heq]
    exact hread
  · rename_i heq
    cases heq

end Base64

namespace Utf8

/-! ## UTF-8 -/

/-- The bytes with which the sequence of a number ends, `more` of them behind the next one. -/
def tailBytes (n : Nat) : (more : Nat) → Bytes
  | 0 => [continuation n]
  | more + 1 => continuation (n / 0x40 ^ (more + 1)) :: tailBytes n more

/-- A sequence that has begun goes on as that of a number: its bits are the upper ones of the
number, and the next byte is within the bounds. -/
structure Pending.Awaits (p : Pending) (n : Nat) : Prop where
  /-- The bits read so far are those that come before the bytes that are missing. -/
  bits : p.bits = n / 0x40 ^ (p.more + 1)
  /-- The next byte is not too small. -/
  low : p.low.toNat ≤ 0x80 + n / 0x40 ^ p.more % 0x40
  /-- It is not too great. -/
  high : 0x80 + n / 0x40 ^ p.more % 0x40 ≤ p.high.toNat

/-- A byte that continues a sequence adds six bits to it. -/
theorem decodeFrom_continuation (pos : Nat) {p : Pending} {n : Nat} (h : p.Awaits n)
    (rest : Bytes) :
    decodeFrom pos (some p) (continuation (n / 0x40 ^ p.more) :: rest) =
      match p.more with
      | 0 => (decodeFrom (pos + 1) none rest).map (Char.ofNat n :: ·)
      | more + 1 =>
        decodeFrom (pos + 1)
          (some ⟨p.start, p.first, more, 0x80, 0xBF, n / 0x40 ^ (more + 1)⟩) rest := by
  have hbyte : (continuation (n / 0x40 ^ p.more)).toNat = 0x80 + n / 0x40 ^ p.more % 0x40 := by
    rw [continuation, UInt8.toNat_ofNat']
    omega
  have hbits : p.bits * 0x40 + (continuation (n / 0x40 ^ p.more)).toNat % 0x40 =
      n / 0x40 ^ p.more := by
    rw [hbyte, h.bits, Nat.pow_succ, ← Nat.div_div_eq_div_mul]
    omega
  have hbounds : p.low ≤ continuation (n / 0x40 ^ p.more) ∧
      continuation (n / 0x40 ^ p.more) ≤ p.high := by
    rw [UInt8.le_iff_toNat_le, UInt8.le_iff_toNat_le, hbyte]
    exact ⟨h.low, h.high⟩
  rw [decodeFrom, if_pos hbounds, hbits]
  cases p.more with
  | zero => rw [Nat.pow_zero, Nat.div_one]
  | succ more => rfl

/-- The last bytes of a sequence are read, whatever follows. -/
theorem decodeFrom_tailBytes (pos : Nat) {p : Pending} {n more : Nat} (hmore : p.more = more)
    (h : p.Awaits n) (rest : Bytes) :
    decodeFrom pos (some p) (tailBytes n more ++ rest) =
      (decodeFrom (pos + (more + 1)) none rest).map (Char.ofNat n :: ·) := by
  have hread := decodeFrom_continuation pos h
  rw [hmore] at hread
  induction more generalizing pos p with
  | zero =>
    have hbyte := hread rest
    rw [Nat.pow_zero, Nat.div_one] at hbyte
    exact hbyte
  | succ more ih =>
    have hnext : Pending.Awaits ⟨p.start, p.first, more, 0x80, 0xBF, n / 0x40 ^ (more + 1)⟩ n :=
      ⟨rfl, Nat.le_add_right _ _, by simp only [UInt8.reduceToNat]; omega⟩
    rw [tailBytes, List.cons_append, hread]
    simp only
    rw [ih (pos + 1) rfl hnext (decodeFrom_continuation (pos + 1) hnext), Nat.add_assoc,
      Nat.add_comm 1]

theorem toNat_ofNat {n : Nat} (h : n < 0x100) : (UInt8.ofNat n).toNat = n := by
  rw [UInt8.toNat_ofNat']
  omega

/-- The first byte of two. -/
theorem lead_two {n : Nat} (hlow : 0x80 ≤ n) (hhigh : n < 0x800) (pos : Nat) :
    ∃ p : Pending, lead pos (UInt8.ofNat (0xC0 + n / 0x40)) = .opens p ∧ p.more = 0 ∧
      p.Awaits n := by
  have hbyte := toNat_ofNat (n := 0xC0 + n / 0x40) (by omega)
  simp only [lead, hbyte]
  rw [if_neg (by omega), if_neg (by omega), if_pos (by omega)]
  refine ⟨_, rfl, rfl, ⟨?_, ?_, ?_⟩⟩ <;> simp only [UInt8.reduceToNat] <;> omega

/-- The first byte of three, and what it lets the second one be. -/
theorem lead_three {n : Nat} (hlow : 0x800 ≤ n) (hhigh : n < 0x10000)
    (hscalar : n < 0xD800 ∨ 0xDFFF < n) (pos : Nat) :
    ∃ p : Pending, lead pos (UInt8.ofNat (0xE0 + n / 0x1000)) = .opens p ∧ p.more = 1 ∧
      p.Awaits n := by
  have hbyte := toNat_ofNat (n := 0xE0 + n / 0x1000) (by omega)
  simp only [lead, hbyte]
  rw [if_neg (by omega), if_neg (by omega), if_neg (by omega)]
  by_cases hfirst : n / 0x1000 = 0
  · rw [if_pos (by omega)]
    refine ⟨_, rfl, rfl, ⟨?_, ?_, ?_⟩⟩ <;> simp only [UInt8.reduceToNat] <;> omega
  rw [if_neg (by omega)]
  by_cases hsurrogate : n / 0x1000 = 0xD
  · rw [if_pos (by omega)]
    refine ⟨_, rfl, rfl, ⟨?_, ?_, ?_⟩⟩ <;> simp only [UInt8.reduceToNat] <;> omega
  · rw [if_neg (by omega), if_pos (by omega)]
    refine ⟨_, rfl, rfl, ⟨?_, ?_, ?_⟩⟩ <;> simp only [UInt8.reduceToNat] <;> omega

/-- The first byte of four. -/
theorem lead_four {n : Nat} (hlow : 0x10000 ≤ n) (hhigh : n < 0x110000) (pos : Nat) :
    ∃ p : Pending, lead pos (UInt8.ofNat (0xF0 + n / 0x40000)) = .opens p ∧ p.more = 2 ∧
      p.Awaits n := by
  have hbyte := toNat_ofNat (n := 0xF0 + n / 0x40000) (by omega)
  simp only [lead, hbyte]
  rw [if_neg (by omega), if_neg (by omega), if_neg (by omega), if_neg (by omega),
    if_neg (by omega), if_neg (by omega)]
  by_cases hfirst : n / 0x40000 = 0
  · rw [if_pos (by omega)]
    refine ⟨_, rfl, rfl, ⟨?_, ?_, ?_⟩⟩ <;> simp only [UInt8.reduceToNat] <;> omega
  rw [if_neg (by omega)]
  by_cases hlast : n / 0x40000 = 4
  · rw [if_neg (by omega), if_pos (by omega)]
    refine ⟨_, rfl, rfl, ⟨?_, ?_, ?_⟩⟩ <;> simp only [UInt8.reduceToNat] <;> omega
  · rw [if_pos (by omega)]
    refine ⟨_, rfl, rfl, ⟨?_, ?_, ?_⟩⟩ <;> simp only [UInt8.reduceToNat] <;> omega

/-- A sequence of several bytes is read, whatever follows. -/
theorem decodeFrom_sequence (pos : Nat) {b : UInt8} {p : Pending} {n more : Nat}
    (hlead : lead pos b = .opens p) (hmore : p.more = more) (h : p.Awaits n) (rest : Bytes) :
    decodeFrom pos none (b :: tailBytes n more ++ rest) =
      (decodeFrom (pos + (more + 2)) none rest).map (Char.ofNat n :: ·) := by
  rw [List.cons_append, decodeFrom, hlead]
  simp only
  rw [decodeFrom_tailBytes (pos + 1) hmore h, Nat.add_assoc, Nat.add_comm 1]

/-- A character that is written is read, whatever follows. -/
theorem decodeFrom_encodeChar (pos : Nat) (c : Char) (rest : Bytes) :
    decodeFrom pos none (encodeChar c ++ rest) =
      (decodeFrom (pos + (encodeChar c).length) none rest).map (c :: ·) := by
  have hvalid : c.toNat < 0xD800 ∨ (0xDFFF < c.toNat ∧ c.toNat < 0x110000) := c.valid
  have hchar : Char.ofNat c.toNat = c := Char.ofNat_toNat c
  rw [encodeChar]
  generalize c.toNat = n at hvalid hchar
  subst hchar
  split
  · rename_i hone
    have hlead : lead pos (UInt8.ofNat n) = .whole (Char.ofNat n) := by
      simp only [lead, toNat_ofNat (n := n) (by omega), if_pos hone]
    rw [List.singleton_append, decodeFrom, hlead]
    rfl
  · split
    · obtain ⟨p, hlead, hmore, h⟩ := lead_two (n := n) (by omega) (by omega) pos
      exact decodeFrom_sequence pos hlead hmore h rest
    · split
      · obtain ⟨p, hlead, hmore, h⟩ := lead_three (n := n) (by omega) (by omega) (by omega) pos
        exact decodeFrom_sequence pos hlead hmore h rest
      · obtain ⟨p, hlead, hmore, h⟩ := lead_four (n := n) (by omega) (by omega) pos
        exact decodeFrom_sequence pos hlead hmore h rest

theorem decodeFrom_encode (pos : Nat) (t : Text) : decodeFrom pos none (encode t) = .ok t := by
  induction t generalizing pos with
  | nil => rfl
  | cons c t ih =>
    rw [encode, List.flatMap_cons, decodeFrom_encodeChar]
    exact (congrArg (Except.map (c :: ·)) (ih _)).trans rfl

/-- **UTF-8 reads back.** -/
theorem decode_encode (t : Text) : decode (encode t) = .ok t := decodeFrom_encode 0 t

/-- Only widened texts are encoded. -/
theorem eq_widen_of_encodeWide {t : WideText} {bytes : Bytes} (h : encodeWide t = .ok bytes) :
    ∃ s, t = Text.widen s := by
  have hnarrow : ∀ pos, firstFault pos t = none → ∃ s, t.narrow? = some s := by
    clear h
    induction t with
    | nil => exact fun _ _ => ⟨[], rfl⟩
    | cons p t ih =>
      intro pos hpos
      cases p with
      | surrogate half => cases hpos
      | scalar c =>
        obtain ⟨s, hs⟩ := ih (pos + 1) hpos
        exact ⟨c :: s, by rw [WideText.narrow?, hs]; rfl⟩
  cases hfault : firstFault 0 t with
  | some fault =>
    rw [encodeWide, hfault] at h
    cases h
  | none =>
    obtain ⟨s, hs⟩ := hnarrow 0 hfault
    exact ⟨s, WideText.eq_widen_of_narrow? hs⟩

end Utf8

theorem eq_ok_of_toOption {ε α : Type} {x : Except ε α} {a : α} (h : x.toOption = some a) :
    x = .ok a := by
  cases x with
  | error e => cases h
  | ok b => rw [Option.some.inj h]

namespace Payload

/-! ## Payloads -/

/-- A payload has no blanks. -/
theorem removeBlanks_encodeText (t : Text) :
    WideText.removeBlanks (encodeText t) = encodeText t := by
  refine List.filter_eq_self.2 fun p hp => ?_
  obtain ⟨c, hc, rfl⟩ := List.mem_map.1 hp
  have := (Base64.forall_mem_encode _ c hc).2
  simp [CodePoint.isBlank, this]

/-- **A payload reads back as its text**, with any blanks put into it. -/
theorem decode_of_removeBlanks {payload : WideText} {t : Text}
    (h : payload.removeBlanks = encodeText t) : decode payload = .ok t := by
  rw [decode, h, encodeText, Base64.decode_encode]
  simp only [Utf8.decode_encode]

theorem decode_encodeText (t : Text) : decode (encodeText t) = .ok t :=
  decode_of_removeBlanks (removeBlanks_encodeText t)

/-- **A payload may be wrapped.**  Every text comes back from its payload, whatever blanks were put
into it, wherever and however many, so different texts have different payloads. -/
theorem decode_wrapped :
    (∀ (t : Text) (payload : WideText),
        payload.removeBlanks = encodeText t → decode payload = .ok t) ∧
      Function.Injective encodeText := by
  refine ⟨fun t payload h => decode_of_removeBlanks h, fun t u h => ?_⟩
  have hread : (.ok t : Except Fault Text) = .ok u := by
    rw [← decode_encodeText t, h, decode_encodeText u]
  exact Except.ok.inj hread

/-- Characters of one to four bytes, with blanks inside the groups of the payload, two of which
share a character, and inside its padding. -/
theorem decode_wrapped_brokenPayload :
    WideText.removeBlanks (wide "\n Q cO\r\np4\u3000oKs8J+Y\tgA=\u2028=\n") =
        encodeText (text "Aé€😀") ∧
      decode (wide "\n Q cO\r\np4\u3000oKs8J+Y\tgA=\u2028=\n") = .ok (text "Aé€😀") ∧
      encodeText (text "Aé€😀") ≠ encodeText (text "Aé€") := by
  have hblanks : WideText.removeBlanks (wide "\n Q cO\r\np4\u3000oKs8J+Y\tgA=\u2028=\n") =
      encodeText (text "Aé€😀") := by decide
  exact ⟨hblanks, decode_wrapped.1 _ _ hblanks,
    fun h => absurd (decode_wrapped.2 h) (by decide)⟩

/-- Only the empty text has an empty payload. -/
theorem encodeText_eq_nil_iff {t : Text} : encodeText t = [] ↔ t = [] := by
  constructor
  · intro h
    have := decode_encodeText t
    rw [h] at this
    exact (Except.ok.inj this).symm
  · rintro rfl
    rfl

/-- Only the payload of a text is given to a wide text. -/
theorem exists_of_encodeWide {t payload : WideText} (h : encodeWide t = .ok payload) :
    ∃ s, t = Text.widen s ∧ payload = encodeText s := by
  cases hbytes : Utf8.encodeWide t with
  | error fault =>
    rw [encodeWide, hbytes] at h
    cases h
  | ok bytes =>
    obtain ⟨s, rfl⟩ := Utf8.eq_widen_of_encodeWide hbytes
    rw [encodeWide_widen] at h
    exact ⟨s, rfl, (Except.ok.inj h).symm⟩

/-! ## JSON -/

theorem readObject_eq_ok_iff {t : Text} {fields : Fields} :
    readObject t = .ok fields ↔ Json.read t = .ok (.object fields) := by
  rw [readObject.eq_def]
  constructor
  · intro h
    split at h
    · cases h
    · rename_i hread
      cases h
      exact hread
    · cases h
  · intro h
    rw [h]

/-- **The payload of a tidy value reads back as that value.** -/
theorem exists_of_encodeJson {good : WideText → Prop} {v : Json} (hv : v.Tidy good)
    {payload : WideText} (h : encodeJson v = .ok payload) :
    ∃ t, payload = encodeText t ∧ Json.read t = .ok v := by
  obtain ⟨t, ht, rfl⟩ := exists_of_encodeWide (encodeJson_eq_ok_iff.1 h).2
  exact ⟨t, rfl, Json.read_print (Json.Layout.document_isReadable good) hv ht⟩

end Payload

/-! ## What can be encoded -/

namespace Json

/-- A wide text without halves of surrogate pairs. -/
def IsText (w : WideText) : Prop := ∃ t : Text, w = Text.widen t

theorem isText_widen (t : Text) : IsText (Text.widen t) := ⟨t, rfl⟩

theorem isText_wide (s : String) : IsText (wide s) := ⟨_, rfl⟩

theorem isText_of_map_widen {t : Option Text} {w : WideText} (h : t.map Text.widen = some w) :
    IsText w := by
  obtain ⟨u, -, rfl⟩ := Option.map_eq_some_iff.1 h
  exact isText_widen u

theorem IsText.append {v w : WideText} (hv : IsText v) (hw : IsText w) : IsText (v ++ w) := by
  obtain ⟨s, rfl⟩ := hv
  obtain ⟨t, rfl⟩ := hw
  exact ⟨s ++ t, (Text.widen_append s t).symm⟩

theorem isText_lineStart (l : Layout) (level : Nat) : IsText (l.lineStart level) := by
  rw [Layout.lineStart]
  split
  · exact ⟨_, rfl⟩
  · exact ⟨[], rfl⟩

theorem isText_printString (asciiOnly : Bool) {s : WideText} (hs : IsText s) :
    IsText (printString asciiOnly s) := by
  obtain ⟨t, rfl⟩ := hs
  have hescaped : IsText ((Text.widen t).flatMap (escapePoint asciiOnly)) := by
    induction t with
    | nil => exact ⟨[], rfl⟩
    | cons c t ih => exact (isText_widen (escapeChar asciiOnly c)).append ih
  exact ((isText_wide _).append hescaped).append (isText_wide _)

theorem isText_printItems {l : Layout} {level : Nat} {items : List Json}
    (h : ∀ v ∈ items, IsText (printAt l level v)) : IsText (printItems l level items) := by
  induction items with
  | nil => exact ⟨[], rfl⟩
  | cons item rest ih =>
    obtain ⟨hitem, hrest⟩ := List.forall_mem_cons.1 h
    exact (((isText_wide _).append (isText_lineStart l level)).append hitem).append (ih hrest)

theorem isText_printFields {l : Layout} {level : Nat} {fields : Fields}
    (hkeys : ∀ f ∈ fields, IsText f.1) (h : ∀ f ∈ fields, IsText (printAt l level f.2)) :
    IsText (printFields l level fields) := by
  induction fields with
  | nil => exact ⟨[], rfl⟩
  | cons f rest ih =>
    obtain ⟨hkey, hkeys⟩ := List.forall_mem_cons.1 hkeys
    obtain ⟨hvalue, hrest⟩ := List.forall_mem_cons.1 h
    exact (((((isText_wide _).append (isText_lineStart l level)).append
      (isText_printString _ hkey)).append (isText_wide _)).append hvalue).append (ih hkeys hrest)

/-- A value whose strings are texts is printed as a text. -/
theorem isText_printAt {l : Layout} {v : Json} (hv : v.Tidy IsText) :
    ∀ level, IsText (printAt l level v) := by
  induction hv with
  | null => exact fun _ => isText_wide _
  | bool b => cases b <;> exact fun _ => isText_wide _
  | int _ => exact fun _ => ⟨_, rfl⟩
  | float x => exact fun _ => ⟨_, rfl⟩
  | string hs => exact fun _ => isText_printString _ hs
  | @array items _ ih =>
    intro level
    cases items with
    | nil => exact isText_wide _
    | cons item rest =>
      obtain ⟨hitem, hrest⟩ := List.forall_mem_cons.1 ih
      exact (((((isText_wide _).append (isText_lineStart l _)).append (hitem _)).append
        (isText_printItems fun v hv => hrest v hv _)).append (isText_lineStart l _)).append
        (isText_wide _)
  | @object fields _ hkeys _ ih =>
    intro level
    cases fields with
    | nil => exact isText_wide _
    | cons f rest =>
      obtain ⟨hkey, hkeys⟩ := List.forall_mem_cons.1 hkeys
      obtain ⟨hvalue, hrest⟩ := List.forall_mem_cons.1 ih
      exact (((((((isText_wide _).append (isText_lineStart l _)).append
        (isText_printString _ hkey)).append (isText_wide _)).append (hvalue _)).append
        (isText_printFields hkeys fun f hf => hrest f hf _)).append (isText_lineStart l _)).append
        (isText_wide _)

end Json

namespace Payload

/-- **A value whose strings are texts can be encoded.** -/
theorem exists_encodeJson {v : Json} (hv : v.Tidy Json.IsText) :
    ∃ payload, encodeJson v = .ok payload := by
  obtain ⟨t, ht⟩ : Json.IsText (v.print .document) := Json.isText_printAt hv 0
  exact ⟨encodeText t, encodeJson_eq_ok_iff.2 ⟨hv.isWritable, ht ▸ encodeWide_widen t⟩⟩

end Payload

end Dataflow
