import Dataflow.Proofs.Fields
import Dataflow.Proofs.Numeral
import Mathlib.Data.List.Chain

/-!
# JSON values read back

What the printer writes is read again by the reader, in every layout whose separators are a comma
and a colon with space behind them, `Layout.IsReadable`.  Two things of a value are lost otherwise:
an object has each of its names once when it is read, and an integer has no more digits than are
read.  Values with both properties are `Tidy`; all values that are read have them, and `read_print`
says that all that have them read back.

A surrogate half is written by number, or not at all.  A high half in front of a low half would read
back as one character, so strings with such halves do not read back; strings that are read never
have them (`IsJoined`).
-/

set_option autoImplicit false

namespace Dataflow

/-! ## Pieces of a widened text -/

/-- A widened text that is put together falls into widened texts. -/
theorem Text.exists_of_append_eq_widen {a b : WideText} {t : Text} (h : a ++ b = Text.widen t) :
    ∃ s u, t = s ++ u ∧ a = Text.widen s ∧ b = Text.widen u := by
  obtain ⟨s, u, ht, hs, hu⟩ := List.map_eq_append_iff.1 h.symm
  exact ⟨s, u, ht, hs.symm, hu.symm⟩

theorem Text.exists_of_widen_append {s : Text} {b : WideText} {t : Text}
    (h : Text.widen s ++ b = Text.widen t) : ∃ u, t = s ++ u ∧ b = Text.widen u := by
  obtain ⟨s', u, ht, hs, hu⟩ := exists_of_append_eq_widen h
  exact ⟨u, Text.widen_injective hs ▸ ht, hu⟩

namespace Json

/-! ## Escapes -/

theorem hexValue?_hexDigit : ∀ n : Fin 16, hexValue? (hexDigit n) = some n.val := by
  decide

/-- The four digits of an escape denote its number. -/
theorem hexValue4?_hexadecimal {n : Nat} (hn : n < 0x10000) :
    ∃ a b c d, hexadecimal 4 n = [a, b, c, d] ∧ hexValue4? a b c d = some n := by
  have hdigit : ∀ m, hexValue? (hexDigit (m % 16)) = some (m % 16) :=
    fun m => hexValue?_hexDigit ⟨m % 16, Nat.mod_lt _ (by decide)⟩
  refine ⟨_, _, _, _, rfl, ?_⟩
  simp only [hexValue4?, hdigit, Option.bind_eq_bind, Option.bind_some, Option.pure_def,
    Option.some.injEq]
  omega

section

variable {opened : Nat} {t after : Text} {s : WideText}
  (h : readString opened t = .ok (s, after))
include h

theorem ne_nil_of_readString : t ≠ [] := by
  rintro rfl
  cases h

/-- A character that stands for itself. -/
theorem readString_plain {c : Char} (hquote : c ≠ '"') (hescape : c ≠ '\\')
    (hcontrol : ¬c.toNat < 0x20) :
    readString opened (c :: t) = .ok (.scalar c :: s, after) := by
  rw [readString, if_neg hcontrol, h]
  · exact fun hc => hquote hc
  · exact fun hc _ => hescape hc
  · exact fun _ _ _ _ _ hc _ => hescape hc
  · exact fun _ hc _ => hescape hc
  · exact fun _ _ hc _ => hescape hc

/-- An escape of one letter. -/
theorem readString_letter {c x : Char} (hc : letterEscape? c = some x) :
    readString opened ('\\' :: c :: t) = .ok (.scalar x :: s, after) := by
  have hu : c ≠ 'u' := by
    rintro rfl
    cases hc
  rw [readString, hc, h]
  · exact fun _ _ _ _ _ hc _ => hu hc
  · exact fun hc => hu hc

/-- An escape by number. -/
theorem readString_numberEscape {n : Nat} (hn : n < 0x10000) :
    readString opened (numberEscape n ++ t) = .ok (joinHalf (ofEscape n) s, after) := by
  obtain ⟨a, b, c, d, hdigits, hvalue⟩ := hexValue4?_hexadecimal hn
  obtain ⟨x, t, rfl⟩ := List.exists_cons_of_ne_nil (ne_nil_of_readString h)
  rw [numberEscape, hdigits]
  simp only [List.cons_append, List.nil_append]
  rw [readString]
  case heq => exact hvalue
  rw [h]

end

/-! ## Strings -/

theorem ofEscape_char {c : Char} (hc : c.toNat < 0x10000) : ofEscape c.toNat = .scalar c := by
  have hvalid : c.toNat < 0xD800 ∨ (0xDFFF < c.toNat ∧ c.toNat < 0x110000) := c.valid
  rw [ofEscape, CodePoint.ofNat?, dif_neg (by omega), if_pos (by omega), Option.getD_some,
    Char.ofNat_toNat]

theorem ofEscape_half (half : Fin 0x800) : ofEscape (0xD800 + half) = .surrogate half := by
  have hhalf := half.isLt
  rw [ofEscape, CodePoint.ofNat?, dif_pos (by omega), Option.getD_some]
  simp

/-- Only a high half waits for another one. -/
theorem joinHalf_low {half : Fin 0x800} (h : 0x400 ≤ half.val) (s : WideText) :
    joinHalf (.surrogate half) s = .surrogate half :: s := by
  cases s with
  | nil => rfl
  | cons p s =>
    cases p with
    | scalar c => rfl
    | surrogate low =>
      rw [joinHalf, if_neg]
      rintro ⟨hhigh, -⟩
      omega

/-- The two halves of a character beyond the first plane become that character. -/
theorem joinHalf_pair {c : Char} (hc : 0x10000 ≤ c.toNat) (s : WideText) :
    joinHalf (ofEscape (0xD800 + (c.toNat - 0x10000) / 0x400))
        (joinHalf (ofEscape (0xDC00 + (c.toNat - 0x10000) % 0x400)) s) = .scalar c :: s := by
  have hvalid : c.toNat < 0xD800 ∨ (0xDFFF < c.toNat ∧ c.toNat < 0x110000) := c.valid
  obtain ⟨high, hhigh⟩ : ∃ half : Fin 0x800, half.val = (c.toNat - 0x10000) / 0x400 :=
    ⟨⟨_, by omega⟩, rfl⟩
  obtain ⟨low, hlow⟩ : ∃ half : Fin 0x800, half.val = 0x400 + (c.toNat - 0x10000) % 0x400 :=
    ⟨⟨_, by omega⟩, rfl⟩
  have hfirst : 0xD800 + (c.toNat - 0x10000) / 0x400 = 0xD800 + high := by omega
  have hsecond : 0xDC00 + (c.toNat - 0x10000) % 0x400 = 0xD800 + low := by omega
  have hchar : 0x10000 + high.val * 0x400 + (low.val - 0x400) = c.toNat := by omega
  have hkeep : 0x400 ≤ low.val := by omega
  rw [hfirst, hsecond, ofEscape_half, ofEscape_half, joinHalf_low hkeep, joinHalf,
    if_pos ⟨by omega, hkeep⟩, hchar, Char.ofNat_toNat]

/-- A character that is written is read. -/
theorem readString_escapeChar (asciiOnly : Bool) (c : Char) {opened : Nat} {t after : Text}
    {s : WideText} (h : readString opened t = .ok (s, after)) :
    readString opened (escapeChar asciiOnly c ++ t) = .ok (.scalar c :: s, after) := by
  rw [escapeChar]
  by_cases hletter : c = '"' ∨ c = '\\' ∨ c = '\n' ∨ c = '\r' ∨ c = '\t' ∨ c = '\x08' ∨ c = '\x0c'
  · rcases hletter with rfl | rfl | rfl | rfl | rfl | rfl | rfl <;> exact readString_letter h rfl
  · simp only [not_or] at hletter
    obtain ⟨hquote, hescape, hn, hr, ht, hb, hf⟩ := hletter
    rw [if_neg hquote, if_neg hescape, if_neg hn, if_neg hr, if_neg ht, if_neg hb, if_neg hf]
    by_cases hcontrol : c.toNat < 0x20
    · have hread := readString_numberEscape h (show c.toNat < 0x10000 by omega)
      rw [ofEscape_char (by omega)] at hread
      simp only [if_pos hcontrol]
      exact hread
    · simp only [if_neg hcontrol]
      by_cases hascii : asciiOnly = true ∧ 0x7F ≤ c.toNat
      · rw [if_pos hascii]
        by_cases hplane : c.toNat < 0x10000
        · have hread := readString_numberEscape h hplane
          rw [ofEscape_char hplane] at hread
          rw [if_pos hplane]
          exact hread
        · have hvalid : c.toNat < 0xD800 ∨ (0xDFFF < c.toNat ∧ c.toNat < 0x110000) := c.valid
          have hlow := readString_numberEscape (n := 0xDC00 + (c.toNat - 0x10000) % 0x400) h
            (by omega)
          have hhigh := readString_numberEscape (n := 0xD800 + (c.toNat - 0x10000) / 0x400) hlow
            (by omega)
          rw [joinHalf_pair (Nat.le_of_not_lt hplane)] at hhigh
          rw [if_neg hplane, List.append_assoc]
          exact hhigh
      · rw [if_neg hascii]
        exact readString_plain h hquote hescape hcontrol

/-- The string that is read when these code points are written. -/
def joined (s : WideText) : WideText := s.foldr joinHalf []

/-- A string without a high half in front of a low half. -/
def IsJoined (s : WideText) : Prop := joined s = s

/-- A high half and a low half of a surrogate pair. -/
def IsPair : CodePoint → CodePoint → Prop
  | .surrogate high, .surrogate low => high.val < 0x400 ∧ 0x400 ≤ low.val
  | _, _ => False

/-- A half that is written in front of a string stays what it is unless the string begins with the
other half of a pair. -/
theorem joinHalf_eq_cons_iff {p : CodePoint} {s t : WideText} :
    joinHalf p s = p :: t ↔ s = t ∧ ∀ q ∈ s.head?, ¬IsPair p q := by
  rcases p with c | high
  · simp [joinHalf, IsPair]
  · rcases s with _ | ⟨c | low, s⟩
    · simp [joinHalf]
    · simp [joinHalf, IsPair]
    · by_cases hpair : high.val < 0x400 ∧ 0x400 ≤ low.val <;> simp [joinHalf, IsPair, hpair]

/-- Strings that are joined are those in which no two neighbours make a pair. -/
theorem isJoined_iff_isChain {s : WideText} : IsJoined s ↔ s.IsChain fun p q => ¬IsPair p q := by
  induction s with
  | nil => exact iff_of_true rfl .nil
  | cons p s ih =>
    rw [List.isChain_cons, ← ih, IsJoined, IsJoined]
    refine joinHalf_eq_cons_iff.trans ⟨fun ⟨hs, hp⟩ => ⟨?_, hs⟩, fun ⟨hp, hs⟩ => ⟨hs, ?_⟩⟩
    · rwa [show s.foldr joinHalf [] = s from hs] at hp
    · rwa [show s.foldr joinHalf [] = s from hs]

/-- **What is read is what was written**, halves that meet being joined. -/
theorem readString_escaped {asciiOnly : Bool} (opened : Nat) (rest : Text) {s : WideText}
    {e : Text} (he : s.flatMap (escapePoint asciiOnly) = Text.widen e) :
    readString opened (e ++ '"' :: rest) = .ok (joined s, rest) := by
  induction s generalizing e with
  | nil =>
    obtain rfl : e = [] := List.map_eq_nil_iff.1 he.symm
    rfl
  | cons p s ih =>
    rw [List.flatMap_cons] at he
    obtain ⟨first, more, rfl, hfirst, hmore⟩ := Text.exists_of_append_eq_widen he
    have hread := ih hmore
    rw [List.append_assoc]
    cases p with
    | scalar c =>
      rw [← Text.widen_injective hfirst]
      exact readString_escapeChar asciiOnly c hread
    | surrogate half =>
      cases asciiOnly with
      | true =>
        have hhalf := half.isLt
        have hescape := readString_numberEscape (n := 0xD800 + half) hread (by omega)
        rw [ofEscape_half] at hescape
        rw [← Text.widen_injective hfirst]
        exact hescape
      | false =>
        have hnone := congrArg WideText.narrow? hfirst
        rw [WideText.narrow?_widen] at hnone
        cases hnone

/-- A string that is written without numbers for characters beyond ASCII holds no halves. -/
theorem isJoined_of_escaped {s : WideText} {e : Text}
    (he : s.flatMap (escapePoint false) = Text.widen e) : IsJoined s := by
  induction s generalizing e with
  | nil => rfl
  | cons p s ih =>
    rw [List.flatMap_cons] at he
    obtain ⟨first, more, rfl, hfirst, hmore⟩ := Text.exists_of_append_eq_widen he
    cases p with
    | scalar c => exact congrArg (CodePoint.scalar c :: ·) (ih hmore)
    | surrogate half =>
      have hnone := congrArg WideText.narrow? hfirst
      rw [WideText.narrow?_widen] at hnone
      cases hnone

/-- A string that is read goes on being joined. -/
theorem isJoined_joinHalf {s : WideText} (hs : IsJoined s) (p : CodePoint) :
    IsJoined (joinHalf p s) := by
  have hkeep : joinHalf p s = p :: s → IsJoined (joinHalf p s) := by
    intro heq
    rw [heq]
    have hcons : joined (p :: s) = joinHalf p (joined s) := rfl
    rw [IsJoined, hcons, show joined s = s from hs, heq]
  cases p with
  | scalar c => exact hkeep rfl
  | surrogate high =>
    cases s with
    | nil => exact hkeep rfl
    | cons q s =>
      cases q with
      | scalar c => exact hkeep rfl
      | surrogate low =>
        by_cases hpair : high.val < 0x400 ∧ 0x400 ≤ low.val
        · rw [joinHalf, if_pos hpair]
          have htail : joinHalf (.surrogate low) (joined s) = .surrogate low :: s := hs
          rw [joinHalf_low hpair.2] at htail
          exact congrArg (List.cons _) (List.cons.inj htail).2
        · exact hkeep (if_neg hpair)

theorem isJoined_of_readString {opened : Nat} {t after : Text} {s : WideText}
    (h : readString opened t = .ok (s, after)) : IsJoined s := by
  fun_induction readString opened t generalizing s after with
  | case2 =>
    cases h
    rfl
  | case4 _ _ _ _ n _ _ _ _ _ hread ih =>
    rw [hread] at h
    cases h
    exact isJoined_joinHalf (ih hread) (ofEscape n)
  | case5 _ _ _ _ _ _ _ _ _ hread =>
    rw [hread] at h
    cases h
  | case8 _ _ _ _ x _ _ _ hread ih =>
    cases h
    exact isJoined_joinHalf (ih hread) (.scalar x)
  | case12 c _ _ _ _ _ _ _ _ _ hread ih =>
    cases h
    exact isJoined_joinHalf (ih hread) (.scalar c)
  | _ => cases h

/-! ## Space -/

/-- A text of space only. -/
def AllSpace (t : Text) : Prop := ∀ c ∈ t, isSpace c = true

theorem skipSpace_append {s : Text} (hs : AllSpace s) (t : Text) :
    skipSpace (s ++ t) = skipSpace t := List.dropWhile_append_of_pos hs

theorem skipSpace_cons {c : Char} (hc : isSpace c = false) (t : Text) :
    skipSpace (c :: t) = c :: t := List.dropWhile_cons_of_neg (by simp [hc])

/-- A new line is space. -/
theorem Layout.exists_lineStart (l : Layout) (level : Nat) :
    ∃ s, l.lineStart level = Text.widen s ∧ AllSpace s := by
  obtain ⟨indent, comma, colon, asciiOnly⟩ := l
  cases indent with
  | none => exact ⟨[], rfl, fun c hc => absurd hc List.not_mem_nil⟩
  | some n =>
    refine ⟨_, rfl, fun c hc => ?_⟩
    rcases List.mem_cons.1 hc with rfl | hc
    · rfl
    · rw [List.eq_of_mem_replicate hc]
      rfl

/-- What ends a number: nothing, or a sign of the structure or space. -/
theorem endsNumber_cons {c : Char} (hc : c ∈ [',', ']', '}', ' ', '\n', '\r', '\t'])
    (t : Text) : EndsNumber (c :: t) := by
  simp only [List.mem_cons, List.not_mem_nil, or_false] at hc
  rcases hc with rfl | rfl | rfl | rfl | rfl | rfl | rfl <;>
    exact ⟨endsDigits_cons _ rfl, by simp, by simp⟩

theorem endsNumber_nil : EndsNumber [] := ⟨fun _ hc => absurd hc (by simp), by simp, by simp⟩

theorem skipSpace_space {s : Text} (hs : AllSpace s) : skipSpace s = [] := by
  have hskip := skipSpace_append hs []
  rwa [List.append_nil] at hskip

theorem endsNumber_space_cons {c : Char} (hc : isSpace c = true) (t : Text) :
    EndsNumber (c :: t) := by
  refine endsNumber_cons ?_ t
  simp only [isSpace, Bool.or_eq_true, beq_iff_eq] at hc
  rcases hc with ((rfl | rfl) | rfl) | rfl <;> simp

/-- Space ends a number. -/
theorem endsNumber_space {s : Text} (hs : AllSpace s) : EndsNumber s := by
  cases s with
  | nil => exact endsNumber_nil
  | cons c s => exact endsNumber_space_cons (hs c (by simp)) s

/-- Space in front of a closing bracket ends a number. -/
theorem endsNumber_space_append {s : Text} (hs : AllSpace s) {c : Char} (hc : c = ']' ∨ c = '}')
    (t : Text) : EndsNumber (s ++ c :: t) := by
  cases s with
  | nil => rcases hc with rfl | rfl <;> exact endsNumber_cons (by simp) t
  | cons d s => exact endsNumber_space_cons (hs d (by simp)) _

/-! ## Values that read back -/

/-- A value that reads back: each object has each name once, integers are not too long, and the
strings are good ones. -/
inductive Tidy (good : WideText → Prop) : Json → Prop where
  | null : Tidy good .null
  | bool (b : Bool) : Tidy good (.bool b)
  | int {n : Int} (h : (decimal n.natAbs).length ≤ digitLimit) : Tidy good (.int n)
  | float (x : Double) : Tidy good (.float x)
  | string {s : WideText} (h : good s) : Tidy good (.string s)
  | array {items : List Json} (h : ∀ v ∈ items, Tidy good v) : Tidy good (.array items)
  | object {fields : Fields} (hkeys : fields.keys.Nodup) (hgood : ∀ f ∈ fields, good f.1)
      (h : ∀ f ∈ fields, Tidy good f.2) : Tidy good (.object fields)

/-- Inside a definition every string is good. -/
def AnyText (_ : WideText) : Prop := True

namespace Tidy

variable {good good' : WideText → Prop} {fields : Fields} {key : WideText} {value : Json}

theorem mono (h : ∀ s, good s → good' s) (hv : value.Tidy good) : value.Tidy good' := by
  induction hv with
  | null => exact .null
  | bool b => exact .bool b
  | int hn => exact .int hn
  | float x => exact .float x
  | string hs => exact .string (h _ hs)
  | array _ ih => exact .array ih
  | object hkeys hgood _ ih => exact .object hkeys (fun f hf => h _ (hgood f hf)) ih

/-- A tidy value can be written. -/
theorem isWritable (hv : value.Tidy good) : value.isWritable = true := by
  induction hv with
  | null | bool _ | float _ | string _ => rfl
  | int hn => exact decide_eq_true hn
  | array _ ih => exact areWritable_iff.2 ih
  | object _ _ _ ih => exact fieldsWritable_iff.2 ih

/-- The names of a tidy object are good, and its values are tidy. -/
theorem of_mem (h : (Json.object fields).Tidy good) {f : WideText × Json} (hf : f ∈ fields) :
    good f.1 ∧ f.2.Tidy good := by
  cases h with
  | object _ hgood hvalues => exact ⟨hgood f hf, hvalues f hf⟩

theorem of_get? (h : (Json.object fields).Tidy good) (hget : Fields.get? fields key = some value) :
    value.Tidy good :=
  (h.of_mem (Fields.mem_of_get? hget)).2

/-- A tidy object stays tidy when a field is set. -/
theorem set (h : (Json.object fields).Tidy good) (hkey : good key) (hvalue : value.Tidy good) :
    (Json.object (Fields.set fields key value)).Tidy good := by
  cases h with
  | object hkeys hgood hvalues =>
    refine .object (Fields.nodup_keys_set hkeys key value) (fun f hf => ?_) fun f hf => ?_
    · rcases Fields.mem_of_mem_set hf with hf | rfl
      · exact hgood f hf
      · exact hkey
    · rcases Fields.mem_of_mem_set hf with hf | rfl
      · exact hvalues f hf
      · exact hvalue

theorem setIfMissing (h : (Json.object fields).Tidy good) (hkey : good key)
    (hvalue : value.Tidy good) :
    (Json.object (Fields.setIfMissing fields key value)).Tidy good := by
  rcases Fields.setIfMissing_cases fields key value with ⟨-, heq⟩ | ⟨-, heq⟩
  · rwa [heq]
  · rw [heq]
    exact h.set hkey hvalue

theorem setAll {new : Fields} (h : (Json.object fields).Tidy good)
    (hnew : ∀ f ∈ new, good f.1 ∧ f.2.Tidy good) :
    (Json.object (Fields.setAll fields new)).Tidy good := by
  induction new generalizing fields with
  | nil => exact h
  | cons f new ih =>
    obtain ⟨hf, hnew⟩ := List.forall_mem_cons.1 hnew
    exact ih (h.set hf.1 hf.2) hnew

theorem emptyObject : (Json.object []).Tidy good :=
  .object List.nodup_nil (fun _ hf => absurd hf List.not_mem_nil)
    fun _ hf => absurd hf List.not_mem_nil

/-- Fields with good names and tidy values make a tidy object, whatever names are repeated. -/
theorem ofPairs {pairs : Fields} (h : ∀ f ∈ pairs, good f.1 ∧ f.2.Tidy good) :
    (Json.object (Fields.ofPairs pairs)).Tidy good := emptyObject.setAll h

end Tidy

/-- A value in whose objects no name stands twice, as in all that are made by setting fields. -/
inductive NamesOnce : Json → Prop where
  | null : NamesOnce .null
  | bool (b : Bool) : NamesOnce (.bool b)
  | int (n : Int) : NamesOnce (.int n)
  | float (x : Double) : NamesOnce (.float x)
  | string (s : WideText) : NamesOnce (.string s)
  | array {items : List Json} (h : ∀ v ∈ items, NamesOnce v) : NamesOnce (.array items)
  | object {fields : Fields} (hkeys : fields.keys.Nodup) (h : ∀ f ∈ fields, NamesOnce f.2) :
      NamesOnce (.object fields)

/-- Such a value is tidy when it can be written. -/
theorem NamesOnce.tidy {value : Json} (h : value.NamesOnce) (hw : value.isWritable = true) :
    value.Tidy AnyText := by
  induction h with
  | null => exact .null
  | bool b => exact .bool b
  | int n => exact .int (of_decide_eq_true hw)
  | float x => exact .float x
  | string s => exact .string trivial
  | array _ ih =>
    have hitems := areWritable_iff.1 hw
    exact .array fun v hv => ih v hv (hitems v hv)
  | object hkeys _ ih =>
    have hfields := fieldsWritable_iff.1 hw
    exact .object hkeys (fun _ _ => trivial) fun f hf => ih f hf (hfields f hf)

/-- What stands in an object that can be written can be written. -/
theorem isWritable_of_get? {fields : Fields} {key : WideText} {value : Json}
    (h : (Json.object fields).isWritable = true) (hget : Fields.get? fields key = some value) :
    value.isWritable = true :=
  fieldsWritable_iff.1 h (key, value) (Fields.mem_of_get? hget)

/-- A layout in which the structure is read as it is written, and good strings are. -/
structure Layout.IsReadable (l : Layout) (good : WideText → Prop) : Prop where
  /-- Items are parted by a comma. -/
  comma : ∃ s, wide l.comma = Text.widen (',' :: s) ∧ AllSpace s
  /-- A name is parted from its value by a colon. -/
  colon : ∃ s, wide l.colon = Text.widen (':' :: s) ∧ AllSpace s
  /-- Good strings that are written are joined. -/
  joined : ∀ s e, good s → s.flatMap (escapePoint l.asciiOnly) = Text.widen e → IsJoined s

/-- Inside a definition all strings are good. -/
theorem Layout.document_isReadable (good : WideText → Prop) : document.IsReadable good where
  comma := ⟨[], rfl, fun c hc => absurd hc List.not_mem_nil⟩
  colon := ⟨[' '], rfl, by simp [AllSpace, isSpace]⟩
  joined _ _ _ he := isJoined_of_escaped he

section

variable {strings : Nat → Text → Except Halt (WideText × Text)}

/-- Where a word or a number is read, it is read as a value. -/
theorem readValue_of_readScalar {t : Text} {r : Json × Text} (h : readScalar t = .ok r)
    (fuel : Nat) : readValue strings (fuel + 1) t = .ok r := by
  rw [readValue, h] <;> (rintro rest rfl; cases h)

/-- No value begins with space, a closing bracket or a byte order mark. -/
theorem head_of_readValue {fuel : Nat} {t : Text} {r : Json × Text}
    (h : readValue strings fuel t = .ok r) :
    ∃ c s, t = c :: s ∧ isSpace c = false ∧ c ≠ ']' ∧ c ≠ '\uFEFF' := by
  cases fuel with
  | zero => cases h
  | succ fuel =>
    cases t with
    | nil => cases h
    | cons c s =>
      refine ⟨c, s, rfl, ?_, ?_, ?_⟩
      · rw [Bool.eq_false_iff]
        intro hc
        simp only [isSpace, Bool.or_eq_true, beq_iff_eq] at hc
        rcases hc with ((rfl | rfl) | rfl) | rfl <;> cases h
      · rintro rfl
        cases h
      · rintro rfl
        cases h

theorem head_of_readItems {fuel : Nat} {t : Text} {r : List Json × Text}
    (h : readItems strings fuel t = .ok r) : ∃ c s, t = c :: s ∧ isSpace c = false ∧ c ≠ ']' := by
  cases fuel with
  | zero => cases h
  | succ fuel =>
    rw [readItems] at h
    cases hvalue : readValue strings fuel t with
    | error halt =>
      rw [hvalue] at h
      cases h
    | ok r =>
      obtain ⟨c, s, ht, hspace, hbracket, -⟩ := head_of_readValue hvalue
      exact ⟨c, s, ht, hspace, hbracket⟩

theorem head_of_readFields {fuel : Nat} {t : Text} {r : Fields × Text}
    (h : readFields strings fuel t = .ok r) : ∃ s, t = '"' :: s := by
  cases fuel with
  | zero => cases h
  | succ fuel =>
    cases t with
    | nil => cases h
    | cons c s =>
      by_cases hc : c = '"'
      · exact ⟨s, hc ▸ rfl⟩
      · rw [readFields] at h
        · cases h
        · exact fun _ heq => hc (List.cons.inj heq).1

theorem skipSpace_readValue {fuel : Nat} {t : Text} {r : Json × Text}
    (h : readValue strings fuel t = .ok r) : skipSpace t = t := by
  obtain ⟨c, s, rfl, hspace, -⟩ := head_of_readValue h
  exact skipSpace_cons hspace s

theorem skipSpace_readItems {fuel : Nat} {t : Text} {r : List Json × Text}
    (h : readItems strings fuel t = .ok r) : skipSpace t = t := by
  obtain ⟨c, s, rfl, hspace, -⟩ := head_of_readItems h
  exact skipSpace_cons hspace s

theorem skipSpace_readFields {fuel : Nat} {t : Text} {r : Fields × Text}
    (h : readFields strings fuel t = .ok r) : skipSpace t = t := by
  obtain ⟨s, rfl⟩ := head_of_readFields h
  exact skipSpace_cons rfl s

theorem readValue_bracket {fuel : Nat} {t after : Text} {items : List Json}
    (h : readItems strings fuel (skipSpace t) = .ok (items, after)) :
    readValue strings (fuel + 1) ('[' :: t) = .ok (.array items, after) := by
  obtain ⟨c, s, ht, -, hbracket⟩ := head_of_readItems h
  rw [readValue]
  split
  · rename_i heq
    rw [ht] at heq
    exact absurd (List.cons.inj heq).1 hbracket
  · rw [h]

theorem readValue_brace {fuel : Nat} {t after : Text} {fields : Fields}
    (h : readFields strings fuel (skipSpace t) = .ok (fields, after)) :
    readValue strings (fuel + 1) ('{' :: t) = .ok (.object (Fields.ofPairs fields), after) := by
  obtain ⟨s, ht⟩ := head_of_readFields h
  rw [readValue]
  split
  · rename_i heq
    rw [ht] at heq
    cases heq
  · rw [h]

end

/-! ## What is printed is read -/

/-- A value is read where it is printed, whatever ends a number behind it. -/
def Reads (l : Layout) (v : Json) : Prop :=
  ∀ (level : Nat) (t : Text), printAt l level v = Text.widen t → ∀ (fuel : Nat) (rest : Text),
    2 * t.length ≤ fuel → EndsNumber rest → readValue readString fuel (t ++ rest) = .ok (v, rest)

section

variable {l : Layout} {good : WideText → Prop} (hl : l.IsReadable good)

theorem reads_of_readScalar {v : Json} (printed : Text)
    (hprint : ∀ level, printAt l level v = Text.widen printed)
    (hread : ∀ rest, EndsNumber rest → readScalar (printed ++ rest) = .ok (v, rest)) :
    Reads l v := by
  intro level t ht fuel rest hfuel hrest
  rw [hprint] at ht
  obtain rfl := Text.widen_injective ht
  have hne : printed ≠ [] := by
    rintro rfl
    cases hread [] endsNumber_nil
  have hlength := List.length_pos_iff.2 hne
  obtain ⟨fuel, rfl⟩ : ∃ n, fuel = n + 1 := ⟨fuel - 1, by omega⟩
  exact readValue_of_readScalar (hread rest hrest) fuel

include hl

/-- A string that is printed is read. -/
theorem readString_printString {s : WideText} (hs : good s) {t : Text}
    (ht : printString l.asciiOnly s = Text.widen t) :
    ∃ e, t = '"' :: (e ++ ['"']) ∧
      ∀ opened rest, readString opened (e ++ '"' :: rest) = .ok (s, rest) := by
  obtain ⟨t, u, rfl, ht, hu⟩ := Text.exists_of_append_eq_widen ht
  obtain ⟨quote, e, rfl, hquote, he⟩ := Text.exists_of_append_eq_widen ht
  obtain rfl : ['"'] = quote := Text.widen_injective hquote
  obtain rfl : ['"'] = u := Text.widen_injective hu
  refine ⟨e, rfl, fun opened rest => ?_⟩
  have hjoined : joined s = s := hl.joined s e hs he
  rw [readString_escaped opened rest he, hjoined]

theorem reads_string {s : WideText} (hs : good s) : Reads l (.string s) := by
  intro level t ht fuel rest hfuel hrest
  obtain ⟨e, rfl, hread⟩ := readString_printString hl hs ht
  obtain ⟨fuel, rfl⟩ : ∃ n, fuel = n + 1 := ⟨fuel - 1, by simp at hfuel; omega⟩
  simp only [List.cons_append, List.append_assoc, List.nil_append, readValue, hread]

/-- The items behind the first one are read up to the closing bracket. -/
theorem readItems_printItems {level : Nat} {first : Json} {items : List Json}
    (hfirst : Reads l first) (hitems : ∀ v ∈ items, Reads l v) {t u s : Text}
    (ht : printAt l level first = Text.widen t) (hu : printItems l level items = Text.widen u)
    (hs : AllSpace s) (rest : Text) (fuel : Nat) (hfuel : 2 * (t.length + u.length) + 1 ≤ fuel) :
    readItems readString fuel (t ++ (u ++ (s ++ ']' :: rest))) = .ok (first :: items, rest) := by
  induction items generalizing first t u fuel with
  | nil =>
    obtain rfl : [] = u := Text.widen_injective hu
    obtain ⟨fuel, rfl⟩ : ∃ n, fuel = n + 1 := ⟨fuel - 1, by omega⟩
    have hvalue := hfirst level t ht fuel _ (by omega)
      (endsNumber_space_append hs (.inl rfl) rest)
    simp only [List.nil_append, readItems, hvalue, skipSpace_append hs,
      skipSpace_cons (show isSpace ']' = false from rfl)]
  | cons v items ih =>
    obtain ⟨gap, hcomma, hgap⟩ := hl.comma
    obtain ⟨line, hline, hspace⟩ := l.exists_lineStart level
    rw [printItems, hcomma, hline, List.append_assoc, List.append_assoc] at hu
    obtain ⟨u₁, rfl, hu₁⟩ := Text.exists_of_widen_append hu
    obtain ⟨u₂, rfl, hu₂⟩ := Text.exists_of_widen_append hu₁
    obtain ⟨next, more, rfl, hnext, hmore⟩ := Text.exists_of_append_eq_widen hu₂
    obtain ⟨fuel, rfl⟩ : ∃ n, fuel = n + 1 := ⟨fuel - 1, by omega⟩
    simp only [List.length_append, List.length_cons] at hfuel
    have hrest := ih (hitems v (by simp)) (fun w hw => hitems w (List.mem_cons_of_mem v hw))
      hnext hmore fuel (by omega)
    have hskip := skipSpace_readItems hrest
    have hvalue := hfirst level t ht fuel _ (by omega) (endsNumber_cons (c := ',') (by simp)
      (gap ++ (line ++ (next ++ (more ++ (s ++ ']' :: rest))))))
    simp only [List.cons_append, List.append_assoc, readItems, hvalue,
      skipSpace_cons (show isSpace ',' = false from rfl), skipSpace_append hgap,
      skipSpace_append hspace, hskip, hrest]

theorem reads_array {items : List Json} (hitems : ∀ v ∈ items, Reads l v) :
    Reads l (.array items) := by
  intro level printed hprinted fuel rest hfuel hrest
  cases items with
  | nil =>
    obtain rfl : ['[', ']'] = printed := Text.widen_injective hprinted
    obtain ⟨fuel, rfl⟩ : ∃ n, fuel = n + 1 := ⟨fuel - 1, by simp at hfuel; omega⟩
    rfl
  | cons first items =>
    obtain ⟨line, hline, hspace⟩ := l.exists_lineStart (level + 1)
    obtain ⟨s, hlast, hs⟩ := l.exists_lineStart level
    rw [printAt, hline, hlast] at hprinted
    simp only [List.append_assoc] at hprinted
    obtain ⟨u₁, rfl, hu₁⟩ := Text.exists_of_widen_append (s := ['[']) hprinted
    obtain ⟨u₂, rfl, hu₂⟩ := Text.exists_of_widen_append hu₁
    obtain ⟨t, u₃, rfl, ht, hu₃⟩ := Text.exists_of_append_eq_widen hu₂
    obtain ⟨u, u₄, rfl, hu, hu₄⟩ := Text.exists_of_append_eq_widen hu₃
    obtain ⟨u₅, rfl, hu₅⟩ := Text.exists_of_widen_append hu₄
    obtain rfl : [']'] = u₅ := Text.widen_injective hu₅
    obtain ⟨fuel, rfl⟩ : ∃ n, fuel = n + 1 := ⟨fuel - 1, by simp at hfuel; omega⟩
    simp only [List.length_append, List.length_cons, List.length_nil] at hfuel
    have hread := readItems_printItems hl (hitems first (by simp))
      (fun w hw => hitems w (List.mem_cons_of_mem first hw)) ht hu hs rest fuel (by omega)
    simp only [List.append_assoc, List.cons_append, List.nil_append]
    refine readValue_bracket ?_
    rw [skipSpace_append hspace, skipSpace_readItems hread, hread]

/-- The fields behind the first one are read up to the closing brace. -/
theorem readFields_printFields {level : Nat} {key : WideText} {first : Json} {fields : Fields}
    (hkey : good key) (hfirst : Reads l first) (hkeys : ∀ f ∈ fields, good f.1)
    (hfields : ∀ f ∈ fields, Reads l f.2) {k gap t u s : Text}
    (hk : printString l.asciiOnly key = Text.widen k) (hgap : AllSpace gap)
    (ht : printAt l level first = Text.widen t) (hu : printFields l level fields = Text.widen u)
    (hs : AllSpace s) (rest : Text) (fuel : Nat) (hfuel : 2 * (t.length + u.length) + 1 ≤ fuel) :
    readFields readString fuel (k ++ ':' :: (gap ++ (t ++ (u ++ (s ++ '}' :: rest))))) =
      .ok ((key, first) :: fields, rest) := by
  induction fields generalizing key first k gap t u fuel with
  | nil =>
    obtain ⟨e, rfl, hstring⟩ := readString_printString hl hkey hk
    obtain rfl : [] = u := Text.widen_injective hu
    obtain ⟨fuel, rfl⟩ : ∃ n, fuel = n + 1 := ⟨fuel - 1, by omega⟩
    have hvalue := hfirst level t ht fuel _ (by omega)
      (endsNumber_space_append hs (.inr rfl) rest)
    simp only [List.nil_append, List.cons_append, List.append_assoc, readFields, hstring,
      skipSpace_cons (show isSpace ':' = false from rfl), skipSpace_append hgap,
      skipSpace_readValue hvalue, hvalue, skipSpace_append hs,
      skipSpace_cons (show isSpace '}' = false from rfl)]
  | cons f fields ih =>
    obtain ⟨name, v⟩ := f
    obtain ⟨commaGap, hcomma, hcommaGap⟩ := hl.comma
    obtain ⟨colonGap, hcolon, hcolonGap⟩ := hl.colon
    obtain ⟨line, hline, hspace⟩ := l.exists_lineStart level
    rw [printFields, hcomma, hline, hcolon] at hu
    simp only [List.append_assoc] at hu
    obtain ⟨u₁, rfl, hu₁⟩ := Text.exists_of_widen_append hu
    obtain ⟨u₂, rfl, hu₂⟩ := Text.exists_of_widen_append hu₁
    obtain ⟨nextKey, u₃, rfl, hnextKey, hu₃⟩ := Text.exists_of_append_eq_widen hu₂
    obtain ⟨u₄, rfl, hu₄⟩ := Text.exists_of_widen_append hu₃
    obtain ⟨next, more, rfl, hnext, hmore⟩ := Text.exists_of_append_eq_widen hu₄
    obtain ⟨fuel, rfl⟩ : ∃ n, fuel = n + 1 := ⟨fuel - 1, by omega⟩
    simp only [List.length_append, List.length_cons] at hfuel
    have hrest := ih (hkeys (name, v) (by simp)) (hfields (name, v) (by simp))
      (fun g hg => hkeys g (List.mem_cons_of_mem _ hg))
      (fun g hg => hfields g (List.mem_cons_of_mem _ hg)) hnextKey hcolonGap hnext hmore fuel
      (by omega)
    obtain ⟨e, rfl, hstring⟩ := readString_printString hl hkey hk
    have hvalue := hfirst level t ht fuel _ (by omega) (endsNumber_cons (c := ',') (by simp)
      (commaGap ++ (line ++ (nextKey ++ ':' :: (colonGap ++
        (next ++ (more ++ (s ++ '}' :: rest))))))))
    simp only [List.nil_append, List.cons_append, List.append_assoc, readFields, hstring,
      skipSpace_cons (show isSpace ':' = false from rfl), skipSpace_append hgap,
      skipSpace_readValue hvalue, hvalue, skipSpace_cons (show isSpace ',' = false from rfl),
      skipSpace_append hcommaGap, skipSpace_append hspace, skipSpace_readFields hrest, hrest]

theorem reads_object {fields : Fields} (hkeys : fields.keys.Nodup) (hgood : ∀ f ∈ fields, good f.1)
    (hfields : ∀ f ∈ fields, Reads l f.2) : Reads l (.object fields) := by
  intro level printed hprinted fuel rest hfuel hrest
  cases fields with
  | nil =>
    obtain rfl : ['{', '}'] = printed := Text.widen_injective hprinted
    obtain ⟨fuel, rfl⟩ : ∃ n, fuel = n + 1 := ⟨fuel - 1, by simp at hfuel; omega⟩
    rfl
  | cons f fields =>
    obtain ⟨key, first⟩ := f
    obtain ⟨gap, hcolon, hgap⟩ := hl.colon
    obtain ⟨line, hline, hspace⟩ := l.exists_lineStart (level + 1)
    obtain ⟨s, hlast, hs⟩ := l.exists_lineStart level
    rw [printAt, hline, hlast, hcolon] at hprinted
    simp only [List.append_assoc] at hprinted
    obtain ⟨u₁, rfl, hu₁⟩ := Text.exists_of_widen_append (s := ['{']) hprinted
    obtain ⟨u₂, rfl, hu₂⟩ := Text.exists_of_widen_append hu₁
    obtain ⟨k, u₃, rfl, hk, hu₃⟩ := Text.exists_of_append_eq_widen hu₂
    obtain ⟨u₄, rfl, hu₄⟩ := Text.exists_of_widen_append hu₃
    obtain ⟨t, u₅, rfl, ht, hu₅⟩ := Text.exists_of_append_eq_widen hu₄
    obtain ⟨u, u₆, rfl, hu, hu₆⟩ := Text.exists_of_append_eq_widen hu₅
    obtain ⟨u₇, rfl, hu₇⟩ := Text.exists_of_widen_append hu₆
    obtain rfl : ['}'] = u₇ := Text.widen_injective hu₇
    obtain ⟨fuel, rfl⟩ : ∃ n, fuel = n + 1 := ⟨fuel - 1, by simp at hfuel; omega⟩
    simp only [List.length_append, List.length_cons, List.length_nil] at hfuel
    have hread := readFields_printFields hl (hgood (key, first) (by simp))
      (hfields (key, first) (by simp))
      (fun g hg => hgood g (List.mem_cons_of_mem _ hg))
      (fun g hg => hfields g (List.mem_cons_of_mem _ hg)) hk hgap ht hu hs rest fuel (by omega)
    simp only [List.append_assoc, List.cons_append, List.nil_append]
    rw [← Fields.ofPairs_of_nodup hkeys]
    refine readValue_brace ?_
    rw [skipSpace_append hspace, skipSpace_readFields hread, hread]

/-- Tidy values are read where they are printed. -/
theorem reads_of_tidy {v : Json} (hv : v.Tidy good) : Reads l v := by
  induction hv with
  | null => exact reads_of_readScalar (text "null") (fun _ => rfl) (fun _ _ => rfl)
  | bool b =>
    cases b with
    | true => exact reads_of_readScalar (text "true") (fun _ => rfl) (fun _ _ => rfl)
    | false => exact reads_of_readScalar (text "false") (fun _ => rfl) (fun _ _ => rfl)
  | @int n h =>
    exact reads_of_readScalar (signedDecimal n) (fun _ => rfl)
      (fun _ hrest => readScalar_signedDecimal h hrest)
  | float x =>
    exact reads_of_readScalar (x.render numberStyle) (fun _ => rfl)
      (fun _ hrest => readScalar_render x hrest)
  | string h => exact reads_string hl h
  | array _ ih => exact reads_array hl ih
  | object hkeys hgood _ ih => exact reads_object hl hkeys hgood ih

/-- A tidy value reads back, space behind it or not. -/
theorem read_print_append {v : Json} (hv : v.Tidy good) {t s : Text}
    (ht : v.print l = Text.widen t) (hs : AllSpace s) : read (t ++ s) = .ok v := by
  have hvalue := reads_of_tidy hl hv 0 t ht (2 * (t ++ s).length + 2) s
    (by simp only [List.length_append]; omega) (endsNumber_space hs)
  obtain ⟨c, rest, heq, hspace, -, hmark⟩ := head_of_readValue hvalue
  have hwhole : readWhole readString (t ++ s) = .ok v := by
    rw [readWhole, skipSpace_readValue hvalue, hvalue]
    · simp only [skipSpace_space hs]
    · exact fun _ h => hmark (List.cons.inj (heq.symm.trans h)).1
  rw [read, hwhole, located]

/-- **A tidy value reads back.** -/
theorem read_print {v : Json} (hv : v.Tidy good) {t : Text} (ht : v.print l = Text.widen t) :
    read t = .ok v := by
  have hread := read_print_append hl hv ht (s := []) fun _ hc => absurd hc List.not_mem_nil
  rwa [List.append_nil] at hread

end

/-! ## What is read is tidy -/

theorem allDigits_of_wholeDigits? {t whole rest : Text} (h : wholeDigits? t = some (whole, rest)) :
    AllDigits whole ∧ whole ≠ [] := by
  cases t with
  | nil => cases h
  | cons c t =>
    by_cases hzero : c = '0'
    · subst hzero
      cases h
      exact ⟨allDigits_zeros 1, by simp⟩
    · rw [wholeDigits?] at h
      · by_cases hc : isDigit c = true
        · rw [if_pos hc] at h
          cases h
          refine ⟨fun x hx => ?_, by simp⟩
          rcases List.mem_cons.1 hx with rfl | hx
          · exact hc
          · exact List.mem_takeWhile_imp hx
        · rw [if_neg hc] at h
          cases h
      · exact fun heq => hzero heq

theorem tidy_of_numberOf {negative : Bool} {whole fraction : Text} {exponent : Option Int}
    {good : WideText → Prop} {v : Json} (hwhole : AllDigits whole ∧ whole ≠ [])
    (h : numberOf negative whole fraction exponent = .ok v) : v.Tidy good := by
  rw [numberOf.eq_def] at h
  split at h
  · split at h
    · cases h
    · rename_i hlimit
      have hlength := length_decimal_digitsValue hwhole.1 hwhole.2
      cases h
      refine .int ?_
      have habs : (if negative = true then -(digitsValue whole : Int) else digitsValue whole).natAbs
          = digitsValue whole := by split <;> omega
      rw [habs]
      omega
  · cases h
    exact .float _

theorem tidy_of_readUnsigned? {negative : Bool} {t rest : Text} {good : WideText → Prop} {v : Json}
    (h : readUnsigned? negative t = some (.ok v, rest)) : v.Tidy good := by
  rw [readUnsigned?] at h
  cases hwhole : wholeDigits? t with
  | none =>
    rw [hwhole] at h
    cases h
  | some r =>
    have hdigits := allDigits_of_wholeDigits? (hwhole.trans rfl)
    rw [hwhole] at h
    simp only at h
    split at h <;> exact tidy_of_numberOf hdigits (Prod.mk.inj (Option.some.inj h)).1

theorem tidy_of_readScalar {t : Text} {good : WideText → Prop} {v : Json} {rest : Text}
    (h : readScalar t = .ok (v, rest)) : v.Tidy good := by
  rw [readScalar] at h
  split at h
  · rename_i word value hfind
    cases h
    have hmem := List.mem_of_find?_eq_some hfind
    simp only [words, List.mem_cons, List.not_mem_nil, or_false, Prod.mk.injEq] at hmem
    rcases hmem with ⟨-, rfl⟩ | ⟨-, rfl⟩ | ⟨-, rfl⟩ | ⟨-, rfl⟩ | ⟨-, rfl⟩ | ⟨-, rfl⟩ <;> constructor
  · split at h
    · rename_i value rest hnumber
      cases h
      rw [readNumber?.eq_def] at hnumber
      split at hnumber <;> exact tidy_of_readUnsigned? hnumber
    · cases h
    · cases h

/-- A field with a joined name and a tidy value. -/
def TidyField (f : WideText × Json) : Prop := IsJoined f.1 ∧ f.2.Tidy IsJoined

/-- Whatever is read with some fuel is tidy. -/
structure ReadsTidy (fuel : Nat) : Prop where
  /-- A value is. -/
  value {t rest : Text} {v : Json} :
    readValue readString fuel t = .ok (v, rest) → v.Tidy IsJoined
  /-- All items are. -/
  items {t rest : Text} {items : List Json} :
    readItems readString fuel t = .ok (items, rest) → ∀ v ∈ items, v.Tidy IsJoined
  /-- All fields are. -/
  fields {t rest : Text} {fields : Fields} :
    readFields readString fuel t = .ok (fields, rest) → ∀ f ∈ fields, TidyField f

namespace ReadsTidy

variable {fuel : Nat} (ih : ReadsTidy fuel)

include ih

/-- A value is tidy if its items and its fields are. -/
theorem value_succ {t rest : Text} {v : Json}
    (h : readValue readString (fuel + 1) t = .ok (v, rest)) : v.Tidy IsJoined := by
  rw [readValue.eq_def] at h
  simp only at h
  split at h
  · -- a string
    split at h
    · rename_i hread
      cases h
      exact .string (isJoined_of_readString hread)
    · cases h
  · -- a list
    split at h
    · cases h
      exact .array fun v hv => absurd hv List.not_mem_nil
    · split at h
      · rename_i hread
        cases h
        exact .array (ih.items hread)
      · cases h
  · -- an object
    split at h
    · cases h
      exact .emptyObject
    · split at h
      · rename_i fields after hread
        cases h
        exact .ofPairs (ih.fields hread)
      · cases h
  · exact tidy_of_readScalar h

/-- Items are tidy if the first one and the others are. -/
theorem items_succ {t rest : Text} {items : List Json}
    (h : readItems readString (fuel + 1) t = .ok (items, rest)) : ∀ v ∈ items, v.Tidy IsJoined := by
  rw [readItems] at h
  split at h
  · cases h
  · rename_i item after hitem
    have hfirst := ih.value hitem
    split at h
    · cases h
      exact List.forall_mem_singleton.2 hfirst
    · split at h
      · rename_i hread
        cases h
        exact List.forall_mem_cons.2 ⟨hfirst, ih.items hread⟩
      · cases h
    · cases h

/-- Fields are tidy if the first one and the others are. -/
theorem fields_succ {t rest : Text} {fields : Fields}
    (h : readFields readString (fuel + 1) t = .ok (fields, rest)) : ∀ f ∈ fields, TidyField f := by
  rw [readFields.eq_def] at h
  simp only at h
  split at h
  · split at h
    · cases h
    · rename_i key _ hkey
      split at h
      · split at h
        · cases h
        · rename_i value _ hread
          have hfirst : TidyField (key, value) :=
            ⟨isJoined_of_readString hkey, ih.value hread⟩
          split at h
          · cases h
            exact List.forall_mem_singleton.2 hfirst
          · split at h
            · rename_i hmore
              cases h
              exact List.forall_mem_cons.2 ⟨hfirst, ih.fields hmore⟩
            · cases h
          · cases h
      · cases h
  · cases h

end ReadsTidy

/-- Of all that is read of a value, everything is tidy. -/
theorem readsTidy (fuel : Nat) : ReadsTidy fuel := by
  induction fuel with
  | zero =>
    constructor
    all_goals
      intro t rest _ h
      cases h
  | succ fuel ih => exact ⟨ih.value_succ, ih.items_succ, ih.fields_succ⟩

/-- **What is read is tidy.** -/
theorem tidy_of_read {t : Text} {v : Json} (h : read t = .ok v) : v.Tidy IsJoined := by
  rw [read] at h
  cases hwhole : readWhole readString t with
  | error halt => cases halt <;> (rw [hwhole] at h; cases h)
  | ok w =>
    rw [hwhole] at h
    cases h
    rw [readWhole.eq_def] at hwhole
    split at hwhole
    · cases hwhole
    · split at hwhole
      · cases hwhole
      · rename_i value rest hvalue
        split at hwhole
        · cases hwhole
          exact (readsTidy _).value hvalue
        · cases hwhole

end Json
end Dataflow
