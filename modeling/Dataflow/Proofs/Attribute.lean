import Dataflow.Mashup.Attribute
import Dataflow.Proofs.Blank
import Mathlib.Data.Option.Basic

/-!
# What the backward walk depends on

An attribute is found from its closing bracket, by walking back.  A document that is put together
from two pieces raises one question about this: whether the walk, begun in the second piece, stays
there.  When it finds its bracket there, the first piece does not matter, and when it does not, the
bracket it finds lies in the first piece (`walkBack_append`, `walkBack_of_append`).  The look at the
character before a quote never crosses the bracket that is found, because a bracket is no quote.

`attributeBefore?` walks back from an offset, which may be any integer.  All that it looks at is the
text in front of it, so what is proved here is about `attributeAtEnd?`, the attribute that a text
ends with.
-/

set_option autoImplicit false

namespace Dataflow
namespace Mashup

/-! ## One step of the walk -/

namespace BackState

/-- Only a quote is read with an eye on the character before it. -/
theorem step_of_ne_quote (s : BackState) {c : Char} (h : c ≠ '"') (b b' : Option Char) :
    s.step c b = s.step c b' := by
  simp [step, h]

/-- The flag of the walk behind a character that has `before` in front of it. -/
theorem quoted_step (s : BackState) (c : Char) (before : Option Char) :
    (s.step c before).quoted = if c = '"' ∧ ¬isEscaped before then !s.quoted else s.quoted := by
  simp only [step, apply_ite BackState.quoted, ite_self]

/-- Inside a quoted stretch nothing is counted. -/
theorem step_eq_of_quoted {s : BackState} {c : Char} {before : Option Char}
    (h : (s.step c before).quoted = true) : s.step c before = { s with quoted := true } := by
  rw [quoted_step] at h
  simp only [step, h, if_true]

/-- Outside, closing brackets count up and opening ones down. -/
theorem step_eq_of_not_quoted {s : BackState} {c : Char} {before : Option Char}
    (h : (s.step c before).quoted = false) :
    s.step c before = ⟨s.brackets + (if c = ']' then 1 else 0) - (if c = '[' then 1 else 0),
      s.braces + (if c = '}' then 1 else 0) - (if c = '{' then 1 else 0), false⟩ := by
  rw [quoted_step] at h
  simp only [step, h, Bool.false_eq_true, if_false]
  split
  · rename_i hb
    simp [hb]
  · split
    · rename_i hb
      simp [hb]
    · split
      · rename_i hb
        simp [hb]
      · split
        · simp
        · simp

theorem quoted_step_of_ne_quote (s : BackState) {c : Char} (h : c ≠ '"') (before : Option Char) :
    (s.step c before).quoted = s.quoted := by
  rw [quoted_step, if_neg fun hquote => h hquote.1]

end BackState

/-! ## The walk -/

theorem walkBack_append {s : BackState} {x : Text} {k : Nat} (h : walkBack s x = some k)
    (y : Text) : walkBack s (x ++ y) = some (k + y.length) := by
  induction x generalizing s with
  | nil => cases h
  | cons c before ih =>
    rw [walkBack] at h
    rw [List.cons_append, walkBack]
    by_cases hc : c = '['
    · subst hc
      rw [s.step_of_ne_quote (by decide) _ before.head?]
      split at h
      · rename_i hb
        cases h
        rw [if_pos hb, List.length_append]
      · rename_i hb
        rw [if_neg hb]
        exact ih h
    · rw [if_neg fun hb => hc hb.1] at h ⊢
      cases before with
      | nil => cases h
      | cons b before => exact ih h

theorem walkBack_of_append {s : BackState} {x y : Text} {k : Nat}
    (h : walkBack s (x ++ y) = some k) (hk : y.length ≤ k) :
    walkBack s x = some (k - y.length) := by
  induction x generalizing s with
  | nil => exact absurd (lt_of_walkBack h) (Nat.not_lt.2 hk)
  | cons c before ih =>
    rw [List.cons_append, walkBack] at h
    rw [walkBack]
    by_cases hc : c = '['
    · subst hc
      rw [s.step_of_ne_quote (by decide) _ before.head?] at h
      split at h
      · rename_i hb
        cases h
        rw [if_pos hb, List.length_append, Nat.add_sub_cancel]
      · rename_i hb
        rw [if_neg hb]
        exact ih h
    · rw [if_neg fun hb => hc hb.1] at h ⊢
      cases before with
      | nil => exact absurd (lt_of_walkBack h) (Nat.not_lt.2 hk)
      | cons b before => exact ih h

/-- The walk stops at an opening bracket. -/
theorem head?_drop_of_walkBack {s : BackState} {x : Text} {k : Nat} (h : walkBack s x = some k) :
    (x.reverse.drop k).head? = some '[' := by
  induction x generalizing s with
  | nil => cases h
  | cons c before ih =>
    rw [walkBack] at h
    rw [List.reverse_cons]
    split at h
    · rename_i hb
      cases h
      rw [List.drop_append_of_le_length (by simp), ← List.length_reverse, List.drop_length,
        List.nil_append, hb.1, List.head?_cons]
    · have hlt := lt_of_walkBack h
      rw [List.drop_append_of_le_length (by simp; omega), List.head?_append, ih h, Option.some_or]

/-! ## The attribute that a text ends with -/

/-- The offset of the bracket that opens what the last character of a text closes. -/
def bracketAtEnd? (t : Text) : Option Nat :=
  if t.getLast? = some ']' then walkBack .start t.reverse else none

/-- The attribute that a text ends with, blanks aside. -/
def attributeAtEnd? (t : Text) : Option PlacedAttribute := do
  let start ← bracketAtEnd? (Text.stripEnd t)
  let value := Text.strip ((Text.stripEnd t).drop start)
  guard (!Attribute.isStaging value)
  return ⟨start, value⟩

theorem lastSolidBefore_eq (t : Text) (i : Nat) :
    lastSolidBefore t i = (Text.stripEnd (t.take i)).length - 1 := by
  rw [lastSolidBefore]
  split
  · have : i = 0 := by omega
    subst this
    rfl
  · rw [Int.toNat_natCast]

theorem stripEnd_take_eq (t : Text) (i : Nat) :
    Text.stripEnd (t.take i) = t.take (Text.stripEnd (t.take i)).length := by
  have h := Text.stripEnd_prefix (t.take i)
  have hle : (Text.stripEnd (t.take i)).length ≤ i :=
    Nat.le_trans h.length_le (List.length_take_le i t)
  conv => lhs; rw [List.prefix_iff_eq_take.1 h, List.take_take, Nat.min_eq_left hle]

/-- **All that counts is the text before the offset.** -/
theorem attributeBefore?_eq (t : Text) (i : Nat) :
    attributeBefore? t i = attributeAtEnd? (t.take i) := by
  rw [attributeBefore?, attributeAtEnd?, lastSolidBefore_eq]
  cases hn : (Text.stripEnd (t.take i)).length with
  | zero => rw [List.length_eq_zero_iff.1 hn]; rfl
  | succ m =>
    have htake : Text.stripEnd (t.take i) = t.take (m + 1) := hn ▸ stripEnd_take_eq t i
    have hlen : m < t.length := by
      have := congrArg List.length htake
      rw [hn, List.length_take] at this
      omega
    have hopen : openBracketAt? t m = bracketAtEnd? (t.take (m + 1)) := by
      rw [openBracketAt?_natCast, openBracket?, bracketAtEnd?, List.getLast?_take,
        if_neg (Nat.succ_ne_zero m), Nat.add_sub_cancel, List.getElem?_eq_getElem hlen,
        Option.some_or]
    have hclose : ((m + 1 : Nat) : Int) - 1 = m := by omega
    rw [hclose, htake, hopen, Int.toNat_natCast]
    rfl

theorem lt_of_bracketAtEnd? {t : Text} {k : Nat} (h : bracketAtEnd? t = some k) : k < t.length := by
  rw [bracketAtEnd?] at h
  split at h
  · simpa using lt_of_walkBack h
  · cases h

theorem getElem?_of_bracketAtEnd? {t : Text} {k : Nat} (h : bracketAtEnd? t = some k) :
    t[k]? = some '[' := by
  rw [bracketAtEnd?] at h
  split at h
  · have hhead := head?_drop_of_walkBack h
    rwa [List.reverse_reverse, List.head?_drop] at hhead
  · cases h

/-- What is between the two brackets, both included, is no longer when stripped. -/
theorem strip_drop_of_bracketAtEnd? {t : Text} {k : Nat} (h : bracketAtEnd? t = some k) :
    Text.strip (t.drop k) = t.drop k := by
  have hlt := lt_of_bracketAtEnd? h
  have hhead := getElem?_of_bracketAtEnd? h
  rw [bracketAtEnd?] at h
  split at h
  · rename_i hlast
    refine Text.strip_eq_self (by rw [List.head?_drop, hhead]; decide) ?_
    rw [List.getLast?_drop, if_neg (Nat.not_le.2 hlt), hlast]
    decide
  · cases h

/-- The text of an attribute is all that follows from its opening bracket on. -/
theorem attributeAtEnd?_eq_some_iff {t : Text} {a : PlacedAttribute} :
    attributeAtEnd? t = some a ↔ bracketAtEnd? (Text.stripEnd t) = some a.start ∧
      a.value = (Text.stripEnd t).drop a.start ∧ Attribute.isStaging a.value = false := by
  rw [attributeAtEnd?]
  cases hb : bracketAtEnd? (Text.stripEnd t) with
  | none => simp
  | some k =>
    obtain ⟨start, value⟩ := a
    simp only [Option.bind_eq_bind, Option.bind_some, strip_drop_of_bracketAtEnd? hb,
      Option.some_inj]
    cases hs : Attribute.isStaging ((Text.stripEnd t).drop k) with
    | true =>
      refine iff_of_false ?_ ?_
      · intro h
        cases h
      · rintro ⟨rfl, rfl, h⟩
        exact Bool.false_ne_true (h.symm.trans hs)
    | false =>
      constructor
      · intro h
        cases h
        exact ⟨rfl, rfl, hs⟩
      · rintro ⟨rfl, rfl, -⟩
        rfl

theorem value_ne_nil_of_attributeAtEnd? {t : Text} {a : PlacedAttribute}
    (h : attributeAtEnd? t = some a) : a.value ≠ [] := by
  obtain ⟨hb, hv, -⟩ := attributeAtEnd?_eq_some_iff.1 h
  rw [hv, Ne, List.drop_eq_nil_iff, Nat.not_le]
  exact lt_of_bracketAtEnd? hb

theorem attributeAtEnd?_eq_none {t : Text} {c : Char} (h : t.getLast? = some c)
    (hblank : isBlank c = false) (hc : c ≠ ']') : attributeAtEnd? t = none := by
  have hstrip : Text.stripEnd t = t := Text.stripEnd_eq_self (by simp [h, hblank])
  rw [attributeAtEnd?, hstrip, bracketAtEnd?, h, if_neg (by simpa using hc)]
  rfl

/-! ## Two pieces -/

/-- An attribute in a text behind `n` other characters. -/
def PlacedAttribute.shift (n : Nat) (a : PlacedAttribute) : PlacedAttribute :=
  { a with start := n + a.start }

theorem bracketAtEnd?_append {v : Text} {k : Nat} (h : bracketAtEnd? v = some k) (u : Text) :
    bracketAtEnd? (u ++ v) = some (u.length + k) := by
  rw [bracketAtEnd?] at h ⊢
  split at h
  · rename_i hlast
    rw [if_pos (by rw [List.getLast?_append, hlast, Option.some_or]), List.reverse_append,
      walkBack_append h, List.length_reverse, Nat.add_comm]
  · cases h

theorem bracketAtEnd?_of_append {u v : Text} {k : Nat} (hv : v ≠ [])
    (h : bracketAtEnd? (u ++ v) = some k) (hk : u.length ≤ k) :
    bracketAtEnd? v = some (k - u.length) := by
  have hlast : (u ++ v).getLast? = v.getLast? := by
    rw [List.getLast?_append, List.getLast?_eq_some_getLast hv, Option.some_or]
  rw [bracketAtEnd?, hlast, List.reverse_append] at h
  rw [bracketAtEnd?]
  split at h
  · rename_i hlast
    rw [if_pos hlast, ← List.length_reverse]
    exact walkBack_of_append h (by rwa [List.length_reverse])
  · cases h

theorem attributeAtEnd?_append_of_allBlank (u : Text) {v : Text} (h : Text.allBlank v = true) :
    attributeAtEnd? (u ++ v) = attributeAtEnd? u := by
  rw [attributeAtEnd?, attributeAtEnd?, Text.stripEnd_append_of_allBlank u h]

theorem not_allBlank_of_attributeAtEnd? {t : Text} {a : PlacedAttribute}
    (h : attributeAtEnd? t = some a) : Text.allBlank t = false := by
  cases ht : Text.allBlank t with
  | false => rfl
  | true =>
    rw [attributeAtEnd?, (Text.stripEnd_eq_nil_iff t).2 ht] at h
    cases h

theorem attributeAtEnd?_append_of_some {v : Text} {a : PlacedAttribute}
    (h : attributeAtEnd? v = some a) (u : Text) :
    attributeAtEnd? (u ++ v) = some (a.shift u.length) := by
  have hv := not_allBlank_of_attributeAtEnd? h
  rw [attributeAtEnd?_eq_some_iff] at h ⊢
  rw [Text.stripEnd_append u hv]
  refine ⟨bracketAtEnd?_append h.1 u, ?_, h.2.2⟩
  rw [PlacedAttribute.shift, List.drop_append, h.2.1]
  simp

/-- **An attribute that begins in the second of two pieces is the attribute of that piece.** -/
theorem attributeAtEnd?_append (u : Text) {v : Text} (h : Text.allBlank v = false) :
    (attributeAtEnd? (u ++ v)).filter (u.length ≤ ·.start) =
      (attributeAtEnd? v).map (.shift u.length) := by
  cases hv : attributeAtEnd? v with
  | some a => simp [attributeAtEnd?_append_of_some hv, PlacedAttribute.shift]
  | none =>
    rw [Option.map_none, Option.filter_eq_none_iff]
    intro a ha
    rw [decide_eq_true_eq, Nat.not_le]
    refine Nat.lt_of_not_le fun hle => ?_
    obtain ⟨hb, hval, hs⟩ := attributeAtEnd?_eq_some_iff.1 ha
    rw [Text.stripEnd_append u h] at hb hval
    -- a bracket found in `v` would have been found from the end of `v`
    have hne : Text.stripEnd v ≠ [] := by
      rw [Ne, Text.stripEnd_eq_nil_iff, h]
      exact Bool.false_ne_true
    have hv' : attributeAtEnd? v = some ⟨a.start - u.length, a.value⟩ := by
      refine attributeAtEnd?_eq_some_iff.2 ⟨bracketAtEnd?_of_append hne hb hle, ?_, hs⟩
      rw [hval, List.drop_append, List.drop_eq_nil_of_le hle, List.nil_append]
    rw [hv] at hv'
    cases hv'

end Mashup
end Dataflow
