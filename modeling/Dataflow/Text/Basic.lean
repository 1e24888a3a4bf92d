/-!
# Text

Documents, query names, query code and attributes are texts: lists of Unicode scalar values.  A
list is what every reader below recurses on, and an offset into a document is a number of elements
of that list.

What cuts, compares and doubles here takes lists of anything, since a text that is handed in may
hold elements that are no characters (`Dataflow.Text.Wide`).
-/

set_option autoImplicit false

namespace Dataflow

/-- A sequence of Unicode scalar values. -/
abbrev Text := List Char

/-- The characters of a string. -/
def text (s : String) : Text := s.toList

namespace Text

/-! ## Stretches of a text -/

section

variable {α : Type}

/-- The elements from offset `start` up to, and without, offset `stop`. -/
def slice (t : List α) (start stop : Nat) : List α := (t.take stop).drop start

theorem length_slice (t : List α) (start stop : Nat) :
    (slice t start stop).length = min stop t.length - start := by
  simp [slice]

theorem slice_eq_take_drop (t : List α) (i j : Nat) : slice t i j = (t.drop i).take (j - i) :=
  List.drop_take

/-- Two stretches that follow one another are one. -/
theorem slice_append_slice {i j k : Nat} (t : List α) (hij : i ≤ j) (hjk : j ≤ k) :
    slice t i j ++ slice t j k = slice t i k := by
  have hdrop : t.drop j = (t.drop i).drop (j - i) := by rw [List.drop_drop, Nat.add_sub_cancel' hij]
  have hsize : k - i = (j - i) + (k - j) := by omega
  rw [slice_eq_take_drop, slice_eq_take_drop, slice_eq_take_drop, hdrop, hsize, List.take_add]

/-- A stretch follows what stands before it. -/
theorem take_append_slice_of_le {i j : Nat} (t : List α) (h : i ≤ j) :
    t.take i ++ slice t i j = t.take j := slice_append_slice t (Nat.zero_le i) h

/-- What stands behind a stretch follows it. -/
theorem slice_append_drop {i j : Nat} (t : List α) (h : i ≤ j) :
    slice t i j ++ t.drop j = t.drop i := by
  have hdrop : t.drop j = (t.drop i).drop (j - i) := by rw [List.drop_drop, Nat.add_sub_cancel' h]
  rw [slice_eq_take_drop, hdrop, List.take_append_drop]

end

/-! ## Comparing and doubling -/

/-- Whether `t` begins with `start`. -/
def hasPrefix (t start : Text) : Bool := start.isPrefixOf t

/-- Whether `needle` stands somewhere in the list. -/
def occursIn {α : Type} [BEq α] (needle : List α) : List α → Bool
  | [] => needle.isEmpty
  | c :: rest => needle.isPrefixOf (c :: rest) || occursIn needle rest

theorem occursIn_iff {α : Type} [BEq α] [LawfulBEq α] {needle t : List α} :
    occursIn needle t = true ↔ needle <:+: t := by
  induction t with
  | nil => rw [occursIn, List.isEmpty_iff, List.infix_nil]
  | cons c rest ih =>
    rw [occursIn, Bool.or_eq_true, List.isPrefixOf_iff_prefix, ih, List.infix_cons_iff]

section

variable {α : Type} [DecidableEq α]

/-- Every occurrence of `c` written twice. -/
def double (c : α) (t : List α) : List α := t.flatMap fun x => if x = c then [x, x] else [x]

theorem double_cons_self (c : α) (t : List α) : double c (c :: t) = c :: c :: double c t := by
  simp [double]

theorem double_cons_of_ne {c x : α} (h : x ≠ c) (t : List α) :
    double c (x :: t) = x :: double c t := by
  simp [double, h]

/-- Every adjacent pair of `c`, found from the left, written once. -/
def single (c : α) : List α → List α
  | x :: y :: rest => if x = c ∧ y = c then c :: single c rest else x :: single c (y :: rest)
  | t => t

/-- A doubled character reads back, whatever follows. -/
theorem single_double_append (c : α) (t w : List α) :
    single c (double c t ++ w) = t ++ single c w := by
  induction t with
  | nil => rfl
  | cons x t ih =>
    by_cases hx : x = c
    · subst hx
      rw [double_cons_self, List.cons_append, List.cons_append, single, if_pos ⟨rfl, rfl⟩, ih]
      rfl
    · rw [double_cons_of_ne hx, List.cons_append, List.cons_append, ← ih]
      cases double c t ++ w with
      | nil => rfl
      | cons y more => rw [single, if_neg fun h => hx h.1]

theorem single_double (c : α) (t : List α) : single c (double c t) = t := by
  have happend := single_double_append c t []
  have hnil : single c ([] : List α) = [] := rfl
  rwa [List.append_nil, hnil, List.append_nil] at happend

theorem double_eq_nil_iff {c : α} {t : List α} : double c t = [] ↔ t = [] := by
  constructor
  · intro h
    rw [← single_double c t, h]
    rfl
  · rintro rfl
    rfl

end

end Text

/-! ## Numbers as text -/

/-- The decimal digits of a natural number. -/
def decimal (n : Nat) : Text := Nat.toDigits 10 n

/-- An integer in decimal, a minus sign in front when it is negative. -/
def signedDecimal (n : Int) : Text :=
  if n < 0 then '-' :: decimal n.natAbs else decimal n.natAbs

/-- The digit of a number below sixteen, in lower case. -/
def hexDigit (n : Nat) : Char := if n < 10 then Char.ofNat (48 + n) else Char.ofNat (87 + n)

/-- The `width` lowest hexadecimal digits of a number. -/
def hexadecimal : (width : Nat) → Nat → Text
  | 0, _ => []
  | width + 1, n => hexadecimal width (n / 16) ++ [hexDigit (n % 16)]

/-- What holds of the sixteen digits holds of all digits. -/
theorem forall_mem_hexadecimal {P : Char → Prop} (h : ∀ n : Fin 16, P (hexDigit n))
    (width n : Nat) : ∀ c ∈ hexadecimal width n, P c := by
  induction width generalizing n with
  | zero => exact fun c hc => absurd hc List.not_mem_nil
  | succ width ih =>
    rw [hexadecimal, List.forall_mem_append, List.forall_mem_singleton]
    exact ⟨ih _, h ⟨n % 16, Nat.mod_lt _ (by decide)⟩⟩

theorem length_hexadecimal (width n : Nat) : (hexadecimal width n).length = width := by
  induction width generalizing n with
  | zero => rfl
  | succ width ih => simp [hexadecimal, ih]

end Dataflow
