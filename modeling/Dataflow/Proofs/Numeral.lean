import Dataflow.Json.Printer
import Dataflow.Json.Reader
import Dataflow.Proofs.Blank
import Dataflow.Proofs.Rounding

/-!
# Numbers read back

A number is a whole part, a fraction and an exponent, of which the last two may be missing.  The
reader takes each of them as far as it goes, so a number that is written reads back if what stands
behind it cannot go on with it, `EndsNumber`.  There are three forms, and `readUnsigned?` has a
lemma for each; where the point of a decimal is put decides which of them it is.

For numbers with a fraction or an exponent the value that is read is that of the significant digits
with a power of ten, and the shortest decimal of a value reads back by
`Magnitude.ofDecimal?_shortest`.
-/

set_option autoImplicit false

namespace Dataflow

/-! ## Decimal digits -/

theorem decimal_eq (n : Nat) :
    decimal n =
      if n < 10 then [Nat.digitChar n] else decimal (n / 10) ++ [Nat.digitChar (n % 10)] :=
  Nat.toDigits_eq_if (by decide)

/-- The last digit and those before it. -/
theorem decimal_cases (n : Nat) :
    (n < 10 ∧ decimal n = [Nat.digitChar n]) ∨
      (10 ≤ n ∧ decimal n = decimal (n / 10) ++ [Nat.digitChar (n % 10)]) := by
  by_cases h : n < 10
  · exact .inl ⟨h, (decimal_eq n).trans (if_pos h)⟩
  · exact .inr ⟨Nat.le_of_not_lt h, (decimal_eq n).trans (if_neg h)⟩

namespace Json

theorem toNat_digitChar {n : Nat} (h : n < 10) : (Nat.digitChar n).toNat = 48 + n :=
  Nat.toNat_digitChar_of_lt_ten h

theorem isDigit_digitChar {n : Nat} (h : n < 10) : isDigit (Nat.digitChar n) = true := by
  simp only [isDigit, toNat_digitChar h, Bool.and_eq_true, decide_eq_true_eq]
  omega

/-- A text of digits only. -/
def AllDigits (t : Text) : Prop := ∀ c ∈ t, isDigit c = true

theorem AllDigits.append {s t : Text} (hs : AllDigits s) (ht : AllDigits t) :
    AllDigits (s ++ t) := fun c hc => (List.mem_append.1 hc).elim (hs c) (ht c)

theorem allDigits_zeros (count : Nat) : AllDigits (List.replicate count '0') := by
  intro c hc
  rw [List.eq_of_mem_replicate hc]
  rfl

theorem allDigits_decimal (n : Nat) : AllDigits (decimal n) := by
  induction n using Nat.strongRecOn with
  | _ n ih =>
    rcases decimal_cases n with ⟨hn, heq⟩ | ⟨hn, heq⟩ <;> rw [heq]
    · simpa [AllDigits] using isDigit_digitChar hn
    · refine (ih (n / 10) (by omega)).append ?_
      simpa [AllDigits] using isDigit_digitChar (n := n % 10) (by omega)

theorem decimal_ne_nil (n : Nat) : decimal n ≠ [] := by
  rcases decimal_cases n with ⟨-, heq⟩ | ⟨-, heq⟩ <;> simp [heq]

/-- Only zero begins with a zero. -/
theorem head?_decimal {n : Nat} (h : 0 < n) : (decimal n).head? ≠ some '0' := by
  induction n using Nat.strongRecOn with
  | _ n ih =>
    rcases decimal_cases n with ⟨hn, heq⟩ | ⟨hn, heq⟩
    · intro hzero
      rw [heq] at hzero
      have := congrArg Char.toNat (Option.some.inj hzero)
      rw [toNat_digitChar hn] at this
      simp only [Char.reduceToNat] at this
      omega
    · have hne := decimal_ne_nil (n / 10)
      rw [heq, List.head?_append, List.head?_eq_some_head hne, Option.some_or,
        ← List.head?_eq_some_head hne]
      exact ih (n / 10) (by omega) (by omega)

/-! ## The value of digits -/

theorem digitsValue_append (s t : Text) :
    digitsValue (s ++ t) = digitsValue s * 10 ^ t.length + digitsValue t := by
  have hfold : ∀ (t : Text) (n : Nat),
      t.foldl (fun n c => n * 10 + (c.toNat - 48)) n = n * 10 ^ t.length + digitsValue t := by
    intro t
    induction t with
    | nil => intro n; simp [digitsValue]
    | cons c t ih =>
      intro n
      simp only [digitsValue, List.foldl_cons, List.length_cons, Nat.zero_mul, Nat.zero_add]
      rw [ih, ih (c.toNat - 48), Nat.pow_succ']
      have hdistrib : (n * 10 + (c.toNat - 48)) * 10 ^ t.length =
          n * (10 * 10 ^ t.length) + (c.toNat - 48) * 10 ^ t.length := by
        rw [Nat.add_mul, Nat.mul_assoc]
      omega
  rw [digitsValue, List.foldl_append, hfold t]
  rfl

theorem digitsValue_singleton {n : Nat} (h : n < 10) : digitsValue [Nat.digitChar n] = n := by
  simp only [digitsValue, List.foldl_cons, List.foldl_nil, toNat_digitChar h]
  omega

/-- **The digits of a number denote it.** -/
theorem digitsValue_decimal (n : Nat) : digitsValue (decimal n) = n := by
  induction n using Nat.strongRecOn with
  | _ n ih =>
    rcases decimal_cases n with ⟨hn, heq⟩ | ⟨hn, heq⟩ <;> rw [heq]
    · exact digitsValue_singleton hn
    · rw [digitsValue_append, ih (n / 10) (by omega), digitsValue_singleton (by omega)]
      simp only [List.length_singleton]
      omega

theorem digitsValue_zeros (count : Nat) : digitsValue (List.replicate count '0') = 0 := by
  induction count with
  | zero => rfl
  | succ count ih => rw [List.replicate_succ', digitsValue_append, ih]; rfl

theorem digitsValue_zeros_append (count : Nat) (t : Text) :
    digitsValue (List.replicate count '0' ++ t) = digitsValue t := by
  rw [digitsValue_append, digitsValue_zeros, Nat.zero_mul, Nat.zero_add]

theorem digitsValue_append_zeros (t : Text) (count : Nat) :
    digitsValue (t ++ List.replicate count '0') = digitsValue t * 10 ^ count := by
  rw [digitsValue_append, digitsValue_zeros, List.length_replicate, Nat.add_zero]

theorem digitsValue_lt {t : Text} (ht : AllDigits t) : digitsValue t < 10 ^ t.length := by
  induction t with
  | nil => decide
  | cons c t ih =>
    have htail := ih fun x hx => ht x (List.mem_cons_of_mem _ hx)
    have hhead := ht c (by simp)
    simp only [isDigit, Bool.and_eq_true, decide_eq_true_eq] at hhead
    have hvalue : digitsValue [c] = c.toNat - 48 := by simp [digitsValue]
    have hlead : digitsValue [c] * 10 ^ t.length ≤ 9 * 10 ^ t.length :=
      Nat.mul_le_mul_right _ (by omega)
    have hsplit := digitsValue_append [c] t
    rw [List.singleton_append] at hsplit
    rw [hsplit, List.length_cons, Nat.pow_succ']
    omega

/-- A number has no more digits than any text of digits that denotes it. -/
theorem length_decimal_digitsValue {t : Text} (ht : AllDigits t) (hne : t ≠ []) :
    (decimal (digitsValue t)).length ≤ t.length := by
  rw [decimal, Nat.length_toDigits_le_iff (by decide) (List.length_pos_iff.2 hne)]
  exact digitsValue_lt ht

/-! ## The parts of a number -/

/-- What may be the whole part of a number: digits without a leading zero, or zero. -/
def IsWhole (t : Text) : Prop :=
  t = ['0'] ∨ ∃ c ds, t = c :: ds ∧ c ≠ '0' ∧ AllDigits t

/-- What does not go on with digits. -/
def EndsDigits (rest : Text) : Prop := ∀ c ∈ rest.head?, isDigit c = false

/-- What does not go on with a number. -/
structure EndsNumber (rest : Text) : Prop where
  /-- No digit. -/
  digits : EndsDigits rest
  /-- No fraction. -/
  point : rest.head? ≠ some '.'
  /-- No exponent. -/
  exponent : rest.head? ≠ some 'e' ∧ rest.head? ≠ some 'E'

theorem endsDigits_cons {c : Char} (rest : Text) (h : isDigit c = false) :
    EndsDigits (c :: rest) := by
  intro x hx
  rwa [← Option.some.inj hx]

theorem takeWhile_digits {s rest : Text} (hs : AllDigits s) (hrest : EndsDigits rest) :
    (s ++ rest).takeWhile isDigit = s ∧ (s ++ rest).dropWhile isDigit = rest := by
  have hstop : rest.takeWhile isDigit = [] ∧ rest.dropWhile isDigit = rest := by
    cases rest with
    | nil => exact ⟨rfl, rfl⟩
    | cons c rest =>
      have hc := hrest c rfl
      simp [hc]
  rw [List.takeWhile_append_of_pos hs, List.dropWhile_append_of_pos hs, hstop.1, hstop.2,
    List.append_nil]
  exact ⟨rfl, rfl⟩

theorem isWhole_decimal (n : Nat) : IsWhole (decimal n) := by
  by_cases hn : n = 0
  · exact .inl (hn ▸ rfl)
  · obtain ⟨c, ds, heq⟩ := List.exists_cons_of_ne_nil (decimal_ne_nil n)
    refine .inr ⟨c, ds, heq, fun hc => ?_, allDigits_decimal n⟩
    apply head?_decimal (Nat.pos_of_ne_zero hn)
    rw [heq, hc]
    rfl

theorem wholeDigits?_append {t rest : Text} (ht : IsWhole t) (hrest : EndsDigits rest) :
    wholeDigits? (t ++ rest) = some (t, rest) := by
  rcases ht with rfl | ⟨c, ds, rfl, hne, hdigits⟩
  · rfl
  · have hc : isDigit c = true := hdigits c (by simp)
    obtain ⟨htake, hdrop⟩ :=
      takeWhile_digits (fun x hx => hdigits x (List.mem_cons_of_mem _ hx)) hrest
    rw [List.cons_append, wholeDigits?, if_pos hc, htake, hdrop]
    exact fun h => hne h

theorem fractionDigits_append {t rest : Text} (ht : AllDigits t) (hne : t ≠ [])
    (hrest : EndsDigits rest) : fractionDigits ('.' :: (t ++ rest)) = (t, rest) := by
  obtain ⟨c, ds, rfl⟩ := List.exists_cons_of_ne_nil hne
  have hc : isDigit c = true := ht c (by simp)
  obtain ⟨htake, hdrop⟩ :=
    takeWhile_digits (fun x hx => ht x (List.mem_cons_of_mem _ hx)) hrest
  rw [List.cons_append, fractionDigits]
  simp only [hc, if_true, htake, hdrop]

theorem fractionDigits_of_ne {rest : Text} (h : rest.head? ≠ some '.') :
    fractionDigits rest = ([], rest) := by
  cases rest with
  | nil => rfl
  | cons c rest =>
    have hc : c ≠ '.' := fun hc => h (hc ▸ rfl)
    simp [fractionDigits, hc]

theorem exponent?_of_ne {rest : Text} (h : rest.head? ≠ some 'e' ∧ rest.head? ≠ some 'E') :
    exponent? rest = none := by
  cases rest with
  | nil => rfl
  | cons c rest =>
    have hsmall : c ≠ 'e' := fun hc => h.1 (hc ▸ rfl)
    have hlarge : c ≠ 'E' := fun hc => h.2 (hc ▸ rfl)
    simp [exponent?, hsmall, hlarge]

/-- The digits of an exponent denote it, a leading zero or not. -/
theorem exponent?_exponentText (power : Int) {rest : Text} (hrest : EndsDigits rest) :
    exponent? ('e' :: (exponentText power ++ rest)) = some (power, rest) := by
  have hdigits : ∀ {ds : Text}, AllDigits ds → ds ≠ [] → digitsValue ds = power.natAbs →
      exponent? ('e' :: ((if power < 0 then '-' else '+') :: ds ++ rest)) = some (power, rest) := by
    intro ds hall hne hvalue
    obtain ⟨htake, hdrop⟩ := takeWhile_digits hall hrest
    have hempty : ds.isEmpty = false := List.isEmpty_eq_false_iff.2 hne
    split
    · have hpower : -(power.natAbs : Int) = power := by omega
      simp only [exponent?, List.cons_append, htake, hdrop, hempty, Bool.false_eq_true, if_false,
        if_true, hvalue, hpower]
    · have hpower : (power.natAbs : Int) = power := by omega
      simp only [exponent?, List.cons_append, htake, hdrop, hempty, Bool.false_eq_true, if_false,
        hvalue, hpower]
  rw [exponentText]
  by_cases hshort : (decimal power.natAbs).length < 2
  · rw [if_pos hshort]
    refine hdigits ?_ (by simp) ?_
    · exact (allDigits_zeros 1).append (allDigits_decimal _)
    · exact (digitsValue_zeros_append 1 _).trans (digitsValue_decimal _)
  · rw [if_neg hshort]
    exact hdigits (allDigits_decimal _) (decimal_ne_nil _) (digitsValue_decimal _)

/-! ## The three forms of a number -/

section

variable (negative : Bool) {whole fraction rest : Text} (hwhole : IsWhole whole)
include hwhole

/-- Digits alone. -/
theorem readUnsigned?_integer (hrest : EndsNumber rest) :
    readUnsigned? negative (whole ++ rest) = some (numberOf negative whole [] none, rest) := by
  rw [readUnsigned?, wholeDigits?_append hwhole hrest.digits]
  simp only [fractionDigits_of_ne hrest.point, exponent?_of_ne hrest.exponent]

/-- Digits on both sides of a point. -/
theorem readUnsigned?_fraction (hfraction : AllDigits fraction) (hne : fraction ≠ [])
    (hrest : EndsNumber rest) :
    readUnsigned? negative (whole ++ '.' :: (fraction ++ rest)) =
      some (.ok (.float (.ofDecimal negative (digitsValue (whole ++ fraction))
        (-fraction.length))), rest) := by
  obtain ⟨c, ds, rfl⟩ := List.exists_cons_of_ne_nil hne
  rw [readUnsigned?, wholeDigits?_append hwhole (endsDigits_cons _ rfl)]
  simp only [fractionDigits_append hfraction hne hrest.digits, exponent?_of_ne hrest.exponent]
  simp [numberOf]

/-- Digits and an exponent. -/
theorem readUnsigned?_exponent (power : Int) (hrest : EndsDigits rest) :
    readUnsigned? negative (whole ++ 'e' :: (exponentText power ++ rest)) =
      some (.ok (.float (.ofDecimal negative (digitsValue whole) power)), rest) := by
  rw [readUnsigned?, wholeDigits?_append hwhole (endsDigits_cons _ rfl)]
  have hpoint : fractionDigits ('e' :: (exponentText power ++ rest)) =
      ([], 'e' :: (exponentText power ++ rest)) := fractionDigits_of_ne (by simp)
  simp only [hpoint, exponent?_exponentText power hrest]
  simp [numberOf]

/-- Digits on both sides of a point, and an exponent. -/
theorem readUnsigned?_fraction_exponent (hfraction : AllDigits fraction) (hne : fraction ≠ [])
    (power : Int) (hrest : EndsDigits rest) :
    readUnsigned? negative (whole ++ '.' :: (fraction ++ 'e' :: (exponentText power ++ rest))) =
      some (.ok (.float (.ofDecimal negative (digitsValue (whole ++ fraction))
        (power - fraction.length))), rest) := by
  obtain ⟨c, ds, rfl⟩ := List.exists_cons_of_ne_nil hne
  rw [readUnsigned?, wholeDigits?_append hwhole (endsDigits_cons _ rfl)]
  have hends : EndsDigits ('e' :: (exponentText power ++ rest)) := endsDigits_cons _ rfl
  simp only [fractionDigits_append hfraction hne hends, exponent?_exponentText power hrest]
  simp [numberOf]

end

/-! ## A decimal and its point -/

theorem ofDecimal_mul_pow (negative : Bool) (digits count : Nat) (power : Int) :
    Double.ofDecimal negative (digits * 10 ^ count) power =
      Double.ofDecimal negative digits (power + count) := by
  rw [Double.ofDecimal, Magnitude.ofDecimal?_mul_pow]
  rfl

/-- The digits of a number that is not zero, without the zeros at their end. -/
theorem exists_significant {n : Nat} (hn : 0 < n) :
    ∃ c more count, decimal n = (c :: more) ++ List.replicate count '0' ∧ c ≠ '0' ∧
      dropEndWhile (· == '0') (decimal n) = c :: more := by
  obtain ⟨tail, htail, hzeros⟩ := dropEndWhile_append_exists (· == '0') (decimal n)
  have hreplicate : tail = List.replicate tail.length '0' :=
    List.eq_replicate_of_mem fun x hx => eq_of_beq (hzeros x hx)
  cases hsignificant : dropEndWhile (· == '0') (decimal n) with
  | nil =>
    rw [hsignificant, List.nil_append, hreplicate] at htail
    have hvalue := digitsValue_decimal n
    rw [htail, digitsValue_zeros] at hvalue
    omega
  | cons c more =>
    rw [hsignificant, hreplicate] at htail
    refine ⟨c, more, tail.length, htail, fun hc => head?_decimal hn ?_, rfl⟩
    rw [htail, hc]
    rfl

section

variable (negative : Bool) {c : Char} {more rest : Text} {last : Int}

/-- The significant digits behind a point and zeros. -/
theorem readUnsigned?_belowOne (hall : AllDigits (c :: more)) (hneg : last + more.length < 0)
    (hrest : EndsNumber rest) :
    readUnsigned? negative
        (text "0." ++ List.replicate (-(last + more.length) - 1).toNat '0' ++ (c :: more) ++ rest) =
      some (.ok (.float (.ofDecimal negative (digitsValue (c :: more)) last)), rest) := by
  obtain ⟨zeros, hzeros⟩ : ∃ n : Nat, n = (-(last + more.length) - 1).toNat := ⟨_, rfl⟩
  have hread := readUnsigned?_fraction negative (.inl rfl) ((allDigits_zeros zeros).append hall)
    (by simp) hrest
  have hvalue : digitsValue (['0'] ++ (List.replicate zeros '0' ++ c :: more)) =
      digitsValue (c :: more) :=
    (digitsValue_zeros_append 1 _).trans (digitsValue_zeros_append zeros _)
  have hpower : -((List.replicate zeros '0' ++ c :: more).length : Int) = last := by
    simp only [List.length_append, List.length_replicate, List.length_cons]
    omega
  rw [hvalue, hpower] at hread
  rw [← hzeros, ← hread]
  simp [text]

/-- The significant digits with zeros and the point behind them. -/
theorem readUnsigned?_zeros_point (hne : c ≠ '0') (hall : AllDigits (c :: more)) (zeros : Nat)
    (hlast : last = zeros) (hrest : EndsNumber rest) :
    readUnsigned? negative ((c :: more) ++ List.replicate zeros '0' ++ '.' :: ('0' :: rest)) =
      some (.ok (.float (.ofDecimal negative (digitsValue (c :: more)) last)), rest) := by
  have hwhole : IsWhole ((c :: more) ++ List.replicate zeros '0') :=
    .inr ⟨c, _, rfl, hne, hall.append (allDigits_zeros zeros)⟩
  have hread := readUnsigned?_fraction negative hwhole (allDigits_zeros 1) (by simp) hrest
  have hvalue : digitsValue ((c :: more) ++ List.replicate zeros '0' ++ List.replicate 1 '0') =
      digitsValue (c :: more) * 10 ^ (zeros + 1) := by
    rw [List.append_assoc, List.replicate_append_replicate, digitsValue_append_zeros]
  have hpower : -((List.replicate 1 '0').length : Int) + (zeros + 1 : Nat) = last := by
    simp only [List.length_replicate]
    omega
  rwa [hvalue, ofDecimal_mul_pow, hpower] at hread

/-- The significant digits with the point between them. -/
theorem readUnsigned?_inner_point (hne : c ≠ '0') (hall : AllDigits (c :: more)) {count : Nat}
    (hcount : count < more.length) (hlast : last = count - more.length)
    (hrest : EndsNumber rest) :
    readUnsigned? negative
        ((c :: more).take (count + 1) ++ '.' :: ((c :: more).drop (count + 1) ++ rest)) =
      some (.ok (.float (.ofDecimal negative (digitsValue (c :: more)) last)), rest) := by
  have hwhole : IsWhole ((c :: more).take (count + 1)) :=
    .inr ⟨c, _, rfl, hne, fun x hx => hall x (List.mem_of_mem_take hx)⟩
  have hfraction : (c :: more).drop (count + 1) ≠ [] := by
    rw [Ne, List.drop_eq_nil_iff, List.length_cons]
    omega
  have hread := readUnsigned?_fraction negative hwhole
    (fun x hx => hall x (List.mem_of_mem_drop hx)) hfraction hrest
  have hpower : -(((c :: more).drop (count + 1)).length : Int) = last := by
    simp only [List.length_drop, List.length_cons]
    omega
  rwa [List.take_append_drop, hpower] at hread

/-- The significant digits with the point between them or behind them. -/
theorem readUnsigned?_positional (hne : c ≠ '0') (hall : AllDigits (c :: more))
    (hpos : 0 ≤ last + more.length) (hrest : EndsNumber rest) :
    readUnsigned? negative
        ((c :: more).take ((last + more.length).toNat + 1)
          ++ List.replicate ((last + more.length).toNat + 1 - (c :: more).length) '0' ++ ['.']
          ++ (if ((c :: more).drop ((last + more.length).toNat + 1)).isEmpty then ['0']
              else (c :: more).drop ((last + more.length).toNat + 1)) ++ rest) =
      some (.ok (.float (.ofDecimal negative (digitsValue (c :: more)) last)), rest) := by
  obtain ⟨count, hcount⟩ : ∃ n : Nat, n = (last + more.length).toNat := ⟨_, rfl⟩
  rw [← hcount]
  by_cases hshort : more.length ≤ count
  · have hdrop : (c :: more).drop (count + 1) = [] := List.drop_eq_nil_of_le (by simp; omega)
    have htake : (c :: more).take (count + 1) = c :: more :=
      List.take_of_length_le (by simp; omega)
    have hlast : last = (count + 1 - (c :: more).length : Nat) := by
      rw [List.length_cons]
      omega
    have hread := readUnsigned?_zeros_point negative hne hall _ hlast hrest
    rw [hdrop, htake, ← hread]
    simp
  · have hfraction : (c :: more).drop (count + 1) ≠ [] := by
      rw [Ne, List.drop_eq_nil_iff, List.length_cons]
      omega
    have hcut : count + 1 - (c :: more).length = 0 := by
      simp only [List.length_cons]
      omega
    have hlast : last = (count : Int) - more.length := by omega
    have hread := readUnsigned?_inner_point negative hne hall (Nat.lt_of_not_le hshort) hlast hrest
    rw [if_neg (by simpa using hfraction), hcut, ← hread]
    simp

end

/-- **A decimal reads back wherever its point is put.** -/
theorem readUnsigned?_layOut (style : FloatStyle) (negative : Bool) {digits : Nat}
    (hdigits : 0 < digits) (power : Int) {rest : Text} (hrest : EndsNumber rest) :
    readUnsigned? negative (style.layOut digits power ++ rest) =
      some (.ok (.float (.ofDecimal negative digits power)), rest) := by
  obtain ⟨c, more, count, hdecimal, hne, hsignificant⟩ := exists_significant hdigits
  have hall : AllDigits (c :: more) := fun x hx =>
    allDigits_decimal digits x (hdecimal ▸ List.mem_append_left _ hx)
  have hlength : ((decimal digits).length : Int) = more.length + 1 + count := by
    rw [hdecimal]
    simp only [List.length_append, List.length_cons, List.length_replicate]
    omega
  -- the value is that of the significant digits, whose last one has this power
  obtain ⟨last, hlast⟩ : ∃ last : Int, last = power + count := ⟨_, rfl⟩
  have hvalue : Double.ofDecimal negative digits power =
      Double.ofDecimal negative (digitsValue (c :: more)) last := by
    rw [hlast, ← ofDecimal_mul_pow, ← digitsValue_append_zeros, ← hdecimal, digitsValue_decimal]
  have hlead : power + (decimal digits).length - 1 = last + more.length := by omega
  have hstrip : ((decimal digits).reverse.dropWhile (· == '0')).reverse = c :: more := hsignificant
  rw [hvalue, FloatStyle.layOut, if_neg (Nat.ne_of_gt hdigits), hstrip, hlead]
  simp only
  split
  · split
    · rename_i hneg
      exact readUnsigned?_belowOne negative hall hneg hrest
    · rename_i hpos
      exact readUnsigned?_positional negative hne hall (by omega) hrest
  · have hwhole : IsWhole [c] := .inr ⟨c, [], rfl, hne, fun x hx => hall x (by simp_all)⟩
    cases more with
    | nil =>
      have hzero : last + (List.length ([] : Text) : Int) = last := Int.add_zero last
      rw [hzero]
      exact readUnsigned?_exponent negative hwhole last hrest.digits
    | cons d more =>
      have hread := readUnsigned?_fraction_exponent negative hwhole
        (fun x hx => hall x (List.mem_cons_of_mem c hx)) (by simp)
        (last + (d :: more).length) hrest.digits
      rw [Int.add_sub_cancel] at hread
      rw [← List.singleton_append, ← hread]
      simp

/-! ## Numbers as values -/

/-- No word begins as a number does. -/
theorem find?_words {c : Char} (hc : isDigit c = true) (t : Text) :
    (words.find? fun w => w.1.isPrefixOf (c :: t)) = none ∧
      (words.find? fun w => w.1.isPrefixOf ('-' :: c :: t)) = none := by
  have hne : ∀ x : Char, isDigit x = false → x ≠ c := by
    rintro x hx rfl
    rw [hx] at hc
    cases hc
  simp [words, text, hne 'n' rfl, hne 't' rfl, hne 'f' rfl, hne 'N' rfl, hne 'I' rfl, hne '-' rfl]

/-- What is read as a number begins with a digit. -/
theorem exists_digit_of_readUnsigned? {negative : Bool} {t : Text} {r : Except Halt Json × Text}
    (h : readUnsigned? negative t = some r) : ∃ c s, t = c :: s ∧ isDigit c = true := by
  cases t with
  | nil => cases h
  | cons c t =>
    refine ⟨c, t, rfl, ?_⟩
    by_cases hc : isDigit c = true
    · exact hc
    · have hzero : c ≠ '0' := by
        rintro rfl
        exact hc rfl
      have hnone : wholeDigits? (c :: t) = none := by
        rw [wholeDigits?, if_neg hc]
        exact fun h => hzero h
      rw [readUnsigned?, hnone] at h
      cases h

/-- What is read as a number, with or without a sign, is read as a value. -/
theorem readScalar_signed (negative : Bool) {t rest : Text} {value : Json}
    (hread : readUnsigned? negative t = some (.ok value, rest)) :
    readScalar ((if negative then ['-'] else []) ++ t) = .ok (value, rest) := by
  obtain ⟨c, s, rfl, hc⟩ := exists_digit_of_readUnsigned? hread
  obtain ⟨hplain, hminus⟩ := find?_words hc s
  cases negative with
  | true =>
    have hnumber : readNumber? ('-' :: c :: s) = some (.ok value, rest) := hread
    simp only [if_true, List.singleton_append, readScalar, hminus, hnumber]
  | false =>
    have hsign : c ≠ '-' := by
      rintro rfl
      cases hc
    have hnumber : readNumber? (c :: s) = some (.ok value, rest) := by
      rw [readNumber?, hread]
      exact fun _ h => hsign (List.cons.inj h).1
    simp only [Bool.false_eq_true, if_false, List.nil_append, readScalar, hplain, hnumber]

/-- **An integer reads back**, unless it has more digits than are read. -/
theorem readScalar_signedDecimal {n : Int} (hn : (decimal n.natAbs).length ≤ digitLimit)
    {rest : Text} (hrest : EndsNumber rest) :
    readScalar (signedDecimal n ++ rest) = .ok (.int n, rest) := by
  have hread := fun negative =>
    readUnsigned?_integer negative (isWhole_decimal n.natAbs) hrest
  have hlimit : ¬ digitLimit < (decimal n.natAbs).length := Nat.not_lt_of_le hn
  simp only [numberOf, if_neg hlimit, digitsValue_decimal] at hread
  rw [signedDecimal]
  split
  · rename_i hneg
    have hvalue : -(n.natAbs : Int) = n := by omega
    have hminus := readScalar_signed true (hread true)
    rw [if_pos rfl, if_pos rfl, hvalue] at hminus
    exact hminus
  · rename_i hpos
    have hvalue : (n.natAbs : Int) = n := by omega
    have hplain := readScalar_signed false (hread false)
    rw [if_neg Bool.false_ne_true, if_neg Bool.false_ne_true, hvalue] at hplain
    exact hplain

/-- **A floating-point number reads back.** -/
theorem readScalar_render (x : Double) {rest : Text} (hrest : EndsNumber rest) :
    readScalar (x.render numberStyle ++ rest) = .ok (.float x, rest) := by
  cases x with
  | nan => rfl
  | infinite negative => cases negative <;> rfl
  | finite negative m =>
    rw [Double.render, List.append_assoc]
    refine readScalar_signed negative ?_
    have hvalue := Magnitude.ofDecimal?_shortest m
    by_cases hzero : m.shortest.1 = 0
    · have hnone : ∀ power, Magnitude.ofDecimal? 0 power = some .zero := fun power => if_pos rfl
      have hdigits : digitsValue (['0'] ++ List.replicate 1 '0') = 0 := rfl
      have hread := readUnsigned?_fraction negative (.inl rfl) (allDigits_zeros 1) (by simp) hrest
      rw [hzero, hnone] at hvalue
      rw [hdigits, Double.ofDecimal, hnone, Option.some.inj hvalue] at hread
      rw [Magnitude.shortest_eq_zero hzero]
      exact hread
    · rw [readUnsigned?_layOut _ _ (Nat.pos_of_ne_zero hzero) _ hrest, Double.ofDecimal, hvalue]

end Json
end Dataflow
