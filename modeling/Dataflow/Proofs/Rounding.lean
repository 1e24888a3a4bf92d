import Dataflow.Number.Shortest
import Mathlib.Algebra.Group.Nat.Defs

/-!
# The value of a decimal

Rounding a quotient to the nearest magnitude depends on the quotient alone, so a factor that the
numerator and the denominator share can be taken out of both (`Magnitude.nearest?_mul`).  Two facts
follow.  A decimal has one value whichever of its zeros are counted as digits and whichever as part
of the power, and the exact expansion of a magnitude reads back as that magnitude.

The computation does not look at a decimal whose power of ten decides the answer alone.
`Magnitude.ofDecimal?_eq_scaled?` says that it would have given the same answer, and only then can
anything be said of all decimals at once.
-/

set_option autoImplicit false

namespace Dataflow

/-! ## Taking a factor out -/

theorem roundHalfEven_mul {k : Nat} (hk : 0 < k) (num den : Nat) :
    roundHalfEven (num * k) (den * k) = roundHalfEven num den := by
  have hquotient : num * k / (den * k) = num / den := Nat.mul_div_mul_right num den hk
  have hrest : num * k % (den * k) = num % den * k := Nat.mul_mod_mul_right k num den
  have hbelow : 2 * (num % den * k) < den * k ↔ 2 * (num % den) < den := by
    rw [← Nat.mul_assoc]
    exact Nat.mul_lt_mul_right hk
  have habove : den * k < 2 * (num % den * k) ↔ den < 2 * (num % den) := by
    rw [← Nat.mul_assoc]
    exact Nat.mul_lt_mul_right hk
  simp only [roundHalfEven, hquotient, hrest, hbelow, habove]

/-- Nothing is rounded where the quotient is a number. -/
theorem roundHalfEven_mul_self {k : Nat} (hk : 0 < k) (n : Nat) : roundHalfEven (n * k) k = n := by
  have hfactor := roundHalfEven_mul hk n 1
  rw [Nat.one_mul] at hfactor
  rw [hfactor]
  simp [roundHalfEven, Nat.mod_one]

namespace Magnitude

theorem nearest?_mul {k : Nat} (hk : 0 < k) (num den : Nat) :
    nearest? (num * k) (den * k) = nearest? num den := by
  simp only [nearest?, Nat.mul_div_mul_right _ _ hk, Nat.mul_right_comm den k,
    roundHalfEven_mul hk]

/-! ## The two ends of the range -/

/-- A magnitude of its own units is not rounded. -/
theorem nearest?_units (m : Magnitude) : nearest? m.units 1 = some m := by
  obtain ⟨mantissa, exponent, hmantissa, hnormal, hexponent⟩ := m
  have hpow : 0 < 2 ^ exponent := Nat.two_pow_pos _
  have hlog : (mantissa * 2 ^ exponent).log2 - 52 = exponent := by
    rcases hnormal with rfl | hnormal
    · have hle : mantissa.log2 ≤ 52 := by
        by_cases hzero : mantissa = 0
        · simp [hzero]
        · exact Nat.le_of_lt_succ ((Nat.log2_lt hzero).2 hmantissa)
      rw [Nat.pow_zero, Nat.mul_one]
      omega
    · have hne : mantissa * 2 ^ exponent ≠ 0 :=
        Nat.mul_ne_zero (by have : 0 < Nat.pow 2 52 := by decide
                            omega) (Nat.ne_of_gt hpow)
      have hlog : (mantissa * 2 ^ exponent).log2 = 52 + exponent := by
        rw [Nat.log2_eq_iff hne, Nat.pow_add, Nat.add_right_comm 52, Nat.pow_add]
        exact ⟨Nat.mul_le_mul_right _ hnormal, Nat.mul_lt_mul_of_pos_right hmantissa hpow⟩
      omega
  have hround : roundHalfEven (mantissa * 2 ^ exponent) (2 ^ exponent) = mantissa :=
    roundHalfEven_mul_self hpow mantissa
  have hne : mantissa ≠ Nat.pow 2 53 := Nat.ne_of_lt hmantissa
  simp only [nearest?, units, Nat.div_one, Nat.one_mul, Nat.pow_eq] at hlog hround ⊢
  rw [hlog, hround, if_neg hne, ofParts?, dif_pos ⟨hmantissa, hnormal, hexponent⟩]

/-- What is less than half a unit is rounded to zero. -/
theorem nearest?_eq_zero {num den : Nat} (h : 2 * num < den) : nearest? num den = some zero := by
  have hquotient : num / den = 0 := Nat.div_eq_of_lt (by omega)
  have hrest : num % den = num := Nat.mod_eq_of_lt (by omega)
  have hround : roundHalfEven num den = 0 := by
    rw [roundHalfEven, hquotient, hrest]
    exact if_pos h
  rw [nearest?, hquotient]
  simp only [Nat.log2_zero, Nat.zero_sub, Nat.pow_eq, Nat.pow_zero, Nat.mul_one, hround]
  rfl

/-- What has too many bits is no magnitude. -/
theorem nearest?_eq_none {num bits : Nat} (hbits : 2098 ≤ bits) (h : 2 ^ bits ≤ num) :
    nearest? num 1 = none := by
  have hne : num ≠ 0 := Nat.ne_of_gt (Nat.lt_of_lt_of_le (Nat.two_pow_pos bits) h)
  have hlog : bits ≤ num.log2 := (Nat.le_log2 hne).2 h
  have hlarge : ∀ mantissa exponent, 2045 < exponent → ofParts? mantissa exponent = none := by
    intro mantissa exponent hexponent
    rw [ofParts?, dif_neg]
    rintro ⟨-, -, hle⟩
    omega
  simp only [nearest?, Nat.div_one]
  split
  · exact hlarge _ _ (by omega)
  · exact hlarge _ _ (by omega)

/-! ## Decimals -/

/-- The magnitude nearest to `units * 10 ^ power` units, computed for every power. -/
def scaled? (units : Nat) (power : Int) : Option Magnitude :=
  if 0 ≤ power then nearest? (units * 10 ^ power.toNat) 1
  else nearest? units (10 ^ (-power).toNat)

/-- A zero may move from the units into the power. -/
theorem scaled?_mul_ten (units : Nat) (power : Int) :
    scaled? (units * 10) power = scaled? units (power + 1) := by
  by_cases hpos : 0 ≤ power
  · have hsucc : (power + 1).toNat = power.toNat + 1 := by omega
    rw [scaled?, scaled?, if_pos hpos, if_pos (by omega), hsucc, Nat.pow_succ', Nat.mul_assoc]
  · obtain ⟨n, hn⟩ : ∃ n : Nat, (-power).toNat = n + 1 := ⟨(-power).toNat - 1, by omega⟩
    have hfactor : scaled? (units * 10) power = nearest? units (10 ^ n) := by
      rw [scaled?, if_neg hpos, hn, Nat.pow_succ, nearest?_mul (by decide)]
    rw [hfactor, scaled?]
    split
    · have hone : n = 0 := by omega
      have hzero : (power + 1).toNat = 0 := by omega
      rw [hone, hzero, Nat.pow_zero, Nat.mul_one]
    · have hpred : (-(power + 1)).toNat = n := by omega
      rw [hpred]

theorem two_pow_le_ten_pow (n : Nat) : 2 ^ (3 * n) ≤ 10 ^ n := by
  rw [Nat.pow_mul]
  exact Nat.pow_le_pow_left (by decide) n

/-- A power above the range leaves no magnitude. -/
theorem scaled?_of_large {scale : Nat} (hscale : 895 ≤ scale) {digits : Nat} (hdigits : digits ≠ 0)
    {power : Int} (hpower : 400 < power) : scaled? (digits * 2 ^ scale) power = none := by
  have hcount : 2098 ≤ scale + 3 * power.toNat := by omega
  have hbits : 2 ^ (scale + 3 * power.toNat) ≤ digits * 2 ^ scale * 10 ^ power.toNat := by
    rw [Nat.pow_add]
    exact Nat.mul_le_mul (Nat.le_mul_of_pos_left _ (Nat.pos_of_ne_zero hdigits))
      (two_pow_le_ten_pow _)
  rw [scaled?, if_pos (by omega), nearest?_eq_none hcount hbits]

/-- A power below the range leaves nothing but zero. -/
theorem scaled?_of_small {scale : Nat} (hscale : scale ≤ 1074) {digits : Nat} {power : Int}
    (hpower : power + digits.log2 < -400) : scaled? (digits * 2 ^ scale) power = some zero := by
  have hbits : 2 * (digits * 2 ^ scale) < 10 ^ (-power).toNat :=
    calc 2 * (digits * 2 ^ scale) = digits * (2 * 2 ^ scale) := Nat.mul_left_comm 2 digits _
      _ = digits * 2 ^ (scale + 1) := by rw [Nat.pow_succ']
      _ < 2 ^ (digits.log2 + 1) * 2 ^ (scale + 1) :=
        Nat.mul_lt_mul_of_pos_right Nat.lt_log2_self (Nat.two_pow_pos _)
      _ = 2 ^ (digits.log2 + 1 + (scale + 1)) := (Nat.pow_add 2 _ _).symm
      _ ≤ 2 ^ (3 * (-power).toNat) := Nat.pow_le_pow_right (by decide) (by omega)
      _ ≤ 10 ^ (-power).toNat := two_pow_le_ten_pow _
  rw [scaled?, if_neg (by omega), nearest?_eq_zero hbits]

/-- The powers that are not computed are those that leave no choice.  The scale is a variable, so
that nothing evaluates its power of two. -/
theorem ofDecimal?_eq_scaled? {scale : Nat} (hscale : scale = 1074) {digits : Nat}
    (hdigits : digits ≠ 0) (power : Int) :
    ofDecimal? digits power = scaled? (digits * 2 ^ scale) power := by
  rw [ofDecimal?, if_neg hdigits, ← hscale]
  by_cases hlarge : 400 < power
  · rw [if_pos hlarge, scaled?_of_large (by omega) hdigits hlarge]
  · rw [if_neg hlarge]
    by_cases hsmall : power + digits.log2 < -400
    · rw [if_pos hsmall, scaled?_of_small (by omega) hsmall]
    · rw [if_neg hsmall]
      rfl

/-- Zeros may move from the digits into the power. -/
theorem ofDecimal?_mul_pow (digits count : Nat) (power : Int) :
    ofDecimal? (digits * 10 ^ count) power = ofDecimal? digits (power + count) := by
  obtain ⟨scale, hscale⟩ : ∃ scale, scale = 1074 := ⟨_, rfl⟩
  by_cases hdigits : digits = 0
  · rw [hdigits, Nat.zero_mul]
    rfl
  · have hne : ∀ n, digits * 10 ^ n ≠ 0 :=
      fun n => Nat.mul_ne_zero hdigits (Nat.ne_of_gt (Nat.pow_pos (by decide)))
    induction count generalizing power with
    | zero => rw [Nat.pow_zero, Nat.mul_one, Int.natCast_zero, Int.add_zero]
    | succ count ih =>
      have hpower : power + 1 + (count : Int) = power + (count + 1 : Nat) := by omega
      rw [ofDecimal?_eq_scaled? hscale (hne _), Nat.pow_succ, ← Nat.mul_assoc,
        Nat.mul_right_comm _ 10, scaled?_mul_ten, ← ofDecimal?_eq_scaled? hscale (hne _), ih,
        hpower]

/-! ## The shortest decimal -/

/-- The only magnitude without bits is zero. -/
theorem eq_zero_of_mantissa {m : Magnitude} (h : m.mantissa = 0) : m = zero := by
  obtain ⟨mantissa, exponent, hmantissa, hnormal, hexponent⟩ := m
  replace h : mantissa = 0 := h
  subst h
  have hleast : exponent = 0 := hnormal.resolve_right (by decide)
  subst hleast
  rfl

theorem scaled?_expansion (m : Magnitude) {scale : Nat} (hscale : 0 < scale) :
    scaled? (m.units * Nat.pow 5 scale * 2 ^ scale) (-scale) = some m := by
  have hfactor := nearest?_mul (Nat.pow_pos (n := scale) (show 0 < 10 by decide)) m.units 1
  have hten : m.units * Nat.pow 5 scale * 2 ^ scale = m.units * 10 ^ scale :=
    (Nat.mul_assoc _ _ _).trans (congrArg _ (Nat.mul_pow 5 2 scale).symm)
  have hpower : (-(-(scale : Int))).toNat = scale := by omega
  rw [Nat.one_mul, nearest?_units] at hfactor
  rw [hten, scaled?, if_neg (by omega), hpower, hfactor]

/-- The exact expansion reads back. -/
theorem ofDecimal?_expansion (m : Magnitude) {scale : Nat} (hscale : scale = 1074) :
    ofDecimal? (m.expansion scale).1 (m.expansion scale).2 = some m := by
  by_cases hzero : m.mantissa = 0
  · obtain rfl := eq_zero_of_mantissa hzero
    have hdigits : (zero.expansion scale).1 = 0 := Nat.zero_mul _
    rw [hdigits]
    rfl
  · have hunits : m.units ≠ 0 := Nat.mul_ne_zero hzero (Nat.ne_of_gt (Nat.two_pow_pos _))
    have hpow : Nat.pow 5 scale ≠ 0 := Nat.ne_of_gt (Nat.pow_pos (by decide))
    rw [expansion, ofDecimal?_eq_scaled? hscale (Nat.mul_ne_zero hunits hpow),
      scaled?_expansion m (by omega)]

/-- Of two candidates the one that is taken has passed. -/
theorem passes_of_choice {α : Type} (passes : α → Bool) {a b c : α}
    (h : (if passes a then some a else if passes b then some b else none) = some c) :
    passes c = true := by
  by_cases ha : passes a = true
  · rw [if_pos ha] at h
    exact Option.some.inj h ▸ ha
  · rw [if_neg ha] at h
    by_cases hb : passes b = true
    · rw [if_pos hb] at h
      exact Option.some.inj h ▸ hb
    · rw [if_neg hb] at h
      cases h

/-- What is taken from a grid has been read back. -/
theorem ofDecimal?_of_onGrid? {m : Magnitude} {power : Int} {digits : Nat}
    (h : m.onGrid? power = some digits) : ofDecimal? digits power = some m := by
  rw [onGrid?] at h
  exact eq_of_beq (passes_of_choice (fun n => m.readsBack n power) h)

theorem ofDecimal?_shortestFrom (m : Magnitude) (tries count : Nat) :
    ofDecimal? (m.shortestFrom tries count).1 (m.shortestFrom tries count).2 = some m := by
  induction tries generalizing count with
  | zero => exact ofDecimal?_expansion m rfl
  | succ tries ih =>
    rw [shortestFrom]
    cases hgrid : m.onGrid? (m.leadingPower - count + 1) with
    | some digits => exact ofDecimal?_of_onGrid? hgrid
    | none => exact ih (count + 1)

/-- **The shortest decimal reads back.** -/
theorem ofDecimal?_shortest (m : Magnitude) :
    ofDecimal? m.shortest.1 m.shortest.2 = some m := by
  rw [shortest]
  split
  · rename_i hzero
    rw [eq_zero_of_mantissa hzero]
    rfl
  · exact ofDecimal?_shortestFrom m 17 1

/-- Only zero is written with the digit zero. -/
theorem shortest_eq_zero {m : Magnitude} (h : m.shortest.1 = 0) : m.shortest = (0, 0) := by
  have hreads := ofDecimal?_shortest m
  rw [h, ofDecimal?, if_pos rfl] at hreads
  rw [shortest, if_pos (Option.some.inj hreads ▸ rfl)]

end Magnitude
end Dataflow
