/-!
# Binary floating-point numbers

A number with a fraction or an exponent is kept as the nearest binary64 value.  Such a `Double` is
not a number, an infinity, or a sign with a `Magnitude`: a mantissa below 2^53 times a power of two.
A magnitude carries the proof that its mantissa is normal, so equal values are equal magnitudes.

All arithmetic here is exact on natural numbers; magnitudes are counted in units of the least
positive value, 2^-1074.  There is one place that rounds, `Magnitude.nearest?`, and decimals come to
it as quotients.
-/

set_option autoImplicit false

namespace Dataflow

/-- A nonnegative binary64 value, `mantissa * 2 ^ exponent` units of 2^-1074. -/
structure Magnitude where
  /-- The significant bits. -/
  mantissa : Nat
  /-- The power of two, in units of 2^-1074. -/
  exponent : Nat
  /-- There are at most 53 significant bits. -/
  mantissa_lt : mantissa < Nat.pow 2 53
  /-- There are exactly 53 of them unless the exponent is the least. -/
  normal : exponent = 0 ∨ Nat.pow 2 52 ≤ mantissa
  /-- The greatest exponent. -/
  exponent_le : exponent ≤ 2045
deriving DecidableEq

/-- The quotient rounded to the nearest natural number, a half to the even one. -/
def roundHalfEven (num den : Nat) : Nat :=
  let quotient := num / den
  let rest := num % den
  if 2 * rest < den then quotient
  else if den < 2 * rest then quotient + 1
  else quotient + quotient % 2

namespace Magnitude

/-- The magnitude zero. -/
def zero : Magnitude := ⟨0, 0, by decide, .inl rfl, by decide⟩

/-- The magnitude of a mantissa and an exponent that fit. -/
def ofParts? (mantissa exponent : Nat) : Option Magnitude :=
  if h : mantissa < Nat.pow 2 53 ∧ (exponent = 0 ∨ Nat.pow 2 52 ≤ mantissa) ∧ exponent ≤ 2045 then
    some ⟨mantissa, exponent, h.1, h.2.1, h.2.2⟩
  else none

/-- The magnitude in units of 2^-1074. -/
def units (m : Magnitude) : Nat := m.mantissa * Nat.pow 2 m.exponent

/-- The magnitude nearest to `num / den` units, a half going to the even mantissa, and none when
that is too large. -/
def nearest? (num den : Nat) : Option Magnitude :=
  let exponent := (num / den).log2 - 52
  let mantissa := roundHalfEven num (den * Nat.pow 2 exponent)
  if mantissa = Nat.pow 2 53 then ofParts? (Nat.pow 2 52) (exponent + 1)
  else ofParts? mantissa exponent

/-- The magnitude nearest to `digits * 10 ^ power`, and none when that is too large.  Powers of ten
that decide the answer alone are not computed. -/
def ofDecimal? (digits : Nat) (power : Int) : Option Magnitude :=
  if digits = 0 then some zero
  else if 400 < power then none
  else if power + digits.log2 < -400 then some zero
  else
    let scaled := digits * Nat.pow 2 1074
    if 0 ≤ power then nearest? (scaled * Nat.pow 10 power.toNat) 1
    else nearest? scaled (Nat.pow 10 (-power).toNat)

end Magnitude

/-- A binary64 value. -/
inductive Double where
  /-- Not a number. -/
  | nan
  /-- An infinity. -/
  | infinite (negative : Bool)
  /-- A number with its sign, which zero has too. -/
  | finite (negative : Bool) (magnitude : Magnitude)
deriving DecidableEq

namespace Double

/-- The value nearest to `digits * 10 ^ power` with a sign. -/
def ofDecimal (negative : Bool) (digits : Nat) (power : Int) : Double :=
  match Magnitude.ofDecimal? digits power with
  | some m => finite negative m
  | none => infinite negative

/-- Whether the value is a zero. -/
def isZero : Double → Bool
  | finite _ m => m.mantissa == 0
  | _ => false

/-- The integer that a value without fraction is. -/
def toInt? : Double → Option Int
  | finite negative m =>
    if m.units % Nat.pow 2 1074 = 0 then
      let n : Nat := m.units / Nat.pow 2 1074
      some (if negative then -Int.ofNat n else Int.ofNat n)
    else none
  | _ => none

end Double
end Dataflow
