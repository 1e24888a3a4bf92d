import Dataflow.Number.Double
import Dataflow.Text.Basic

/-!
# The shortest decimal that reads back

A binary64 value is written with the fewest significant digits that read back as the same value, and
with the nearest such decimal where several of that length do; of two equally near the even one is
taken.

`Magnitude.shortest` finds the digits by trying grids of decimals from coarse to fine.  On the grid
of `n` digits only the two neighbours of the value come into question.  With seventeen digits one of
them always reads back; the exact decimal expansion stands behind them, so that what is returned
reads back by construction.

Where the point goes, and what the special values are called, is a matter of `FloatStyle`.
-/

set_option autoImplicit false

namespace Dataflow

/-- How many decimal digits a number has; zero has one. -/
def digitCount (n : Nat) : Nat := (decimal n).length

namespace Magnitude

/-- The power of ten of the first significant digit of a magnitude that is not zero. -/
def leadingPower (m : Magnitude) : Int :=
  let unit := Nat.pow 2 1074
  if unit ≤ m.units then digitCount (m.units / unit) - 1
  else -(digitCount ((unit + m.units - 1) / m.units - 1) : Int)

/-- Whether a decimal reads back as the magnitude. -/
def readsBack (m : Magnitude) (digits : Nat) (power : Int) : Bool :=
  ofDecimal? digits power == some m

/-- The better of the two neighbours of the magnitude on the grid of multiples of `10 ^ power`, if
one of them reads back.  It is not unfolded unasked, since what it compares are large powers. -/
@[irreducible] def onGrid? (m : Magnitude) (power : Int) : Option Nat :=
  let num := if power < 0 then m.units * Nat.pow 10 (-power).toNat else m.units
  let den := if power < 0 then Nat.pow 2 1074 else Nat.pow 2 1074 * Nat.pow 10 power.toNat
  let below := num / den
  let nearer := roundHalfEven num den
  let other := if nearer = below then below + 1 else below
  if m.readsBack nearer power then some nearer
  else if m.readsBack other power then some other
  else none

/-- The exact decimal expansion of the magnitude, its units being counted as 2^-scale. -/
def expansion (m : Magnitude) (scale : Nat) : Nat × Int := (m.units * Nat.pow 5 scale, -scale)

/-- The first of the grids of `count` digits and more on which a decimal reads back, `tries` of
them being tried; behind them the exact expansion. -/
def shortestFrom (m : Magnitude) : (tries count : Nat) → Nat × Int
  | 0, _ => m.expansion 1074
  | tries + 1, count =>
    let power := m.leadingPower - count + 1
    match m.onGrid? power with
    | some digits => (digits, power)
    | none => shortestFrom m tries (count + 1)

/-- The digits of the shortest decimal that reads back, as a number and its power of ten. -/
def shortest (m : Magnitude) : Nat × Int :=
  if m.mantissa = 0 then (0, 0) else m.shortestFrom 17 1

end Magnitude

/-! ## Writing it down -/

/-- How the special values are written, and which powers of ten are written positionally. -/
structure FloatStyle where
  /-- The text for what is not a number. -/
  nan : String
  /-- The text for infinity. -/
  infinity : String
  /-- The least power of the first digit that is written positionally. -/
  lowest : Int
  /-- The power of the first digit from which an exponent is written. -/
  highest : Int

/-- An exponent with its sign and at least two digits. -/
def exponentText (power : Int) : Text :=
  let digits := decimal power.natAbs
  (if power < 0 then '-' else '+') :: (if digits.length < 2 then '0' :: digits else digits)

/-- The text of a decimal in a style.  Positional text always has a point and a digit on either
side of it. -/
def FloatStyle.layOut (style : FloatStyle) (digits : Nat) (power : Int) : Text :=
  let all := decimal digits
  let lead : Int := power + all.length - 1
  let ds := if digits = 0 then all else (all.reverse.dropWhile (· == '0')).reverse
  if style.lowest ≤ lead ∧ lead < style.highest then
    if lead < 0 then
      text "0." ++ List.replicate (-lead - 1).toNat '0' ++ ds
    else
      let whole := lead.toNat + 1
      let fraction := ds.drop whole
      ds.take whole ++ List.replicate (whole - ds.length) '0' ++ ['.']
        ++ (if fraction.isEmpty then ['0'] else fraction)
  else
    match ds with
    | [d] => d :: 'e' :: exponentText lead
    | d :: more => d :: '.' :: more ++ 'e' :: exponentText lead
    | [] => []

/-- The text of a value in a style. -/
def Double.render (style : FloatStyle) : Double → Text
  | .nan => text style.nan
  | .infinite negative => (if negative then ['-'] else []) ++ text style.infinity
  | .finite negative m =>
    (if negative then ['-'] else []) ++ style.layOut m.shortest.1 m.shortest.2

end Dataflow
