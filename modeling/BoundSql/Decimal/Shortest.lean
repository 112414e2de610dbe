import BoundSql.Binary

/-!
# Shortest decimals

A finite binary number is written with the fewest decimal digits that are read back as the same
number. A decimal is read back as the number exactly when it lies between the midpoints to the two
neighbours of the number; the midpoints themselves count when the significand is even. All
comparisons are made in whole numbers, so nothing is rounded on the way.
-/

namespace BoundSql

/-- What to do with a number that lies exactly halfway between two decimals. -/
inductive Tie where
  /-- Take the decimal whose last digit is even. -/
  | toEven
  /-- Take the larger decimal. -/
  | up
deriving DecidableEq, Repr

/-- The decimal `d₁.d₂d₃… · 10 ^ exponent` with digits `d₁ d₂ d₃ …`. -/
structure Decimal where
  digits : List Char
  exponent : Int
deriving DecidableEq, Repr

namespace Decimal

/-- The decimal `coefficient · 10 ^ power`, without the zeros at the end of its digits. -/
def ofScaled (coefficient : Nat) (power : Int) : Decimal :=
  let digits := Nat.toDigits 10 coefficient
  ⟨(digits.reverse.dropWhile (· == '0')).reverse, power + (digits.length - 1 : Nat)⟩

end Decimal

namespace Magnitude

/--
The number of digits before the decimal point; for a number below one, zero or the negated number
of zeros between the point and the first digit.
-/
def integerDigits (x : Magnitude) : Int :=
  let numerator := x.significand <<< x.exponent.toNat
  let denominator := 1 <<< (-x.exponent).toNat
  if denominator ≤ numerator then (Nat.toDigits 10 (numerator / denominator)).length
  else 1 - (Nat.toDigits 10 ((denominator - 1) / numerator)).length

/--
The multiple of `10 ^ power` that is read back as `x`, as a whole number of steps, if there is one;
of two such multiples next to `x` the nearer one.

Quarters of the last binary place are the unit: the number is `4 · significand`, the midpoint above
it two more, and the midpoint below it two less, or one less where the format is tighter below.
-/
def onGrid? (x : Magnitude) (tie : Tie) (power : Int) : Option Nat :=
  let quarter := Nat.pow 10 (-power).toNat <<< (x.exponent - 2).toNat
  let step := Nat.pow 10 power.toNat <<< (2 - x.exponent).toNat
  let value := 4 * x.significand * quarter
  let low := value - (if x.tightBelow then 1 else 2) * quarter
  let high := value + 2 * quarter
  let readsBack (n : Nat) : Bool :=
    if x.significand % 2 = 0 then low ≤ n * step && n * step ≤ high
    else low < n * step && n * step < high
  let below := value / step
  let above := below + 1
  if readsBack below then
    if readsBack above then
      let toBelow := value - below * step
      let toAbove := above * step - value
      if toBelow < toAbove then some below
      else if toAbove < toBelow then some above
      else match tie with
        | .up => some above
        | .toEven => if below % 2 = 0 then some below else some above
    else some below
  else if readsBack above then some above
  else none

/-- All digits of `x`. -/
def exactDecimal (x : Magnitude) : Decimal :=
  if 0 ≤ x.exponent then .ofScaled (x.significand <<< x.exponent.toNat) 0
  else .ofScaled (x.significand * Nat.pow 5 (-x.exponent).toNat) x.exponent

/--
The decimal with the fewest digits that is read back as `x`, and of those the nearest to `x`.
Seventeen digits suffice for every number of the 64-bit format.
-/
def shortestDecimal (x : Magnitude) (tie : Tie) : Decimal :=
  let powers := (List.range 17).map fun n => x.integerDigits - (n + 1 : Nat)
  let found := powers.findSome? fun power => (x.onGrid? tie power).map (.ofScaled · power)
  found.getD x.exactDecimal

end Magnitude

end BoundSql
