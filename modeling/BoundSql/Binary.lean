/-!
# Binary floating point numbers

`Binary64` and `Binary32` are floating point numbers held as the bits of their interchange formats.
Everything about them is read off the three fields of the format with natural number arithmetic:
their comparison, the exact widening of the narrow format into the wide one, and the value of a
finite number as a product of a whole number with a power of two.
-/

namespace BoundSql

/-- The absolute value of a finite number that is not zero: `significand · 2 ^ exponent`. -/
structure Magnitude where
  significand : Nat
  exponent : Int
  /-- Whether the next smaller number of the format is only half as far away as the next larger. -/
  tightBelow : Bool
deriving DecidableEq, Repr

/-- A number of the 64-bit format, by its bits. -/
structure Binary64 where
  bits : UInt64

/-- A number of the 32-bit format, by its bits. -/
structure Binary32 where
  bits : UInt32

namespace Binary64

/-- The eleven exponent bits. -/
def exponentField (x : Binary64) : Nat := (x.bits.toNat >>> 52) % 2048

/-- The fifty-two fraction bits. -/
def fractionField (x : Binary64) : Nat := x.bits.toNat % (1 <<< 52)

/-- The sign bit is set. -/
def isNegative (x : Binary64) : Bool := x.bits.toNat >>> 63 == 1

/-- The exponent bits are not all ones. -/
def isFinite (x : Binary64) : Bool := x.exponentField != 2047

/-- The exponent bits are all ones and the fraction is not zero. -/
def isNaN (x : Binary64) : Bool := x.exponentField == 2047 && x.fractionField != 0

/-- Zero of either sign. -/
def isZero (x : Binary64) : Bool := x.exponentField == 0 && x.fractionField == 0

/-- Numerical equality: no NaN equals anything, and the two zeros are equal. -/
def numericEq (x y : Binary64) : Bool :=
  !x.isNaN && !y.isNaN && (x.bits == y.bits || (x.isZero && y.isZero))

instance : BEq Binary64 := ⟨numericEq⟩

/-- The absolute value of a finite number. -/
def magnitude (x : Binary64) : Magnitude :=
  if x.exponentField = 0 then ⟨x.fractionField, -1074, false⟩
  else ⟨(1 <<< 52) + x.fractionField, (x.exponentField : Int) - 1075,
    x.fractionField == 0 && 1 < x.exponentField⟩

/-- The number with the given sign, exponent bits and fraction bits. -/
def ofFields (negative : Bool) (exponent fraction : Nat) : Binary64 :=
  ⟨UInt64.ofNat ((if negative then 1 <<< 63 else 0) + (exponent <<< 52) + fraction)⟩

end Binary64

namespace Binary32

/-- The eight exponent bits. -/
def exponentField (x : Binary32) : Nat := (x.bits.toNat >>> 23) % 256

/-- The twenty-three fraction bits. -/
def fractionField (x : Binary32) : Nat := x.bits.toNat % (1 <<< 23)

/-- The sign bit is set. -/
def isNegative (x : Binary32) : Bool := x.bits.toNat >>> 31 == 1

/-- The absolute value of a finite number. -/
def magnitude (x : Binary32) : Magnitude :=
  if x.exponentField = 0 then ⟨x.fractionField, -149, false⟩
  else ⟨(1 <<< 23) + x.fractionField, (x.exponentField : Int) - 150,
    x.fractionField == 0 && 1 < x.exponentField⟩

/--
The same number in the 64-bit format. Every number of the narrow format, also one below its normal
range, is a normal number of the wide one, so nothing is rounded: the exponent is moved to the wide
format's bias and the fraction is filled up with zeros on the right.
-/
def widen (x : Binary32) : Binary64 :=
  let fraction := x.fractionField
  if x.exponentField = 255 then .ofFields x.isNegative 2047 (fraction <<< 29)
  else if x.exponentField ≠ 0 then
    .ofFields x.isNegative (x.exponentField + 896) (fraction <<< 29)
  else if fraction = 0 then .ofFields x.isNegative 0 0
  else
    let top := fraction.log2
    .ofFields x.isNegative (874 + top) ((fraction - (1 <<< top)) <<< (52 - top))

end Binary32

end BoundSql
