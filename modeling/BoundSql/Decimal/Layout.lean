import BoundSql.Decimal.Shortest

/-!
# Layouts of floating point numbers

A layout says how a floating point number is written: the exponents up to which the digits are
written around a decimal point, beyond which they are followed by an exponent, whether that exponent
shows a plus sign, and the way ties between equally short decimals go. Positional numbers always have
a fraction (`1.0`), numbers with an exponent only when they have a second digit (`1e16`, `1.5e16`).
-/

namespace BoundSql

/-- How floating point numbers are written. -/
structure Layout where
  /-- The least exponent that is written positionally. -/
  leastPlain : Int
  /-- The largest exponent that is written positionally. -/
  largestPlain : Int
  /-- Whether exponents above zero have a sign. -/
  plusSign : Bool
  /-- Which of two equally near shortest decimals is taken. -/
  tie : Tie
deriving DecidableEq, Repr

namespace Decimal

/-- The digits around a decimal point, with at least one digit on either side. -/
def positional (d : Decimal) : List Char :=
  if d.exponent < 0 then
    '0' :: '.' :: List.replicate (-d.exponent - 1).toNat '0' ++ d.digits
  else
    let whole := d.exponent.toNat + 1
    let fraction := d.digits.drop whole
    (d.digits.take whole).rightpad whole '0' ++ '.' :: (if fraction.isEmpty then ['0'] else fraction)

/--
Positional digits stand for the decimal. There are some on either side of the point, and as a whole
number they are the digits of the decimal, shifted by as many places as the exponent asks for.
-/
theorem positional_value {d : Decimal} (ne : d.digits ≠ []) :
    ∃ whole fraction, d.positional = whole ++ '.' :: fraction ∧ whole ≠ [] ∧ fraction ≠ [] ∧
      ∃ shift : Nat, (shift : Int) = fraction.length + d.exponent + 1 - d.digits.length ∧
        Nat.ofDigitChars 10 (whole ++ fraction) 0 =
          Nat.pow 10 shift * Nat.ofDigitChars 10 d.digits 0 := by
  have positive : 0 < d.digits.length := List.length_pos_iff.2 ne
  unfold positional
  split
  · -- The point is in front of the digits, and the zeros behind it make no difference.
    refine ⟨['0'], List.replicate (-d.exponent - 1).toNat '0' ++ d.digits, rfl, nofun, by simp [ne],
      0, ?_, ?_⟩
    · rw [List.length_append, List.length_replicate]
      omega
    · simp [Nat.ofDigitChars_append, Nat.ofDigitChars_cons]
  · obtain ⟨k, places⟩ : ∃ k, d.exponent.toNat + 1 = k := ⟨_, rfl⟩
    simp only [places]
    by_cases short : d.digits.length ≤ k
    · -- All digits are in front of the point; zeros fill the places up to it and one behind it.
      refine ⟨d.digits ++ List.replicate (k - d.digits.length) '0', ['0'], ?_, by simp [ne], nofun,
        k - d.digits.length + 1, ?_, ?_⟩
      · rw [List.take_of_length_le short, List.drop_of_length_le short]
        rfl
      · rw [List.length_singleton]
        omega
      · simp [Nat.ofDigitChars_append, Nat.ofDigitChars_cons, Nat.pow_succ, Nat.mul_assoc,
          Nat.mul_left_comm]
    · -- The point divides the digits.
      have front : (d.digits.take k).length = k := by
        rw [List.length_take]
        omega
      have behind : d.digits.drop k ≠ [] := by simpa using short
      refine ⟨d.digits.take k, d.digits.drop k, ?_, ?_, behind, 0, ?_, ?_⟩
      · simp [List.rightpad, front, behind]
      · exact List.length_pos_iff.1 (by omega)
      · rw [List.length_drop]
        omega
      · rw [List.take_append_drop, Nat.pow_eq, Nat.pow_zero, Nat.one_mul]

/-- Zeros fill the places on either side of the point. -/
example :
    positional ⟨['1', '5'], 3⟩ = "1500.0".toList ∧ positional ⟨['1', '5'], 0⟩ = "1.5".toList ∧
      positional ⟨['1', '5'], -3⟩ = "0.0015".toList := by decide

/-- The first digit, the others behind a decimal point, and the exponent. -/
def scientific (d : Decimal) (plusSign : Bool) : List Char :=
  let tail := d.digits.drop 1
  let sign := if plusSign && 0 ≤ d.exponent then ['+'] else []
  d.digits.take 1 ++ (if tail.isEmpty then [] else '.' :: tail) ++
    'e' :: sign ++ d.exponent.repr.toList

end Decimal

namespace Layout

/-- Debug text: positional from one ten-thousandth up to sixteen whole digits. -/
def debug : Layout := ⟨-4, 15, false, .up⟩

/-- Numbers of documents, and keys that come from 64-bit numbers. -/
def document : Layout := ⟨-5, 15, true, .toEven⟩

/-- Keys that come from 32-bit numbers. -/
def narrowKey : Layout := ⟨-6, 12, true, .toEven⟩

/-- The digits of a decimal in the form that its exponent asks for. -/
def arrange (layout : Layout) (d : Decimal) : List Char :=
  if layout.leastPlain ≤ d.exponent ∧ d.exponent ≤ layout.largestPlain then d.positional
  else d.scientific layout.plusSign

/-- A finite number with its sign; zero is written `0.0`. -/
def finite (layout : Layout) (negative : Bool) (x : Magnitude) : String :=
  let digits :=
    if x.significand = 0 then ['0', '.', '0'] else layout.arrange (x.shortestDecimal layout.tie)
  String.ofList (if negative then '-' :: digits else digits)

/-- The text of a 64-bit number. -/
def render (layout : Layout) (x : Binary64) : String :=
  if x.isFinite then layout.finite x.isNegative x.magnitude
  else if x.isNaN then "NaN"
  else if x.isNegative then "-inf"
  else "inf"

end Layout

end BoundSql
