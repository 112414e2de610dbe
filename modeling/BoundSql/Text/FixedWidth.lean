/-!
# Numbers of a fixed width

Digits filled up with zeros on the left, as dates, times and identifiers are written.
-/

namespace BoundSql.FixedWidth

/-- The last `width` digits of a number in a base of at most sixteen. -/
def digits (base : Nat) : Nat → Nat → List Char
  | 0, _ => []
  | width + 1, n => digits base width (n / base) ++ [Nat.digitChar (n % base)]

/-- All decimal digits of a number, and zeros on the left to make at least `width` of them. -/
def atLeast (width n : Nat) : List Char := (Nat.toDigits 10 n).leftpad width '0'

theorem length_digits (base width n : Nat) : (digits base width n).length = width := by
  induction width generalizing n with
  | zero => rfl
  | succ width ih => simp [digits, ih]

end BoundSql.FixedWidth
