import BoundSql.Binary
import Mathlib.Tactic.Ring

/-!
# What floating point numbers stand for

A floating point number that is one stands for an infinity or for a whole number of the smallest
steps of the format, `2 ^ -1074` each. Two of them are numerically equal when they stand for the same:
only the two zeros differ in their bits and stand for one number.
-/

namespace BoundSql

/-- What a number stands for: an infinity, or a number of the smallest steps. -/
inductive Quantity where
  | infinite (negative : Bool)
  | finite (steps : Int)
deriving DecidableEq

namespace Binary64

/-- The absolute value of a finite number, in the smallest steps. -/
def steps (x : Binary64) : Nat := x.magnitude.significand * 2 ^ (x.magnitude.exponent + 1074).toNat

/-- What a number that is one stands for. -/
def quantity (x : Binary64) : Quantity :=
  if x.isFinite then .finite (if x.isNegative then -x.steps else x.steps)
  else .infinite x.isNegative

lemma fractionField_lt (x : Binary64) : x.fractionField < 2 ^ 52 :=
  Nat.mod_lt _ (by decide)

lemma toNat_bits (x : Binary64) : x.bits.toNat =
    (if x.isNegative then 2 ^ 63 else 0) + x.exponentField * 2 ^ 52 + x.fractionField := by
  have small := x.bits.toNat_lt
  simp only [isNegative, exponentField, fractionField, Nat.shiftRight_eq_div_pow, Nat.shiftLeft_eq,
    beq_iff_eq]
  split <;> omega

variable {x y : Binary64}

lemma eq_of_fields (sign : x.isNegative = y.isNegative)
    (exponent : x.exponentField = y.exponentField) (fraction : x.fractionField = y.fractionField) :
    x = y := by
  obtain ⟨a⟩ := x
  obtain ⟨b⟩ := y
  congr
  apply UInt64.toNat.inj
  have ha := toNat_bits ⟨a⟩
  rw [sign, exponent, fraction, ← toNat_bits ⟨b⟩] at ha
  exact ha

lemma steps_of_subnormal (h : x.exponentField = 0) : x.steps = x.fractionField := by
  simp [steps, magnitude, h]

lemma steps_of_normal (h : x.exponentField ≠ 0) :
    x.steps = (2 ^ 52 + x.fractionField) * 2 ^ (x.exponentField - 1) := by
  have exponent : ((x.exponentField : Int) - 1075 + 1074).toNat = x.exponentField - 1 := by omega
  rw [steps, magnitude, if_neg h]
  simp only [exponent, Nat.shiftLeft_eq, Nat.one_mul]

lemma steps_lt (x : Binary64) : x.steps < 2 ^ 52 * 2 ^ x.exponentField := by
  have fraction := x.fractionField_lt
  by_cases h : x.exponentField = 0
  · rw [steps_of_subnormal h, h]
    omega
  · rw [steps_of_normal h]
    calc (2 ^ 52 + x.fractionField) * 2 ^ (x.exponentField - 1)
        < (2 ^ 52 * 2) * 2 ^ (x.exponentField - 1) :=
          Nat.mul_lt_mul_of_pos_right (by omega) (Nat.two_pow_pos _)
      _ = 2 ^ 52 * 2 ^ x.exponentField := by
        rw [Nat.mul_assoc, ← Nat.pow_succ', Nat.succ_eq_add_one, Nat.sub_add_cancel (by omega)]

lemma le_steps (h : x.exponentField ≠ 0) : 2 ^ 52 * 2 ^ (x.exponentField - 1) ≤ x.steps := by
  rw [steps_of_normal h]
  exact Nat.mul_le_mul_right _ (Nat.le_add_right ..)

lemma steps_lt_of_exponentField_lt (h : x.exponentField < y.exponentField) : x.steps < y.steps := by
  have normal : y.exponentField ≠ 0 := by omega
  calc x.steps < 2 ^ 52 * 2 ^ x.exponentField := x.steps_lt
    _ ≤ 2 ^ 52 * 2 ^ (y.exponentField - 1) :=
      Nat.mul_le_mul_left _ (Nat.pow_le_pow_right (by decide) (by omega))
    _ ≤ y.steps := le_steps normal

lemma fields_of_steps_eq (h : x.steps = y.steps) :
    x.exponentField = y.exponentField ∧ x.fractionField = y.fractionField := by
  -- The ranges of two exponents do not overlap, so the number of steps determines the exponent.
  have exponent : x.exponentField = y.exponentField := by
    rcases Nat.lt_trichotomy x.exponentField y.exponentField with less | same | less
    · exact absurd h (Nat.ne_of_lt (steps_lt_of_exponentField_lt less))
    · exact same
    · exact absurd h (Nat.ne_of_gt (steps_lt_of_exponentField_lt less))
  refine ⟨exponent, ?_⟩
  by_cases subnormal : x.exponentField = 0
  · rwa [steps_of_subnormal subnormal, steps_of_subnormal (exponent ▸ subnormal)] at h
  · rw [steps_of_normal subnormal, steps_of_normal (exponent ▸ subnormal), exponent] at h
    exact Nat.add_left_cancel (Nat.eq_of_mul_eq_mul_right (Nat.two_pow_pos _) h)

lemma isZero_iff : x.isZero = true ↔ x.exponentField = 0 ∧ x.fractionField = 0 := by
  simp [isZero]

lemma steps_eq_zero_iff : x.steps = 0 ↔ x.isZero = true := by
  rw [isZero_iff]
  constructor
  · intro h
    by_cases subnormal : x.exponentField = 0
    · exact ⟨subnormal, (steps_of_subnormal subnormal).symm.trans h⟩
    · have large := le_steps subnormal
      have positive := Nat.two_pow_pos (x.exponentField - 1)
      omega
  · rintro ⟨subnormal, fraction⟩
    rw [steps_of_subnormal subnormal, fraction]

lemma eq_of_steps_eq (sign : x.isNegative = y.isNegative) (h : x.steps = y.steps) : x = y :=
  eq_of_fields sign (fields_of_steps_eq h).1 (fields_of_steps_eq h).2

lemma isFinite_of_isZero (zero : x.isZero = true) : x.isFinite = true := by
  simp [isFinite, (isZero_iff.1 zero).1]

lemma quantity_of_isZero (zero : x.isZero = true) : x.quantity = .finite 0 := by
  rw [quantity, if_pos (isFinite_of_isZero zero), steps_eq_zero_iff.2 zero]
  split <;> rfl

lemma fields_of_infinite (infinite : x.isFinite = false) (number : x.isNaN = false) :
    x.exponentField = 2047 ∧ x.fractionField = 0 := by
  simp_all [isFinite, isNaN]

/-- Numbers that stand for the same are the same or both zero. -/
lemma eq_or_isZero_of_quantity_eq (hx : x.isNaN = false) (hy : y.isNaN = false)
    (h : x.quantity = y.quantity) : x = y ∨ (x.isZero = true ∧ y.isZero = true) := by
  unfold quantity at h
  cases fx : x.isFinite <;> cases fy : y.isFinite
  all_goals simp only [fx, fy, if_true, Bool.false_eq_true, if_false] at h
  · obtain ⟨exponent, fraction⟩ := fields_of_infinite fx hx
    obtain ⟨exponent', fraction'⟩ := fields_of_infinite fy hy
    injection h with sign
    exact .inl (eq_of_fields sign (exponent.trans exponent'.symm) (fraction.trans fraction'.symm))
  · cases h
  · cases h
  · injection h with signed
    rw [← steps_eq_zero_iff, ← steps_eq_zero_iff]
    cases sx : x.isNegative <;> cases sy : y.isNegative
    all_goals simp only [sx, sy, if_true, Bool.false_eq_true, if_false] at signed
    · exact .inl (eq_of_steps_eq (sx.trans sy.symm) (by omega))
    · exact .inr (by omega)
    · exact .inr (by omega)
    · exact .inl (eq_of_steps_eq (sx.trans sy.symm) (by omega))

lemma numericEq_iff : x.numericEq y = true ↔
    x.isNaN = false ∧ y.isNaN = false ∧ (x = y ∨ (x.isZero = true ∧ y.isZero = true)) := by
  obtain ⟨a⟩ := x
  obtain ⟨b⟩ := y
  simp [numericEq, and_assoc]

/-- Numerical equality compares what numbers stand for. -/
lemma numericEq_iff_quantity : x.numericEq y = true ↔
    x.isNaN = false ∧ y.isNaN = false ∧ x.quantity = y.quantity := by
  rw [numericEq_iff]
  constructor
  · rintro ⟨hx, hy, rfl | ⟨zero, zero'⟩⟩
    · exact ⟨hx, hy, rfl⟩
    · exact ⟨hx, hy, (quantity_of_isZero zero).trans (quantity_of_isZero zero').symm⟩
  · rintro ⟨hx, hy, same⟩
    exact ⟨hx, hy, eq_or_isZero_of_quantity_eq hx hy same⟩

lemma numericEq_symm (h : x.numericEq y = true) : y.numericEq x = true := by
  obtain ⟨hx, hy, same⟩ := numericEq_iff_quantity.1 h
  exact numericEq_iff_quantity.2 ⟨hy, hx, same.symm⟩

lemma numericEq_trans {z : Binary64} (h : x.numericEq y = true) (h' : y.numericEq z = true) :
    x.numericEq z = true := by
  obtain ⟨hx, -, same⟩ := numericEq_iff_quantity.1 h
  obtain ⟨-, hz, same'⟩ := numericEq_iff_quantity.1 h'
  exact numericEq_iff_quantity.2 ⟨hx, hz, same.trans same'⟩

lemma numericEq_self_iff : x.numericEq x = true ↔ x.isNaN = false := by
  rw [numericEq_iff_quantity]
  exact ⟨fun h => h.1, fun h => ⟨h, h, rfl⟩⟩

lemma isNaN_of_isFinite (finite : x.isFinite = true) : x.isNaN = false := by
  simp_all [isFinite, isNaN]

end Binary64

end BoundSql
