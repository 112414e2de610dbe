import BoundSql.Value.Conversion
import Mathlib.Tactic.Lemma

/-!
# Integers as values

What value a machine integer becomes depends on the number alone and not on the type that it comes in:
`Value.ofInt?` is the canonical form of a number, and all twelve types are converted to it. So equal
numbers become equal values, and different numbers different ones.
-/

namespace BoundSql.Value

open Integer

/-- A number as a value: signed where it fits, unsigned above, and nothing beyond 64 bits. -/
def ofInt? (n : Int) : Option Value :=
  if FitsSigned n then some (int (.ofInt n))
  else if FitsUnsigned n then some (uint (.ofNat n.toNat))
  else none

variable {n : Int} {v w : Value}

/-- A signed word that has the number is its value. -/
lemma ofInt?_of_toInt_eq {k : Int64} (same : k.toInt = n) : ofInt? n = some (int k) := by
  subst same
  have fits : FitsSigned k.toInt := ⟨k.le_toInt, Int.le_of_lt_add_one k.toInt_lt⟩
  rw [ofInt?, if_pos fits, Int64.ofInt_toInt]

/-- An unsigned word that fits is the signed word of the same number. -/
lemma toInt_toInt64 {k : UInt64} (fits : FitsSigned k.toNat) : k.toInt64.toInt = k.toNat := by
  have small : 2 * k.toNat < 2 ^ 64 := by
    obtain ⟨-, le⟩ := fits
    omega
  exact BitVec.toInt_eq_toNat_of_lt small

/-- An unsigned word that has the number is its value, in the signed kind if it fits. -/
lemma ofInt?_of_toNat_eq {k : UInt64} (same : k.toNat = n) : ofInt? n = some (ofUInt64 k) := by
  subst same
  have bound := k.toNat_lt
  unfold ofUInt64
  split
  next fits => exact ofInt?_of_toInt_eq (toInt_toInt64 fits)
  next wide =>
    have fits : FitsUnsigned k.toNat := ⟨by omega, by omega⟩
    rw [ofInt?, if_neg wide, if_pos fits, Int.toNat_natCast, UInt64.ofNat_toNat]

/-- An integer of an unsigned type below 64 bits is signed. -/
lemma ofInt?_of_narrow {m : Nat} {k : UInt64} (same : k.toNat = m) (narrow : m < 4294967296) :
    ofInt? m = some (int k.toInt64) := by
  subst same
  exact ofInt?_of_toInt_eq (toInt_toInt64 ⟨by omega, by omega⟩)

/-- An integer that is not negative is the same with and without a sign. -/
lemma toNat_toInt {b : BitVec 128} (nonneg : 0 ≤ b.toInt) : b.toInt.toNat = b.toNat := by
  rw [BitVec.toInt_eq_toNat_cond] at nonneg ⊢
  split at nonneg <;> omega

lemma toNat_ofNat {k : Nat} (fits : k < 18446744073709551616) : (UInt64.ofNat k).toNat = k :=
  UInt64.toNat_ofNat_of_lt' fits

/-- The type of a machine integer leaves no trace in its value. -/
lemma ofInteger?_eq (n : Integer) : ofInteger? n = ofInt? n.toInt := by
  cases n with
  | int8 n => exact (ofInt?_of_toInt_eq n.toInt_toInt64).symm
  | int16 n => exact (ofInt?_of_toInt_eq n.toInt_toInt64).symm
  | int32 n => exact (ofInt?_of_toInt_eq n.toInt_toInt64).symm
  | int64 n => exact (ofInt?_of_toInt_eq rfl).symm
  | intSize n => exact (ofInt?_of_toInt_eq rfl).symm
  | uint8 n =>
    have narrow := n.toNat_lt
    exact (ofInt?_of_narrow n.toNat_toUInt64 (by omega)).symm
  | uint16 n =>
    have narrow := n.toNat_lt
    exact (ofInt?_of_narrow n.toNat_toUInt64 (by omega)).symm
  | uint32 n =>
    have narrow := n.toNat_lt
    exact (ofInt?_of_narrow n.toNat_toUInt64 (by omega)).symm
  | uint64 n => exact (ofInt?_of_toNat_eq rfl).symm
  | uintSize n => exact (ofInt?_of_toNat_eq rfl).symm
  | int128 n =>
    simp only [ofInteger?, toInt]
    by_cases fits : FitsSigned n.toInt
    · rw [ofInt?, if_pos fits, if_pos fits]
    · rw [ofInt?, if_neg fits, if_neg fits]
      split
      next fits =>
        rw [toNat_toInt fits.1]
      next => rfl
  | uint128 n =>
    simp only [ofInteger?, toInt]
    split
    next fits =>
      have lt : n.toNat < 18446744073709551616 := by
        obtain ⟨-, le⟩ := fits
        omega
      exact (ofInt?_of_toNat_eq (congrArg _ (toNat_ofNat lt))).symm
    next wide =>
      have wide' : ¬ FitsSigned n.toNat := by
        intro fits
        obtain ⟨-, le⟩ := fits
        exact wide ⟨by omega, by omega⟩
      rw [ofInt?, if_neg wide', if_neg wide]

lemma ofInt?_eq_none_iff :
    ofInt? n = none ↔ n < -9223372036854775808 ∨ 18446744073709551616 ≤ n := by
  unfold ofInt?
  split
  next fits =>
    obtain ⟨ge, le⟩ := fits
    exact ⟨nofun, by omega⟩
  next wide =>
    split
    next fits =>
      obtain ⟨ge, le⟩ := fits
      exact ⟨nofun, by omega⟩
    next wider =>
      unfold FitsSigned at wide
      unfold FitsUnsigned at wider
      exact ⟨fun _ => by omega, fun _ => rfl⟩

/-- A value of an integer holds exactly its number, and is signed if it can be. -/
lemma ofInt?_eq_some (made : ofInt? n = some v) :
    (n < 9223372036854775808 ∧ ∃ k : Int64, v = int k ∧ k.toInt = n) ∨
      (9223372036854775808 ≤ n ∧ ∃ k : UInt64, v = uint k ∧ k.toNat = n) := by
  unfold ofInt? at made
  split at made
  next fits =>
    obtain ⟨ge, le⟩ := fits
    cases made
    exact .inl ⟨by omega, _, rfl, Int64.toInt_ofInt_of_le ge (by omega)⟩
  next wide =>
    split at made
    next fits =>
      cases made
      have ge : 9223372036854775808 ≤ n := by
        obtain ⟨nonneg, -⟩ := fits
        exact Int.not_lt.1 fun lt => wide ⟨by omega, by omega⟩
      obtain ⟨nonneg, le⟩ := fits
      refine .inr ⟨ge, _, rfl, ?_⟩
      rw [toNat_ofNat (by omega), Int.toNat_of_nonneg nonneg]
    next => cases made

/-- Integers are equal as values exactly when they are equal as numbers. -/
lemma ofInt?_beq_iff {m : Int} (made : ofInt? m = some v) (made' : ofInt? n = some w) :
    (v == w) = true ↔ m = n := by
  obtain ⟨small, k, rfl, rfl⟩ | ⟨large, k, rfl, rfl⟩ := ofInt?_eq_some made
  · obtain ⟨small', k', rfl, rfl⟩ | ⟨large', k', rfl, rfl⟩ := ofInt?_eq_some made'
    · show (k == k') = true ↔ _
      rw [beq_iff_eq, Int64.toInt_inj]
    · exact ⟨nofun, fun same => by omega⟩
  · obtain ⟨small', k', rfl, rfl⟩ | ⟨large', k', rfl, rfl⟩ := ofInt?_eq_some made'
    · exact ⟨nofun, fun same => by omega⟩
    · show (k == k') = true ↔ _
      rw [beq_iff_eq, Int.natCast_inj, UInt64.toNat_inj]

/-- The conversion of machine integers is exact, canonical in all types, and fails only beyond what
64 bits hold. -/
theorem ofInteger?_canonical (m n : Integer) :
    (ofInteger? n = none ↔ n.toInt < -9223372036854775808 ∨ 18446744073709551616 ≤ n.toInt) ∧
    (ofInteger? n = none → (∃ bits, n = .int128 bits) ∨ ∃ bits, n = .uint128 bits) ∧
    (∀ v, ofInteger? n = some v →
      (n.toInt < 9223372036854775808 ∧ ∃ k : Int64, v = int k ∧ k.toInt = n.toInt) ∨
      (9223372036854775808 ≤ n.toInt ∧ ∃ k : UInt64, v = uint k ∧ k.toNat = n.toInt)) ∧
    ∀ v w, ofInteger? m = some v → ofInteger? n = some w →
      ((v == w) = true ↔ m.toInt = n.toInt) := by
  refine ⟨?_, ?_, fun v made => ?_, fun v w made made' => ?_⟩
  · rw [ofInteger?_eq, ofInt?_eq_none_iff]
  · cases n with
    | int128 bits => exact fun _ => .inl ⟨bits, rfl⟩
    | uint128 bits => exact fun _ => .inr ⟨bits, rfl⟩
    | _ => nofun
  · rw [ofInteger?_eq] at made
    exact ofInt?_eq_some made
  · rw [ofInteger?_eq] at made made'
    exact ofInt?_beq_iff made made'

/-- The first number past the signed kind from two types, and the first that is below it. -/
theorem ofInteger?_canonical_past_signed :
    let m : Integer := .uintSize 9223372036854775808
    let n : Integer := .int128 (.ofInt 128 9223372036854775808)
    let below : Integer := .int128 (.ofInt 128 (-9223372036854775809))
    (∃ v w, ofInteger? m = some v ∧ ofInteger? n = some w ∧ m.toInt = n.toInt ∧ (v == w) = true ∧
      ∃ k : UInt64, w = uint k ∧ k.toNat = n.toInt) ∧
    ofInteger? below = none ∧ ((∃ bits, below = .int128 bits) ∨ ∃ bits, below = .uint128 bits) := by
  intro m n below
  have made : ofInteger? m = some (uint 9223372036854775808) := rfl
  have made' : ofInteger? n = some (uint 9223372036854775808) := rfl
  have same : m.toInt = n.toInt := by decide
  obtain ⟨-, -, holds, equal⟩ := ofInteger?_canonical m n
  obtain ⟨missing, wide, -, -⟩ := ofInteger?_canonical m below
  have none := missing.2 (.inl (by decide))
  refine ⟨⟨_, _, made, made', same, (equal _ _ made made').2 same, ?_⟩, none, wide none⟩
  obtain ⟨small, -⟩ | ⟨-, word⟩ := holds _ made'
  · exact absurd small (by decide)
  · exact word

end BoundSql.Value
