/-!
# Machine integers

The integers that programs hand over come in twelve types. `Integer` keeps the type together with
the number; `toInt` forgets it.
-/

namespace BoundSql

/-- An integer of one of the machine types; the two size types have 64 bits. -/
inductive Integer where
  | int8 (n : Int8)
  | int16 (n : Int16)
  | int32 (n : Int32)
  | int64 (n : Int64)
  | intSize (n : Int64)
  | uint8 (n : UInt8)
  | uint16 (n : UInt16)
  | uint32 (n : UInt32)
  | uint64 (n : UInt64)
  | uintSize (n : UInt64)
  | int128 (n : BitVec 128)
  | uint128 (n : BitVec 128)
deriving DecidableEq, Repr

namespace Integer

/-- The number itself. -/
def toInt : Integer → Int
  | int8 n => n.toInt
  | int16 n => n.toInt
  | int32 n => n.toInt
  | int64 n => n.toInt
  | intSize n => n.toInt
  | uint8 n => n.toNat
  | uint16 n => n.toNat
  | uint32 n => n.toNat
  | uint64 n => n.toNat
  | uintSize n => n.toNat
  | int128 n => n.toInt
  | uint128 n => n.toNat

/-- The numbers from `-2 ^ 63` to `2 ^ 63 - 1`. -/
def FitsSigned (n : Int) : Prop := -9223372036854775808 ≤ n ∧ n ≤ 9223372036854775807

/-- The numbers from `0` to `2 ^ 64 - 1`. -/
def FitsUnsigned (n : Int) : Prop := 0 ≤ n ∧ n ≤ 18446744073709551615

instance (n : Int) : Decidable (FitsSigned n) := inferInstanceAs (Decidable (_ ∧ _))

instance (n : Int) : Decidable (FitsUnsigned n) := inferInstanceAs (Decidable (_ ∧ _))

end Integer

end BoundSql
