import BoundSql.Text.FixedWidth

/-!
# Universally unique identifiers

Numbers of 128 bits, written as hexadecimal digits in groups of 8, 4, 4, 4 and 12.
-/

namespace BoundSql

/-- An identifier of 128 bits. -/
structure Uuid where
  bits : BitVec 128
deriving DecidableEq, Repr

namespace Uuid

/-- Cuts a list into groups of the given sizes, in front of each of which a hyphen is put. -/
def hyphenated : List Nat → List Char → List Char
  | [], _ => []
  | size :: sizes, digits => '-' :: digits.take size ++ hyphenated sizes (digits.drop size)

/-- The identifier in lower-case digits, with hyphens between the groups. -/
def text (u : Uuid) : String :=
  let digits := FixedWidth.digits 16 32 u.bits.toNat
  String.ofList (digits.take 8 ++ hyphenated [4, 4, 4, 12] (digits.drop 8))

end Uuid

end BoundSql
