import BoundSql.Text.FixedWidth

/-!
# Clock times

Times of a day to the nanosecond, written `HH:MM:SS` with the shortest exact fraction of three, six or
nine digits, and without any for whole seconds. A leap second is held as a fraction of a second or
more behind the 59th second of a minute, and written as second 60.
-/

namespace BoundSql

/-- A time of day; `nano` counts from the beginning of `second` and passes a second in a leap second. -/
structure Clock where
  hour : Nat
  minute : Nat
  second : Nat
  nano : Nat
deriving DecidableEq, Repr

namespace Clock

/-- The time exists; only the last second of a minute can be followed by a leap second. -/
def Valid (c : Clock) : Prop :=
  c.hour < 24 ∧ c.minute < 60 ∧ c.second < 60 ∧
    (c.nano < 1000000000 ∨ (c.second = 59 ∧ c.nano < 2 * 1000000000))

instance (c : Clock) : Decidable c.Valid := inferInstanceAs (Decidable (_ ∧ _))

/-- The whole seconds since midnight, not counting a leap second. -/
def secondOfDay (c : Clock) : Nat := 3600 * c.hour + 60 * c.minute + c.second

/-- Nothing, or a point and the fewest of three, six or nine digits that are exact. -/
def fractionChars (nano : Nat) : List Char :=
  if nano = 0 then []
  else if nano % 1000000 = 0 then '.' :: FixedWidth.digits 10 3 (nano / 1000000)
  else if nano % 1000 = 0 then '.' :: FixedWidth.digits 10 6 (nano / 1000)
  else '.' :: FixedWidth.digits 10 9 nano

/-- The characters of `HH:MM:SS` and the fraction. -/
def chars (c : Clock) : List Char :=
  FixedWidth.digits 10 2 c.hour ++ ':' :: FixedWidth.digits 10 2 c.minute ++
    ':' :: FixedWidth.digits 10 2 (c.second + c.nano / 1000000000) ++ fractionChars (c.nano % 1000000000)

end Clock

end BoundSql
