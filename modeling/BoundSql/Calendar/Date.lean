import BoundSql.Text.FixedWidth

/-!
# Calendar dates

Days of the Gregorian calendar, extended to all years before and after its introduction; the year 0
is the one before the year 1. Their text is `YYYY-MM-DD`, with a sign in front of a year that four
digits cannot hold. `Date.dayNumber` counts the days, so it orders dates by time.
-/

namespace BoundSql

/-- A day by year, month and day of the month. -/
structure Date where
  year : Int
  month : Nat
  day : Nat
deriving DecidableEq, Repr

namespace Date

/-- The year has a 29th of February. -/
def isLeapYear (year : Int) : Bool := year % 4 = 0 && (year % 100 ≠ 0 || year % 400 = 0)

/-- The number of days of a month. -/
def daysInMonth (year : Int) (month : Nat) : Nat :=
  if month = 2 then (if isLeapYear year then 29 else 28)
  else if month ∈ [4, 6, 9, 11] then 30
  else 31

/-- The day is on the calendar. -/
def Valid (d : Date) : Prop :=
  1 ≤ d.month ∧ d.month ≤ 12 ∧ 1 ≤ d.day ∧ d.day ≤ daysInMonth d.year d.month

instance (d : Date) : Decidable d.Valid := inferInstanceAs (Decidable (_ ∧ _))

/--
The number of days since the first of March of the year 0. Years are taken to begin in March, so
that the leap day is the last of its year and the months before a date have `(153 · m + 2) / 5` days.
-/
def dayNumber (d : Date) : Int :=
  let year := if d.month ≤ 2 then d.year - 1 else d.year
  let monthsPast := (d.month + 9) % 12
  365 * year + year / 4 - year / 100 + year / 400 + ((153 * monthsPast + 2) / 5 : Nat) + d.day - 1

/-- The year in four digits, or with a sign and at least four digits if they do not suffice. -/
def yearDigits (year : Int) : List Char :=
  if 0 ≤ year ∧ year ≤ 9999 then FixedWidth.digits 10 4 year.toNat
  else (if year < 0 then '-' else '+') :: FixedWidth.atLeast 4 year.natAbs

/-- The characters of `YYYY-MM-DD`. -/
def chars (d : Date) : List Char :=
  yearDigits d.year ++ '-' :: FixedWidth.digits 10 2 d.month ++ '-' :: FixedWidth.digits 10 2 d.day

/-- The date as text. -/
def text (d : Date) : String := String.ofList d.chars

end Date

end BoundSql
