import BoundSql.Calendar.Clock
import BoundSql.Calendar.Date

/-!
# Dates with a time

`LocalDateTime` is a date and a clock time without a place; its text joins the two with a space.
`OffsetDateTime` adds the offset of the place from universal time in seconds; its text joins them
with a `T` and ends with the offset in hours and minutes. An offset that is not a whole number of
minutes is rounded in its text. `moment` places a value on the time line.
-/

namespace BoundSql

/-- A date and a time of day. -/
structure LocalDateTime where
  date : Date
  clock : Clock
deriving DecidableEq, Repr

/-- A date and a time of day at a place whose clocks are `offset` seconds ahead of universal time. -/
structure OffsetDateTime where
  dateTime : LocalDateTime
  offset : Int
deriving DecidableEq, Repr

/-- A point of time: whole seconds, and nanoseconds that pass a second only in a leap second. -/
structure Moment where
  second : Int
  nano : Nat
deriving DecidableEq, Repr

/-- The order of time. -/
def Moment.Before (a b : Moment) : Prop :=
  a.second < b.second ∨ (a.second = b.second ∧ a.nano < b.nano)

namespace LocalDateTime

/-- Date and time exist. -/
def Valid (t : LocalDateTime) : Prop := t.date.Valid ∧ t.clock.Valid

/-- The point of time that the clock shows, taken as universal time. -/
def moment (t : LocalDateTime) : Moment :=
  ⟨86400 * t.date.dayNumber + t.clock.secondOfDay, t.clock.nano⟩

/-- The date and time as text, joined by a space. -/
def text (t : LocalDateTime) : String := String.ofList (t.date.chars ++ ' ' :: t.clock.chars)

end LocalDateTime

namespace OffsetDateTime

/-- The value of a clock that shows universal time. -/
def universal (t : LocalDateTime) : OffsetDateTime := ⟨t, 0⟩

/-- Date and time exist, and the offset is less than a day. -/
def Valid (t : OffsetDateTime) : Prop := t.dateTime.Valid ∧ -86400 < t.offset ∧ t.offset < 86400

/-- The point of time in universal time. -/
def moment (t : OffsetDateTime) : Moment :=
  ⟨t.dateTime.moment.second - t.offset, t.dateTime.moment.nano⟩

/-- The sign of an offset, and its size to the nearest minute as `HH:MM`. -/
def offsetChars (offset : Int) : List Char :=
  let minutes := (offset.natAbs + 30) / 60
  (if offset < 0 then '-' else '+') ::
    FixedWidth.digits 10 2 (minutes / 60) ++ ':' :: FixedWidth.digits 10 2 (minutes % 60)

/-- The date and time, joined by a `T`, and the offset as text. -/
def text (t : OffsetDateTime) : String :=
  String.ofList
    (t.dateTime.date.chars ++ 'T' :: t.dateTime.clock.chars ++ offsetChars t.offset)

end OffsetDateTime

end BoundSql
