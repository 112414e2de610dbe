import BoundSql.Proofs.Calendar.Recovery

/-!
# Points of time that share a text

The text of a time at a place tells its offset in minutes only. Values share a text when they show
the same date and time of day, and offsets of one sign that are rounded to the same minutes. They
are then as far apart as their offsets, which is less than a minute, so whole minutes are not lost.
-/

namespace BoundSql

open FixedWidth

/-- The nanoseconds of a point of time. Those of a leap second are counted again in the second that
follows it. -/
def Moment.nanosecond (m : Moment) : Int := 1000000000 * m.second + m.nano

namespace OffsetDateTime

variable {x y : OffsetDateTime}

/-- The date exists, and the fields of the time of day and the offset are in their ranges. -/
def InRange (t : OffsetDateTime) : Prop :=
  t.dateTime.date.Valid ∧ t.dateTime.clock.InRange ∧ -86400 < t.offset ∧ t.offset < 86400

lemma Valid.inRange (valid : x.Valid) : x.InRange := by
  obtain ⟨⟨date, clock⟩, offset⟩ := valid
  exact ⟨date, clock.inRange, offset⟩

/-- All that a text tells is the same of both. -/
structure LooksLike (x y : OffsetDateTime) : Prop where
  date : x.dateTime.date = y.dateTime.date
  hour : x.dateTime.clock.hour = y.dateTime.clock.hour
  minute : x.dateTime.clock.minute = y.dateTime.clock.minute
  nanoOfMinute : x.dateTime.clock.nanoOfMinute = y.dateTime.clock.nanoOfMinute
  sign : x.offset < 0 ↔ y.offset < 0
  offsetMinutes : offsetMinutes x.offset = offsetMinutes y.offset

lemma LooksLike.text_eq (alike : x.LooksLike y) : x.text = y.text := by
  have sign := sign_eq_iff.2 alike.sign
  rw [text, text, Clock.chars_eq, Clock.chars_eq, offsetChars_eq, offsetChars_eq, alike.date,
    alike.hour, alike.minute, alike.nanoOfMinute, sign, alike.offsetMinutes]

lemma looksLike_of_text_eq (inRange : x.InRange) (inRange' : y.InRange) (eq : x.text = y.text) :
    x.LooksLike y := by
  obtain ⟨valid, clock, low, high⟩ := inRange
  obtain ⟨valid', clock', low', high'⟩ := inRange'
  have eq := String.ofList_injective eq
  -- The fraction has no fixed width, but the offset behind it has.
  have width : (offsetChars x.offset).length = (offsetChars y.offset).length := by
    rw [length_offsetChars, length_offsetChars]
  obtain ⟨front, offset⟩ := List.append_inj' eq width
  obtain ⟨sign, offsetMinutes⟩ := offsetChars_inj (by omega) (by omega) offset
  obtain ⟨date, front⟩ := Date.chars_append_inj valid valid' front
  obtain ⟨hour, minute, nano⟩ := Clock.chars_inj clock clock' (List.cons.inj front).2
  exact ⟨date, hour, minute, nano, sign, offsetMinutes⟩

/-- Values that look alike are as far apart as their offsets. -/
lemma LooksLike.nanosecond_sub (alike : x.LooksLike y) :
    x.moment.nanosecond - y.moment.nanosecond = 1000000000 * (y.offset - x.offset) := by
  obtain ⟨date, hour, minute, nano, -, -⟩ := alike
  unfold Clock.nanoOfMinute at nano
  simp only [Moment.nanosecond, moment, LocalDateTime.moment, Clock.secondOfDay, date, hour, minute]
  omega

/-- Offsets that are rounded to the same minutes are less than a minute apart. -/
lemma LooksLike.offset_sub_lt (alike : x.LooksLike y) : (y.offset - x.offset).natAbs < 60 := by
  have sign := alike.sign
  have minutes := alike.offsetMinutes
  unfold OffsetDateTime.offsetMinutes at minutes
  omega

lemma LooksLike.offset_eq (alike : x.LooksLike y) (seconds : x.offset % 60 = y.offset % 60) :
    x.offset = y.offset := by
  have near := alike.offset_sub_lt
  omega

/-- Times of day that look alike are the same if a leap second may only follow the 59th second. -/
lemma LooksLike.dateTime_eq (alike : x.LooksLike y) (valid : x.Valid) (valid' : y.Valid) :
    x.dateTime = y.dateTime := by
  obtain ⟨⟨-, -, -, clock⟩, -⟩ := valid
  obtain ⟨⟨-, -, -, clock'⟩, -⟩ := valid'
  obtain ⟨date, hour, minute, nanoOfMinute, -, -⟩ := alike
  unfold Clock.nanoOfMinute at nanoOfMinute
  have second : x.dateTime.clock.second = y.dateTime.clock.second := by omega
  have nano : x.dateTime.clock.nano = y.dateTime.clock.nano := by omega
  obtain ⟨⟨xDate, ⟨xHour, xMinute, xSecond, xNano⟩⟩, xOffset⟩ := x
  cases date
  cases hour
  cases minute
  cases second
  cases nano
  rfl

/-- Of times that clocks show alike, those at equal offsets are the same. -/
lemma moment_eq_iff (same : x.dateTime = y.dateTime) :
    x.moment = y.moment ↔ x.offset = y.offset := by
  rw [moment, moment, same, Moment.mk.injEq]
  omega

end OffsetDateTime

/--
Which values share a text, and what is then known of the points of time. A text that is shared by
offsets of the same seconds, such as whole minutes, is that of one point of time.
-/
theorem instants_of_shared_text {x y : OffsetDateTime} (inRange : x.InRange)
    (inRange' : y.InRange) :
    (Value.ofOffsetDateTime x = .ofOffsetDateTime y ↔ x.LooksLike y) ∧
    (Value.ofOffsetDateTime x = .ofOffsetDateTime y →
      x.moment.nanosecond - y.moment.nanosecond = 1000000000 * (y.offset - x.offset) ∧
      (y.offset - x.offset).natAbs < 60 ∧
      (x.Valid → y.Valid →
        x.dateTime = y.dateTime ∧ (x.moment = y.moment ↔ x.offset = y.offset) ∧
        (x.offset % 60 = y.offset % 60 → x.moment = y.moment))) := by
  have alike : Value.ofOffsetDateTime x = .ofOffsetDateTime y → x.LooksLike y := fun eq =>
    OffsetDateTime.looksLike_of_text_eq inRange inRange' (Value.text.inj eq)
  refine ⟨⟨alike, fun alike => congrArg Value.text alike.text_eq⟩, fun eq => ?_⟩
  have alike := alike eq
  refine ⟨alike.nanosecond_sub, alike.offset_sub_lt, fun valid valid' => ?_⟩
  have same := alike.dateTime_eq valid valid'
  have moments := OffsetDateTime.moment_eq_iff same
  exact ⟨same, moments, fun seconds => moments.2 (alike.offset_eq seconds)⟩

/-- A leap second at three offsets of about an hour: the first two share a text and are 29 seconds
apart, the third has another text. -/
theorem instants_of_shared_text_leap_second :
    let leap : LocalDateTime := ⟨⟨2016, 12, 31⟩, ⟨23, 59, 59, 1500000000⟩⟩
    let x : OffsetDateTime := ⟨leap, 3600⟩
    let y : OffsetDateTime := ⟨leap, 3629⟩
    let z : OffsetDateTime := ⟨leap, 3660⟩
    (x.Valid ∧ y.Valid ∧ z.Valid) ∧
    (Value.ofOffsetDateTime x = .ofOffsetDateTime y ∧
      x.moment.nanosecond - y.moment.nanosecond = 29000000000) ∧
    Value.ofOffsetDateTime x ≠ .ofOffsetDateTime z := by
  intro leap x y z
  have valid : leap.Valid := ⟨by decide, by decide⟩
  have validX : x.Valid := ⟨valid, by decide⟩
  have validY : y.Valid := ⟨valid, by decide⟩
  have validZ : z.Valid := ⟨valid, by decide⟩
  obtain ⟨shared, near⟩ := instants_of_shared_text validX.inRange validY.inRange
  have same : Value.ofOffsetDateTime x = .ofOffsetDateTime y :=
    shared.2 ⟨rfl, rfl, rfl, rfl, by decide, by decide⟩
  obtain ⟨-, whole⟩ := instants_of_shared_text validX.inRange validZ.inRange
  refine ⟨⟨validX, validY, validZ⟩, ⟨same, (near same).1⟩, fun eq => ?_⟩
  obtain ⟨-, -, instants⟩ := whole eq
  obtain ⟨-, -, one⟩ := instants validX validZ
  exact absurd (one rfl) (by decide)

/-- The seconds of an offset are not in its text, so two points of time can share one. -/
theorem shared_text_of_two_instants :
    let midnight : LocalDateTime := ⟨⟨1970, 1, 1⟩, ⟨0, 0, 0, 0⟩⟩
    let x : OffsetDateTime := ⟨midnight, 0⟩
    let y : OffsetDateTime := ⟨midnight, 29⟩
    (x.Valid ∧ y.Valid) ∧ Value.ofOffsetDateTime x = .ofOffsetDateTime y ∧ x.moment ≠ y.moment := by
  intro midnight x y
  have valid : midnight.Valid := ⟨by decide, by decide⟩
  have alike : x.LooksLike y := ⟨rfl, rfl, rfl, rfl, by decide, by decide⟩
  exact ⟨⟨⟨valid, by decide⟩, ⟨valid, by decide⟩⟩, congrArg Value.text alike.text_eq, by decide⟩

end BoundSql
