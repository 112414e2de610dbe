import BoundSql.Proofs.Calendar.DayNumber
import BoundSql.Proofs.Calendar.Lexical
import BoundSql.Proofs.Filter
import BoundSql.Value.Conversion

/-!
# Texts in the order of time

As long as a year has four digits, the texts of dates and times are in the order of time: each field
has a fixed width, and larger units stand in front of smaller ones. Only the fraction of a second has
no fixed width. It is followed by nothing or by a plus sign, which sort before a decimal point and
before a digit. So a comparison of texts by an operator of SQL is a comparison of times.
-/

namespace BoundSql

open FixedWidth FilterSteps

namespace Date

variable {d e : Date} {s t : List Char}

/-- Four digits suffice for the year. -/
def FourDigits (d : Date) : Prop := 0 ≤ d.year ∧ d.year ≤ 9999

instance (d : Date) : Decidable d.FourDigits := inferInstanceAs (Decidable (_ ∧ _))

/-- Of two dates the earlier one sorts first, whatever follows them. -/
lemma chars_append_lt (years : d.FourDigits) (years' : e.FourDigits) (valid : e.Valid)
    (order : d.Earlier e ∨ (d = e ∧ s < t)) : d.chars ++ s < e.chars ++ t := by
  obtain ⟨-, month, -, day⟩ := valid
  obtain ⟨nonneg, le⟩ := years
  obtain ⟨nonneg', le'⟩ := years'
  have fields : d.year.toNat < e.year.toNat ∨ (d.year.toNat = e.year.toNat ∧
      (d.month < e.month ∨ (d.month = e.month ∧ (d.day < e.day ∨ (d.day = e.day ∧ s < t))))) := by
    obtain earlier | ⟨rfl, lt⟩ := order
    · unfold Earlier at earlier
      omega
    · exact .inr ⟨rfl, .inr ⟨rfl, .inr ⟨rfl, lt⟩⟩⟩
  have day' : e.day < 100 := by
    have := daysInMonth_le e.year e.month
    omega
  have year' : e.year.toNat < 10000 := by omega
  rw [chars, chars, yearDigits, yearDigits, if_pos ⟨nonneg, le⟩, if_pos ⟨nonneg', le'⟩]
  simp only [List.append_assoc, List.cons_append]
  -- Each field decides, or is the same in both and leaves the decision to what follows it.
  apply digits_append_lt year'
  refine fields.imp_right (And.imp_right fun fields => List.cons_lt_cons_self.2 ?_)
  apply digits_append_lt (show e.month < 100 by omega)
  refine fields.imp_right (And.imp_right fun fields => List.cons_lt_cons_self.2 ?_)
  exact digits_append_lt day' fields

lemma text_lt (years : d.FourDigits) (years' : e.FourDigits) (valid : d.Valid) (valid' : e.Valid)
    (earlier : d.dayNumber < e.dayNumber) : d.text < e.text := by
  have first := (dayNumber_lt_iff valid valid').1 earlier
  have lt : d.chars ++ [] < e.chars ++ [] := chars_append_lt years years' valid' (.inl first)
  rw [List.append_nil, List.append_nil] at lt
  rwa [String.lt_iff, text, text, String.toList_ofList, String.toList_ofList]

lemma dayNumber_trichotomy (valid : d.Valid) (valid' : e.Valid) :
    d.dayNumber < e.dayNumber ∨ d = e ∨ e.dayNumber < d.dayNumber := by
  rw [← dayNumber_inj valid valid']
  omega

end Date

namespace Clock

variable {c d : Clock} {n m : Nat} {tail : List Char}

/-- A fraction is empty, or a decimal point and digits that are exact. -/
lemma fractionChars_cases (bound : n < 1000000000) :
    (n = 0 ∧ fractionChars n = []) ∨
      ∃ p a, a < Nat.pow 10 p ∧ n * Nat.pow 10 p = a * 1000000000 ∧
        fractionChars n = '.' :: digits 10 p a := by
  have three : Nat.pow 10 3 = 1000 := rfl
  have six : Nat.pow 10 6 = 1000000 := rfl
  have nine : Nat.pow 10 9 = 1000000000 := rfl
  unfold fractionChars
  split
  next zero => exact .inl ⟨zero, rfl⟩
  next =>
    split
    next => exact .inr ⟨3, n / 1000000, by omega, by rw [three]; omega, rfl⟩
    next =>
      split
      next => exact .inr ⟨6, n / 1000, by omega, by rw [six]; omega, rfl⟩
      next => exact .inr ⟨9, n, by omega, by rw [nine], rfl⟩

/-- Fractions are in the order of the nanoseconds. -/
lemma fractionChars_lt (closing : Closing tail) (lt : n < m) (bound : m < 1000000000) :
    fractionChars n ++ tail < fractionChars m ++ tail := by
  obtain ⟨zero, -⟩ | ⟨q, b, fits, scaled', eq'⟩ := fractionChars_cases bound
  · omega
  rw [eq']
  obtain ⟨-, eq⟩ | ⟨p, a, -, scaled, eq⟩ := fractionChars_cases (Nat.lt_trans lt bound)
  · rw [eq]
    exact closing '.' _ (Std.le_refl _)
  · rw [eq]
    refine List.cons_lt_cons_self.2 (fraction_lt closing ?_ fits)
    have positive : 0 < Nat.pow 10 p * Nat.pow 10 q := Nat.mul_pos (pow_ten_pos p) (pow_ten_pos q)
    -- Both fractions are scaled to nanoseconds.
    apply Nat.lt_of_mul_lt_mul_right (a := 1000000000)
    calc a * Nat.pow 10 q * 1000000000 = n * (Nat.pow 10 p * Nat.pow 10 q) := by
          rw [Nat.mul_right_comm, ← scaled, Nat.mul_assoc]
      _ < m * (Nat.pow 10 p * Nat.pow 10 q) := Nat.mul_lt_mul_of_pos_right lt positive
      _ = b * Nat.pow 10 p * 1000000000 := by
          rw [Nat.mul_right_comm b, ← scaled', Nat.mul_assoc, Nat.mul_comm (Nat.pow 10 p)]

/-- The clock shows the earlier time; a leap second comes behind the second that it follows. -/
def Earlier (c d : Clock) : Prop :=
  c.secondOfDay < d.secondOfDay ∨ (c.secondOfDay = d.secondOfDay ∧ c.nano < d.nano)

lemma earlier_trichotomy (valid : c.Valid) (valid' : d.Valid) :
    c.Earlier d ∨ c = d ∨ d.Earlier c := by
  obtain ⟨hour, minute, second, nano⟩ := c
  obtain ⟨hour', minute', second', nano'⟩ := d
  simp only [Valid] at valid valid'
  simp only [Earlier, secondOfDay, mk.injEq]
  omega

/-- The earlier time is so by the hour, the minute, the second that is shown and its fraction. -/
lemma Earlier.fields (earlier : c.Earlier d) (valid : c.Valid) (valid' : d.Valid) :
    c.hour < d.hour ∨ (c.hour = d.hour ∧ (c.minute < d.minute ∨ (c.minute = d.minute ∧
      (c.second + c.nano / 1000000000 < d.second + d.nano / 1000000000 ∨
        (c.second + c.nano / 1000000000 = d.second + d.nano / 1000000000 ∧
          c.nano % 1000000000 < d.nano % 1000000000))))) := by
  unfold Valid at valid valid'
  unfold Earlier secondOfDay at earlier
  omega

/-- Of two times of day the earlier one sorts first. -/
lemma Earlier.chars_append_lt (earlier : c.Earlier d) (valid : c.Valid) (valid' : d.Valid)
    (closing : Closing tail) : c.chars ++ tail < d.chars ++ tail := by
  have fields := earlier.fields valid valid'
  obtain ⟨hour, minute, second, nano⟩ := valid'
  have shown : d.second + d.nano / 1000000000 < 100 := by omega
  have fraction : d.nano % 1000000000 < 1000000000 := Nat.mod_lt _ (by decide)
  simp only [chars, List.append_assoc, List.cons_append]
  apply digits_append_lt (show d.hour < 100 by omega)
  refine fields.imp_right (And.imp_right fun fields => List.cons_lt_cons_self.2 ?_)
  apply digits_append_lt (show d.minute < 100 by omega)
  refine fields.imp_right (And.imp_right fun fields => List.cons_lt_cons_self.2 ?_)
  apply digits_append_lt shown
  exact fields.imp_right (And.imp_right fun lt => fractionChars_lt closing lt fraction)

end Clock

namespace LocalDateTime

variable {x y : LocalDateTime} {tail : List Char}

/-- What is earlier on the time line has the earlier date, or the earlier time on one date. -/
lemma before_iff (valid : x.Valid) (valid' : y.Valid) :
    x.moment.Before y.moment ↔
      x.date.Earlier y.date ∨ (x.date = y.date ∧ x.clock.Earlier y.clock) := by
  obtain ⟨date, clock⟩ := valid
  obtain ⟨date', clock'⟩ := valid'
  rw [← Date.dayNumber_lt_iff date date', ← Date.dayNumber_inj date date']
  unfold Clock.Valid at clock clock'
  simp only [Moment.Before, moment, Clock.Earlier, Clock.secondOfDay]
  omega

lemma before_trichotomy (valid : x.Valid) (valid' : y.Valid) :
    x.moment.Before y.moment ∨ x = y ∨ y.moment.Before x.moment := by
  rw [before_iff valid valid', before_iff valid' valid]
  obtain ⟨date, clock⟩ := x
  obtain ⟨date', clock'⟩ := y
  obtain earlier | rfl | later := date.earlier_trichotomy date'
  · exact .inl (.inl earlier)
  · obtain earlier | rfl | later := Clock.earlier_trichotomy valid.2 valid'.2
    · exact .inl (.inr ⟨rfl, earlier⟩)
    · exact .inr (.inl rfl)
    · exact .inr (.inr (.inr ⟨rfl, later⟩))
  · exact .inr (.inr (.inl later))

/-- Of two dates with a time the earlier one sorts first. -/
lemma chars_lt (valid : x.Valid) (valid' : y.Valid) (years : x.date.FourDigits)
    (years' : y.date.FourDigits) (before : x.moment.Before y.moment) (separator : Char)
    (closing : Closing tail) :
    x.date.chars ++ separator :: x.clock.chars ++ tail <
      y.date.chars ++ separator :: y.clock.chars ++ tail := by
  rw [List.append_assoc, List.append_assoc]
  apply Date.chars_append_lt years years' valid'.1
  obtain earlier | ⟨same, earlier⟩ := (before_iff valid valid').1 before
  · exact .inl earlier
  · have lt := earlier.chars_append_lt valid.2 valid'.2 closing
    exact .inr ⟨same, List.cons_lt_cons_self.2 lt⟩

lemma text_lt (valid : x.Valid) (valid' : y.Valid) (years : x.date.FourDigits)
    (years' : y.date.FourDigits) (before : x.moment.Before y.moment) : x.text < y.text := by
  have lt := chars_lt valid valid' years years' before ' ' closing_nil
  rw [List.append_nil, List.append_nil] at lt
  rwa [String.lt_iff, text, text, String.toList_ofList, String.toList_ofList]

lemma universal_text_lt (valid : x.Valid) (valid' : y.Valid) (years : x.date.FourDigits)
    (years' : y.date.FourDigits) (before : x.moment.Before y.moment) :
    (OffsetDateTime.universal x).text < (OffsetDateTime.universal y).text := by
  have closing : Closing (OffsetDateTime.offsetChars 0) := closing_plus _
  have lt := chars_lt valid valid' years years' before 'T' closing
  rwa [String.lt_iff, OffsetDateTime.text, OffsetDateTime.text, String.toList_ofList,
    String.toList_ofList]

end LocalDateTime

lemma OffsetDateTime.moment_universal (t : LocalDateTime) : (universal t).moment = t.moment := by
  rw [moment, universal, Int.sub_zero]

/-- What an operator of SQL asks of the texts on its two sides. -/
def Operator.Holds (operator s t : String) : Prop :=
  match operator with
  | "=" => s = t
  | "!=" => s ≠ t
  | "<" => s < t
  | "<=" => s < t ∨ s = t
  | ">" => t < s
  | ">=" => t < s ∨ s = t
  | _ => False

/--
A method that compares a field with the text `t`, and its twin. They add a clause with the operator
and this text. Of a field with the text `s` the operator holds exactly if `asked`.
-/
structure Compares (method : ∀ {step : Type} [FilterSteps step], String → Value → step)
    (twin : ∀ {step : Type} [FilterSteps step], String → Value → Bool → step)
    (operator s t : String) (asked : Prop) : Prop where
  adds (field : String) : Adds (method field (.text t)) (twin field (.text t))
    ⟨field ++ " " ++ operator ++ " ?", some (.single (.text t))⟩
  holds : Operator.Holds operator s t ↔ asked

/-- Two values are bound as texts that are in the given order, and methods that compare a field with
the second of them ask for this order. -/
def SortAs (v w : Value) (before same after : Prop) : Prop :=
  ∃ s t, v = .text s ∧ w = .text t ∧ (s < t ↔ before) ∧ (s = t ↔ same) ∧ (t < s ↔ after) ∧
    Compares whereIsEqual whereIsEqualIf "=" s t same ∧
    Compares whereIsNotEqual whereIsNotEqualIf "!=" s t (¬ same) ∧
    Compares whereIsLessThan whereIsLessThanIf "<" s t before ∧
    Compares whereIsLessThanOrEqualTo whereIsLessThanOrEqualToIf "<=" s t (before ∨ same) ∧
    Compares whereIsGreaterThan whereIsGreaterThanIf ">" s t after ∧
    Compares whereIsGreaterThanOrEqualTo whereIsGreaterThanOrEqualToIf ">=" s t (after ∨ same)

/-- Methods that add the filter of a comparison write the operator of this comparison. -/
lemma Compares.of_comparison (comparison : Comparison)
    {method : ∀ {step : Type} [FilterSteps step], String → Value → step}
    {twin : ∀ {step : Type} [FilterSteps step], String → Value → Bool → step} {s t : String}
    {asked : Prop}
    (plain : ∀ {step : Type} [FilterSteps step] (field : String) (v : Value),
      (method field v : step) = filter (.compare comparison field v))
    (checked : ∀ {step : Type} [FilterSteps step] (field : String) (v : Value) (check : Bool),
      (twin field v check : step) = filterIf check (.compare comparison field v))
    (holds : Operator.Holds comparison.operator s t ↔ asked) :
    Compares method twin comparison.operator s t asked where
  adds field := by
    have written : (Filter.compare comparison field (.text t)).written =
        ⟨field ++ " " ++ comparison.operator ++ " ?", some (.single (.text t))⟩ := by
      rw [← Filter.toPredicate_eq_written]
      rfl
    rw [← written]
    exact .of_filter _ (plain field _) (checked field _)
  holds := holds

/-- It suffices that the texts are in the given order. -/
lemma SortAs.of_texts {s t : String} {before same after : Prop} (lt : s < t ↔ before)
    (eq : s = t ↔ same) (gt : t < s ↔ after) :
    SortAs (.text s) (.text t) before same after := by
  refine ⟨s, t, rfl, rfl, lt, eq, gt, ?_, ?_, ?_, ?_, ?_, ?_⟩
  · exact .of_comparison .equal (fun _ _ => rfl) (fun _ _ _ => rfl) eq
  · exact .of_comparison .notEqual (fun _ _ => rfl) (fun _ _ _ => rfl) (not_congr eq)
  · exact .of_comparison .less (fun _ _ => rfl) (fun _ _ _ => rfl) lt
  · exact .of_comparison .lessOrEqual (fun _ _ => rfl) (fun _ _ _ => rfl) (or_congr lt eq)
  · exact .of_comparison .greater (fun _ _ => rfl) (fun _ _ _ => rfl) gt
  · exact .of_comparison .greaterOrEqual (fun _ _ => rfl) (fun _ _ _ => rfl) (or_congr gt eq)

section Rising

variable {α : Type} (earlier : α → α → Prop) (text : α → String) {x y : α}

lemma text_lt_iff_of_rising (total : earlier x y ∨ x = y ∨ earlier y x)
    (rising : earlier x y → text x < text y) (falling : earlier y x → text y < text x) :
    text x < text y ↔ earlier x y := by
  refine ⟨fun lt => ?_, rising⟩
  obtain before | rfl | after := total
  · exact before
  · exact absurd lt (String.lt_irrefl _)
  · exact absurd lt (String.lt_asymm (falling after))

/-- It suffices that texts rise with what they stand for. -/
lemma SortAs.of_rising (total : earlier x y ∨ x = y ∨ earlier y x)
    (rising : earlier x y → text x < text y) (falling : earlier y x → text y < text x) :
    SortAs (.text (text x)) (.text (text y)) (earlier x y) (x = y) (earlier y x) := by
  have total' : earlier y x ∨ y = x ∨ earlier x y := by
    obtain before | same | after := total
    · exact .inr (.inr before)
    · exact .inr (.inl same.symm)
    · exact .inl after
  have before := text_lt_iff_of_rising earlier text total rising falling
  have after := text_lt_iff_of_rising earlier text total' falling rising
  have same : text x = text y ↔ x = y := by
    refine ⟨fun eq => ?_, congrArg text⟩
    rw [← before, ← after, eq] at total
    obtain lt | same | lt := total
    · exact absurd lt (String.lt_irrefl _)
    · exact same
    · exact absurd lt (String.lt_irrefl _)
  exact .of_texts before same after

end Rising

/-- Dates and times are bound as texts that sort by time, as long as years have four digits. -/
theorem texts_sort_by_time :
    (∀ x y : Date, x.Valid → y.Valid → x.FourDigits → y.FourDigits →
      SortAs (.ofDate x) (.ofDate y) (x.dayNumber < y.dayNumber) (x = y)
        (y.dayNumber < x.dayNumber)) ∧
    (∀ x y : LocalDateTime, x.Valid → y.Valid → x.date.FourDigits → y.date.FourDigits →
      SortAs (.ofLocalDateTime x) (.ofLocalDateTime y) (x.moment.Before y.moment) (x = y)
        (y.moment.Before x.moment)) ∧
    ∀ x y : OffsetDateTime, x.Valid → y.Valid → x.offset = 0 → y.offset = 0 →
      x.dateTime.date.FourDigits → y.dateTime.date.FourDigits →
      SortAs (.ofOffsetDateTime x) (.ofOffsetDateTime y) (x.moment.Before y.moment) (x = y)
        (y.moment.Before x.moment) := by
  refine ⟨fun x y valid valid' years years' => ?_, fun x y valid valid' years years' => ?_, ?_⟩
  · exact SortAs.of_rising (fun d e => d.dayNumber < e.dayNumber) Date.text
      (Date.dayNumber_trichotomy valid valid') (Date.text_lt years years' valid valid')
      (Date.text_lt years' years valid' valid)
  · exact SortAs.of_rising (fun x y => x.moment.Before y.moment) LocalDateTime.text
      (LocalDateTime.before_trichotomy valid valid')
      (LocalDateTime.text_lt valid valid' years years')
      (LocalDateTime.text_lt valid' valid years' years)
  · rintro ⟨x, _⟩ ⟨y, _⟩ ⟨valid, -⟩ ⟨valid', -⟩ rfl rfl years years'
    have sorted := SortAs.of_rising (fun x y => x.moment.Before y.moment)
      (fun t => (OffsetDateTime.universal t).text) (LocalDateTime.before_trichotomy valid valid')
      (LocalDateTime.universal_text_lt valid valid' years years')
      (LocalDateTime.universal_text_lt valid' valid years' years)
    have same : OffsetDateTime.universal x = OffsetDateTime.universal y ↔ x = y :=
      ⟨congrArg OffsetDateTime.dateTime, congrArg OffsetDateTime.universal⟩
    show SortAs (.ofOffsetDateTime (.universal x)) (.ofOffsetDateTime (.universal y))
      ((OffsetDateTime.universal x).moment.Before (OffsetDateTime.universal y).moment)
      (OffsetDateTime.universal x = OffsetDateTime.universal y)
      ((OffsetDateTime.universal y).moment.Before (OffsetDateTime.universal x).moment)
    rw [OffsetDateTime.moment_universal, OffsetDateTime.moment_universal, same]
    exact sorted

/-- The end of a year with a leap second: the fractions differ in their width, one of them is behind
the second 60, and another text is the beginning of the next. -/
theorem texts_sort_by_time_leap_second :
    let eve : Date := ⟨2016, 12, 31⟩
    let newYear : Date := ⟨2017, 1, 1⟩
    let whole : LocalDateTime := ⟨eve, ⟨23, 59, 59, 0⟩⟩
    let late : LocalDateTime := ⟨eve, ⟨23, 59, 59, 999000⟩⟩
    let leap : LocalDateTime := ⟨eve, ⟨23, 59, 59, 1500000000⟩⟩
    let beforeNewYear : Select := Select.empty.run [whereIsLessThan "d" (.ofDate newYear)]
    (eve.Valid ∧ newYear.Valid ∧ eve.FourDigits ∧ newYear.FourDigits ∧
      ∃ s t, Value.ofDate eve = .text s ∧ Value.ofDate newYear = .text t ∧ s < t ∧
        beforeNewYear.predicates.items = [⟨"d < ?", some (.single (.text t))⟩] ∧
        Operator.Holds "<" s t) ∧
    (whole.Valid ∧ late.Valid ∧
      ∃ s t, Value.ofLocalDateTime whole = .text s ∧ Value.ofLocalDateTime late = .text t ∧
        s < t) ∧
    leap.Valid ∧ ∃ s t, Value.ofOffsetDateTime (.universal late) = .text s ∧
      Value.ofOffsetDateTime (.universal leap) = .text t ∧ s < t := by
  intro eve newYear whole late leap beforeNewYear
  have valid : eve.Valid := by decide
  have valid' : newYear.Valid := by decide
  have years : eve.FourDigits := by decide
  have wholeValid : whole.Valid := ⟨valid, by decide⟩
  have lateValid : late.Valid := ⟨valid, by decide⟩
  have leapValid : leap.Valid := ⟨valid, by decide⟩
  have years' : newYear.FourDigits := by decide
  have earlier : eve.dayNumber < newYear.dayNumber := by decide
  obtain ⟨dates, locals, universals⟩ := texts_sort_by_time
  obtain ⟨s, t, first, second, lt, -, -, -, -, less, -⟩ :=
    dates eve newYear valid valid' years years'
  obtain ⟨s', t', first', second', lt', -⟩ := locals whole late wholeValid lateValid years years
  obtain ⟨s'', t'', first'', second'', lt'', -⟩ := universals (.universal late) (.universal leap)
    ⟨lateValid, by decide⟩ ⟨leapValid, by decide⟩ rfl rfl years years
  have added : beforeNewYear.predicates.items = [⟨"d < ?", some (.single (.text t))⟩] := by
    show ((whereIsLessThan "d" (.ofDate newYear) : Select.Step).apply .empty).predicates.items = _
    rw [second, (less.adds "d").select]
    rfl
  exact ⟨⟨valid, valid', years, years', s, t, first, second, lt.2 earlier, added,
      less.holds.2 earlier⟩,
    ⟨wholeValid, lateValid, s', t', first', second', lt'.2 (.inr ⟨rfl, by decide⟩)⟩,
    leapValid, s'', t'', first'', second'', lt''.2 (.inr ⟨rfl, by decide⟩)⟩

end BoundSql
