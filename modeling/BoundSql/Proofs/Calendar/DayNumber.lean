import BoundSql.Calendar.Date
import Mathlib.Tactic.Lemma

/-!
# Day numbers

Day numbers order the days of the calendar as year, month and day of the month do. The year is taken
to begin in March, as `dayNumber` does: each such year ends where the next begins, and each month of it
ends where the next begins.
-/

namespace BoundSql.Date

variable {d e : Date}

/-- The date comes first by year, month and day. -/
def Earlier (d e : Date) : Prop :=
  d.year < e.year ∨ (d.year = e.year ∧
    (d.month < e.month ∨ (d.month = e.month ∧ d.day < e.day)))

/-- The year that a date is in if years begin in March. -/
def marchYear (d : Date) : Int := if d.month ≤ 2 then d.year - 1 else d.year

/-- The number of months since March. -/
def monthsPast (d : Date) : Nat := (d.month + 9) % 12

/-- The number of the first of March of a year. -/
def firstOfMarch (year : Int) : Int := 365 * year + year / 4 - year / 100 + year / 400

/-- The number of days before a month in a year that begins in March. -/
def daysBefore (monthsPast : Nat) : Nat := (153 * monthsPast + 2) / 5

lemma dayNumber_eq (d : Date) :
    d.dayNumber = firstOfMarch d.marchYear + daysBefore d.monthsPast + d.day - 1 := rfl

/-- From March to March there are as many days as the year has that the second one lies in. -/
lemma firstOfMarch_succ (year : Int) :
    firstOfMarch (year + 1) = firstOfMarch year + daysBefore 11 + daysInMonth (year + 1) 2 := by
  have february : daysInMonth (year + 1) 2 = if isLeapYear (year + 1) then 29 else 28 := rfl
  have others : daysBefore 11 = 337 := rfl
  rw [february, others]
  unfold firstOfMarch
  split
  next leap =>
    simp only [isLeapYear, Bool.and_eq_true, Bool.or_eq_true, decide_eq_true_eq] at leap
    omega
  next common =>
    simp only [isLeapYear, Bool.and_eq_true, Bool.or_eq_true, decide_eq_true_eq] at common
    omega

lemma daysInMonth_le (year : Int) (month : Nat) : daysInMonth year month ≤ 31 := by
  unfold daysInMonth
  split
  · split <;> decide
  · split <;> decide

lemma firstOfMarch_mono {year year' : Int} (le : year ≤ year') :
    firstOfMarch year ≤ firstOfMarch year' := by
  unfold firstOfMarch
  omega

lemma daysBefore_mono {m n : Nat} (le : m ≤ n) : daysBefore m ≤ daysBefore n := by
  unfold daysBefore
  omega

/-- A month that is not the last of its year ends where the next one begins. -/
lemma daysBefore_succ (valid : d.Valid) (inner : d.month ≠ 2) :
    daysBefore (d.monthsPast + 1) = daysBefore d.monthsPast + daysInMonth d.year d.month := by
  obtain ⟨first, last, -, -⟩ := valid
  have all : ∀ month < 13, 1 ≤ month → month ≠ 2 → daysBefore ((month + 9) % 12 + 1) =
      daysBefore ((month + 9) % 12) + if month ∈ [4, 6, 9, 11] then 30 else 31 := by decide
  rw [daysInMonth, if_neg inner]
  exact all d.month (Nat.lt_succ_of_le last) first inner

/-- A date lies before the next first of March. -/
lemma dayNumber_lt_firstOfMarch (valid : d.Valid) :
    d.dayNumber < firstOfMarch (d.marchYear + 1) := by
  have inside : d.day ≤ daysInMonth d.year d.month := valid.2.2.2
  rw [firstOfMarch_succ, dayNumber_eq]
  -- February is the last month of its year; any other ends where the next one begins.
  by_cases february : d.month = 2
  · have year : d.marchYear + 1 = d.year := by
      unfold marchYear
      split <;> omega
    have months : d.monthsPast = 11 := by
      rw [monthsPast, february]
    rw [year, months]
    rw [february] at inside
    omega
  · have next := daysBefore_succ valid february
    have within : daysBefore (d.monthsPast + 1) ≤ daysBefore 11 := by
      apply daysBefore_mono
      have := valid.2.1
      unfold monthsPast
      omega
    omega

/-- Of two dates in one year, that of the earlier month has the smaller number. -/
lemma dayNumber_lt_of_monthsPast_lt (valid : d.Valid) (valid' : e.Valid)
    (year : d.marchYear = e.marchYear) (months : d.monthsPast < e.monthsPast) :
    d.dayNumber < e.dayNumber := by
  have inside : d.day ≤ daysInMonth d.year d.month := valid.2.2.2
  have begun : 1 ≤ e.day := valid'.2.2.1
  have inner : d.month ≠ 2 := by
    intro february
    unfold monthsPast at months
    omega
  have next := daysBefore_succ valid inner
  have le : daysBefore (d.monthsPast + 1) ≤ daysBefore e.monthsPast := daysBefore_mono months
  rw [dayNumber_eq, dayNumber_eq, year]
  omega

/-- What comes first from January on also comes first from March on. -/
lemma Earlier.march (earlier : d.Earlier e) (valid : d.Valid) (valid' : e.Valid) :
    d.marchYear < e.marchYear ∨ (d.marchYear = e.marchYear ∧
      (d.monthsPast < e.monthsPast ∨ (d.monthsPast = e.monthsPast ∧ d.day < e.day))) := by
  obtain ⟨first, last, -⟩ := valid
  obtain ⟨first', last', -⟩ := valid'
  unfold Earlier at earlier
  unfold marchYear monthsPast
  split <;> split <;> omega

/-- The day numbers of dates rise with year, month and day. -/
lemma Earlier.dayNumber_lt (earlier : d.Earlier e) (valid : d.Valid) (valid' : e.Valid) :
    d.dayNumber < e.dayNumber := by
  obtain year | ⟨year, months | ⟨months, day⟩⟩ := earlier.march valid valid'
  · have begun : 1 ≤ e.day := valid'.2.2.1
    have before := dayNumber_lt_firstOfMarch valid
    have after := firstOfMarch_mono (Int.add_one_le_of_lt year)
    rw [dayNumber_eq e]
    omega
  · exact dayNumber_lt_of_monthsPast_lt valid valid' year months
  · rw [dayNumber_eq, dayNumber_eq, year, months]
    omega

lemma earlier_trichotomy (d e : Date) : d.Earlier e ∨ d = e ∨ e.Earlier d := by
  obtain ⟨year, month, day⟩ := d
  obtain ⟨year', month', day'⟩ := e
  simp only [Earlier, mk.injEq]
  omega

/-- Day numbers order the dates of the calendar. -/
lemma dayNumber_lt_iff (valid : d.Valid) (valid' : e.Valid) :
    d.dayNumber < e.dayNumber ↔ d.Earlier e := by
  refine ⟨fun lt => ?_, fun earlier => earlier.dayNumber_lt valid valid'⟩
  obtain earlier | rfl | later := d.earlier_trichotomy e
  · exact earlier
  · omega
  · have := later.dayNumber_lt valid' valid
    omega

/-- Different dates have different numbers. -/
lemma dayNumber_inj (valid : d.Valid) (valid' : e.Valid) : d.dayNumber = e.dayNumber ↔ d = e := by
  refine ⟨fun same => ?_, fun eq => eq ▸ rfl⟩
  obtain earlier | eq | later := d.earlier_trichotomy e
  · have := earlier.dayNumber_lt valid valid'
    omega
  · exact eq
  · have := later.dayNumber_lt valid' valid
    omega

end BoundSql.Date
