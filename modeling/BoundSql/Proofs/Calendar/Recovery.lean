import BoundSql.Proofs.Calendar.Chronology

/-!
# Fields recovered from texts

What the texts of dates, times of day and offsets tell. Numbers of a fixed width are told from what
follows them by their width, and a year of more digits by the hyphen behind it. A clock shows a leap
second as it would show the second behind it, and an offset is shown in minutes: neither text tells
more than that.
-/

namespace BoundSql

namespace FixedWidth

variable {n m width : Nat} {s t : List Char} {a b : Int}

/-- Numbers are equal if their texts are, and one text sorts first if its number is smaller. -/
lemma eq_of_rising (rising : n < m → s < t) (falling : m < n → t < s) (eq : s = t) : n = m := by
  obtain lt | same | lt := Nat.lt_trichotomy n m
  · exact absurd (eq ▸ rising lt) (List.lt_irrefl _)
  · exact same
  · exact absurd (eq ▸ falling lt) (List.lt_irrefl _)

/-- Numbers of one width are told from what follows them. -/
lemma digits_append_inj (bound : n < Nat.pow 10 width) (bound' : m < Nat.pow 10 width)
    (eq : digits 10 width n ++ s = digits 10 width m ++ t) : n = m ∧ s = t := by
  have same : n = m := by
    apply eq_of_rising _ _ eq
    · exact fun lt => digits_append_lt bound' (.inl lt)
    · exact fun lt => digits_append_lt bound (.inl lt)
  rw [same] at eq
  exact ⟨same, List.append_cancel_left eq⟩

lemma digits_inj (bound : n < Nat.pow 10 width) (bound' : m < Nat.pow 10 width)
    (eq : digits 10 width n = digits 10 width m) : n = m :=
  (digits_append_inj bound bound' (congrArg (· ++ []) eq)).1

lemma isDigit_of_mem_atLeast {c : Char} (mem : c ∈ atLeast width n) : c.isDigit := by
  rw [atLeast, List.leftpad, List.mem_append] at mem
  obtain filling | digit := mem
  · rw [(List.mem_replicate.1 filling).2]
    rfl
  · exact Nat.isDigit_of_mem_toDigits (by decide) (by decide) digit

lemma ofDigitChars_atLeast (width n : Nat) : Nat.ofDigitChars 10 (atLeast width n) 0 = n := by
  rw [atLeast, List.leftpad, Nat.ofDigitChars_append, Nat.ofDigitChars_replicate_zero, Nat.mul_zero,
    Nat.ofDigitChars_ten_toDigits]

lemma takeWhile_atLeast (width n : Nat) (s : List Char) :
    (atLeast width n ++ '-' :: s).takeWhile Char.isDigit = atLeast width n := by
  rw [List.takeWhile_append_of_pos fun _ mem => isDigit_of_mem_atLeast mem,
    List.takeWhile_cons_of_neg (by decide), List.append_nil]

/-- Numbers of any widths are told from what follows them by a hyphen in between. -/
lemma atLeast_append_inj (eq : atLeast width n ++ '-' :: s = atLeast width m ++ '-' :: t) :
    n = m ∧ s = t := by
  have front : atLeast width n = atLeast width m := by
    rw [← takeWhile_atLeast width n s, eq, takeWhile_atLeast]
  have number : n = m := by
    rw [← ofDigitChars_atLeast width n, front, ofDigitChars_atLeast]
  rw [front] at eq
  exact ⟨number, (List.cons.inj (List.append_cancel_left eq)).2⟩

lemma sign_eq_iff :
    (if a < 0 then '-' else '+') = (if b < 0 then '-' else '+') ↔ (a < 0 ↔ b < 0) := by
  by_cases negative : a < 0 <;> by_cases negative' : b < 0 <;> simp [negative, negative']

/-- Digits do not begin with a sign: it sorts before a decimal point, and they sort behind it. -/
lemma digits_append_ne_sign :
    digits 10 (width + 1) n ++ s ≠ (if a < 0 then '-' else '+') :: t := by
  intro eq
  obtain ⟨c, rest, le, first⟩ := exists_digits_succ width n
  rw [first] at eq
  have same : c = if a < 0 then '-' else '+' := (List.cons.inj eq).1
  have lt : (if a < 0 then '-' else '+') < '.' := by split <;> decide
  exact absurd lt (same ▸ Std.not_lt.2 le)

end FixedWidth

open FixedWidth

namespace Date

variable {year year' : Int} {d e : Date} {s t : List Char}

/-- A year is told from what follows it by a hyphen in between. -/
lemma yearDigits_append_inj (eq : yearDigits year ++ '-' :: s = yearDigits year' ++ '-' :: t) :
    year = year' ∧ s = t := by
  by_cases short : 0 ≤ year ∧ year ≤ 9999
  · rw [yearDigits, if_pos short] at eq
    by_cases short' : 0 ≤ year' ∧ year' ≤ 9999
    · rw [yearDigits, if_pos short'] at eq
      obtain ⟨same, rest⟩ := digits_append_inj (show year.toNat < 10000 by omega)
        (show year'.toNat < 10000 by omega) eq
      exact ⟨by omega, (List.cons.inj rest).2⟩
    · rw [yearDigits, if_neg short'] at eq
      exact absurd eq digits_append_ne_sign
  · rw [yearDigits, if_neg short] at eq
    by_cases short' : 0 ≤ year' ∧ year' ≤ 9999
    · rw [yearDigits, if_pos short'] at eq
      exact absurd eq.symm digits_append_ne_sign
    · rw [yearDigits, if_neg short'] at eq
      obtain ⟨sign, eq⟩ := List.cons.inj eq
      have negative : year < 0 ↔ year' < 0 := sign_eq_iff.1 sign
      obtain ⟨size, rest⟩ := atLeast_append_inj eq
      exact ⟨by omega, rest⟩

/-- A date is told from what follows it. -/
lemma chars_append_inj (valid : d.Valid) (valid' : e.Valid) (eq : d.chars ++ s = e.chars ++ t) :
    d = e ∧ s = t := by
  obtain ⟨-, lastMonth, -, lastDay⟩ := valid
  obtain ⟨-, lastMonth', -, lastDay'⟩ := valid'
  have within := daysInMonth_le d.year d.month
  have within' := daysInMonth_le e.year e.month
  simp only [chars, List.append_assoc, List.cons_append] at eq
  obtain ⟨year, eq⟩ := yearDigits_append_inj eq
  obtain ⟨month, eq⟩ := digits_append_inj (show d.month < 100 by omega)
    (show e.month < 100 by omega) eq
  obtain ⟨day, rest⟩ := digits_append_inj (show d.day < 100 by omega)
    (show e.day < 100 by omega) (List.cons.inj eq).2
  obtain ⟨dYear, dMonth, dDay⟩ := d
  cases year
  cases month
  cases day
  exact ⟨rfl, rest⟩

end Date

namespace Clock

variable {c d : Clock} {n m : Nat}

/--
The fields are in their ranges. A leap second may follow any second, as clocks show it at a place
whose offset is not a whole number of minutes.
-/
def InRange (c : Clock) : Prop :=
  c.hour < 24 ∧ c.minute < 60 ∧ c.second < 60 ∧ c.nano < 2 * 1000000000

lemma Valid.inRange (valid : c.Valid) : c.InRange := by
  obtain ⟨hour, minute, second, nano⟩ := valid
  exact ⟨hour, minute, second, by omega⟩

/-- The nanoseconds since the minute began, those of a leap second included. -/
def nanoOfMinute (c : Clock) : Nat := 1000000000 * c.second + c.nano

lemma chars_eq (c : Clock) :
    c.chars = digits 10 2 c.hour ++ ':' :: (digits 10 2 c.minute ++
      ':' :: (digits 10 2 (c.nanoOfMinute / 1000000000) ++
        fractionChars (c.nanoOfMinute % 1000000000))) := by
  rw [chars, nanoOfMinute, Nat.mul_add_div (by decide), Nat.mul_add_mod]
  simp only [List.append_assoc, List.cons_append]

lemma fractionChars_inj (bound : n < 1000000000) (bound' : m < 1000000000)
    (eq : fractionChars n = fractionChars m) : n = m := by
  apply eq_of_rising _ _ (congrArg (· ++ []) eq)
  · exact fun lt => fractionChars_lt closing_nil lt bound'
  · exact fun lt => fractionChars_lt closing_nil lt bound

/-- The text of a time of day tells the hour, the minute and the nanosecond of the minute. -/
lemma chars_inj (inRange : c.InRange) (inRange' : d.InRange) (eq : c.chars = d.chars) :
    c.hour = d.hour ∧ c.minute = d.minute ∧ c.nanoOfMinute = d.nanoOfMinute := by
  obtain ⟨hour, minute, second, nano⟩ := inRange
  obtain ⟨hour', minute', second', nano'⟩ := inRange'
  have shown : c.nanoOfMinute / 1000000000 < 100 := by
    unfold nanoOfMinute
    omega
  have shown' : d.nanoOfMinute / 1000000000 < 100 := by
    unfold nanoOfMinute
    omega
  rw [chars_eq, chars_eq] at eq
  obtain ⟨hours, eq⟩ := digits_append_inj (show c.hour < 100 by omega)
    (show d.hour < 100 by omega) eq
  obtain ⟨minutes, eq⟩ := digits_append_inj (show c.minute < 100 by omega)
    (show d.minute < 100 by omega) (List.cons.inj eq).2
  obtain ⟨seconds, eq⟩ := digits_append_inj shown shown' (List.cons.inj eq).2
  have fraction : c.nanoOfMinute % 1000000000 = d.nanoOfMinute % 1000000000 :=
    fractionChars_inj (Nat.mod_lt _ (by decide)) (Nat.mod_lt _ (by decide)) eq
  exact ⟨hours, minutes, by omega⟩

-- A leap second and the second behind it look the same unless it is shown as second 60.
example : chars ⟨0, 0, 29, 1000000000⟩ = chars ⟨0, 0, 30, 0⟩ := rfl

end Clock

namespace OffsetDateTime

variable {a b : Int}

/-- The size of an offset to the nearest minute. -/
def offsetMinutes (offset : Int) : Nat := (offset.natAbs + 30) / 60

lemma offsetChars_eq (a : Int) :
    offsetChars a = (if a < 0 then '-' else '+') :: (digits 10 2 (offsetMinutes a / 60) ++
      ':' :: digits 10 2 (offsetMinutes a % 60)) := rfl

lemma length_offsetChars (a : Int) : (offsetChars a).length = 6 := by
  rw [offsetChars_eq, List.length_cons, List.length_append, List.length_cons, length_digits,
    length_digits]

/-- The text of an offset tells its sign and its minutes. -/
lemma offsetChars_inj (bound : a.natAbs < 86400) (bound' : b.natAbs < 86400)
    (eq : offsetChars a = offsetChars b) :
    (a < 0 ↔ b < 0) ∧ offsetMinutes a = offsetMinutes b := by
  have hours : offsetMinutes a / 60 < 100 := by
    unfold offsetMinutes
    omega
  have hours' : offsetMinutes b / 60 < 100 := by
    unfold offsetMinutes
    omega
  rw [offsetChars_eq, offsetChars_eq] at eq
  obtain ⟨sign, eq⟩ := List.cons.inj eq
  obtain ⟨hour, eq⟩ := digits_append_inj hours hours' eq
  obtain ⟨-, eq⟩ := List.cons.inj eq
  have minute := digits_inj (show offsetMinutes a % 60 < 100 by omega)
    (show offsetMinutes b % 60 < 100 by omega) eq
  exact ⟨sign_eq_iff.1 sign, by omega⟩

end OffsetDateTime

end BoundSql
