import BoundSql.Text.FixedWidth
import Mathlib.Tactic.Lemma

/-!
# Numbers in the order of their texts

Texts are compared character by character. Numbers of one width are in the order of their digits, and
when they are equal, what follows them decides. Fractions may differ in their width: they are in the
order of their digits as long as they are followed by something that sorts before a digit.
-/

namespace BoundSql.FixedWidth

variable {n m width : Nat} {s t tail : List Char}

lemma digitChar_lt (lt : n < m) (bound : m < 10) : Nat.digitChar n < Nat.digitChar m := by
  have all : ∀ m < 10, ∀ n < m, Nat.digitChar n < Nat.digitChar m := by decide
  exact all m bound n lt

/-- Of two numbers of one width the smaller one sorts first, whatever follows them. -/
lemma digits_append_lt (bound : m < Nat.pow 10 width) (order : n < m ∨ (n = m ∧ s < t)) :
    digits 10 width n ++ s < digits 10 width m ++ t := by
  induction width generalizing n m s t with
  | zero =>
    have bound : m < 1 := bound
    obtain lt | ⟨-, lt⟩ := order
    · omega
    · exact lt
  | succ width ih =>
    have bound : m < Nat.pow 10 width * 10 := bound
    rw [digits, digits, List.append_assoc, List.append_assoc]
    apply ih (by omega)
    obtain lt | ⟨rfl, lt⟩ := order
    · rcases Nat.lt_or_ge (n / 10) (m / 10) with lower | same
      · exact .inl lower
      · have last : Nat.digitChar (n % 10) < Nat.digitChar (m % 10) :=
          digitChar_lt (by omega) (by omega)
        exact .inr ⟨by omega, List.cons_lt_cons_iff.2 (.inl last)⟩
    · exact .inr ⟨rfl, List.cons_lt_cons_self.2 lt⟩

/-- The digits of a number are the digits in front and those behind. -/
lemma digits_add (front back n : Nat) :
    digits 10 (front + back) n = digits 10 front (n / Nat.pow 10 back) ++ digits 10 back n := by
  induction back generalizing n with
  | zero =>
    have whole : n / Nat.pow 10 0 = n := Nat.div_one n
    rw [whole, digits, List.append_nil, Nat.add_zero]
  | succ back ih =>
    have split : n / Nat.pow 10 (back + 1) = n / 10 / Nat.pow 10 back := by
      rw [Nat.div_div_eq_div_mul, Nat.mul_comm]
      rfl
    rw [split, ← Nat.add_assoc, digits, digits, ih, List.append_assoc]

/-- A number of at least one digit begins with a digit, which sorts behind a decimal point. -/
lemma exists_digits_succ (width n : Nat) :
    ∃ c rest, '.' ≤ c ∧ digits 10 (width + 1) n = c :: rest := by
  induction width generalizing n with
  | zero =>
    have all : ∀ d < 10, '.' ≤ Nat.digitChar d := by decide
    exact ⟨_, [], all (n % 10) (Nat.mod_lt n (by decide)), rfl⟩
  | succ width ih =>
    obtain ⟨c, rest, le, eq⟩ := ih (n / 10)
    refine ⟨c, rest ++ [Nat.digitChar (n % 10)], le, ?_⟩
    rw [digits, eq, List.cons_append]

/-- What may end a fraction: it sorts before a decimal point and before every digit. -/
def Closing (tail : List Char) : Prop := ∀ c rest, '.' ≤ c → tail < c :: rest

lemma closing_nil : Closing [] := fun _ _ _ => List.nil_lt_cons _ _

lemma closing_plus (rest : List Char) : Closing ('+' :: rest) := by
  intro c rest' le
  exact List.cons_lt_cons_iff.2 (.inl (Std.lt_of_lt_of_le (by decide) le))

lemma pow_ten_pos (k : Nat) : 0 < Nat.pow 10 k := Nat.pow_pos (by decide)

lemma pow_ten_add (j k : Nat) : Nat.pow 10 (j + k) = Nat.pow 10 j * Nat.pow 10 k :=
  Nat.pow_add 10 j k

/-- Fractions of any widths are in the order of their values. Where one goes on behind the end of the
other, what ends the other sorts before the digits that are left. -/
lemma fraction_lt {p q a b : Nat} (closing : Closing tail)
    (lt : a * Nat.pow 10 q < b * Nat.pow 10 p) (bound : b < Nat.pow 10 q) :
    digits 10 p a ++ tail < digits 10 q b ++ tail := by
  -- The longer of the two is cut at the width of the shorter one.
  rcases Nat.lt_or_ge q p with longer | shorter
  · obtain ⟨r, rfl⟩ := Nat.exists_eq_add_of_le (Nat.le_of_lt longer)
    have front : a / Nat.pow 10 r < b := by
      apply Nat.div_lt_of_lt_mul
      apply Nat.lt_of_mul_lt_mul_left (a := Nat.pow 10 q)
      calc Nat.pow 10 q * a = a * Nat.pow 10 q := Nat.mul_comm _ _
        _ < b * Nat.pow 10 (q + r) := lt
        _ = Nat.pow 10 q * (Nat.pow 10 r * b) := by rw [pow_ten_add, Nat.mul_comm, Nat.mul_assoc]
    rw [digits_add, List.append_assoc]
    exact digits_append_lt bound (.inl front)
  · obtain ⟨r, rfl⟩ := Nat.exists_eq_add_of_le shorter
    have scaled : a * Nat.pow 10 r < b := by
      apply Nat.lt_of_mul_lt_mul_left (a := Nat.pow 10 p)
      calc Nat.pow 10 p * (a * Nat.pow 10 r) = a * Nat.pow 10 (p + r) := by
            rw [pow_ten_add, Nat.mul_left_comm]
        _ < b * Nat.pow 10 p := lt
        _ = Nat.pow 10 p * b := Nat.mul_comm _ _
    have front : b / Nat.pow 10 r < Nat.pow 10 p := by
      rw [pow_ten_add, Nat.mul_comm] at bound
      exact Nat.div_lt_of_lt_mul bound
    have le : a ≤ b / Nat.pow 10 r :=
      (Nat.le_div_iff_mul_le (pow_ten_pos r)).2 (Nat.le_of_lt scaled)
    rw [digits_add, List.append_assoc]
    apply digits_append_lt front
    rcases Nat.lt_or_eq_of_le le with lower | same
    · exact .inl lower
    · refine .inr ⟨same, ?_⟩
      cases r with
      | zero =>
        have whole : b / Nat.pow 10 0 = b := Nat.div_one b
        have unscaled : a * Nat.pow 10 0 = a := Nat.mul_one a
        omega
      | succ r =>
        obtain ⟨c, rest, le, eq⟩ := exists_digits_succ r b
        rw [eq]
        exact closing c _ le

end BoundSql.FixedWidth
