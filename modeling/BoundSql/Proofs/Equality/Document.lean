import BoundSql.Json.Basic
import BoundSql.Proofs.Equality.Number

/-!
# Equality of documents

Equality of documents follows numerical equality of floating point numbers, so it is symmetric and
transitive, but a number that is not one differs from itself. A well-formed document holds no such
number and equals itself.
-/

namespace BoundSql.Json

section Inversion
variable {b : Json}

lemma numericEq_null : numericEq null b = true ↔ null = b := by
  cases b <;> simp [numericEq]

lemma numericEq_bool {p : Bool} : numericEq (bool p) b = true ↔ bool p = b := by
  cases b <;> simp [numericEq]

lemma numericEq_int {n : Int} : numericEq (int n) b = true ↔ int n = b := by
  cases b <;> simp [numericEq]

lemma numericEq_float {x : Binary64} :
    numericEq (float x) b = true ↔ ∃ y, b = float y ∧ x.numericEq y = true := by
  cases b <;> simp [numericEq]

lemma numericEq_str {s : String} : numericEq (str s) b = true ↔ str s = b := by
  cases b <;> simp [numericEq]

lemma numericEq_arr {as : List Json} :
    numericEq (arr as) b = true ↔ ∃ bs, b = arr bs ∧ itemsEq as bs = true := by
  cases b <;> simp [numericEq]

lemma numericEq_obj {as : Entries} :
    numericEq (obj as) b = true ↔ ∃ bs, b = obj bs ∧ entriesEq as bs = true := by
  cases b <;> simp [numericEq]

lemma itemsEq_cons {a : Json} {as bs : List Json} : itemsEq (a :: as) bs = true ↔
    ∃ b bs', bs = b :: bs' ∧ numericEq a b = true ∧ itemsEq as bs' = true := by
  cases bs <;> simp [itemsEq, and_assoc]

lemma entriesEq_cons {key : String} {a : Json} {as bs : Entries} :
    entriesEq ((key, a) :: as) bs = true ↔
      ∃ b bs', bs = (key, b) :: bs' ∧ numericEq a b = true ∧ entriesEq as bs' = true := by
  cases bs with
  | nil => simp [entriesEq]
  | cons entry bs =>
    obtain ⟨k, b⟩ := entry
    simp only [entriesEq, Bool.and_eq_true, beq_iff_eq]
    constructor
    · rintro ⟨⟨rfl, first⟩, rest⟩
      exact ⟨b, bs, rfl, first, rest⟩
    · rintro ⟨_, _, ⟨⟩, first, rest⟩
      exact ⟨⟨rfl, first⟩, rest⟩

end Inversion

mutual

lemma numericEq_symm (a : Json) {b : Json} (h : numericEq a b = true) : numericEq b a = true := by
  cases a with
  | null =>
    obtain rfl := numericEq_null.1 h
    rfl
  | bool p =>
    obtain rfl := numericEq_bool.1 h
    exact h
  | int n =>
    obtain rfl := numericEq_int.1 h
    exact h
  | float x =>
    obtain ⟨y, rfl, same⟩ := numericEq_float.1 h
    exact Binary64.numericEq_symm same
  | str s =>
    obtain rfl := numericEq_str.1 h
    exact h
  | arr as =>
    obtain ⟨bs, rfl, same⟩ := numericEq_arr.1 h
    exact itemsEq_symm as same
  | obj as =>
    obtain ⟨bs, rfl, same⟩ := numericEq_obj.1 h
    exact entriesEq_symm as same

lemma itemsEq_symm (as : List Json) {bs : List Json} (h : itemsEq as bs = true) :
    itemsEq bs as = true := by
  cases as with
  | nil =>
    cases bs with
    | nil => rfl
    | cons b bs => cases h
  | cons a as =>
    obtain ⟨b, bs, rfl, first, rest⟩ := itemsEq_cons.1 h
    exact itemsEq_cons.2 ⟨a, as, rfl, numericEq_symm a first, itemsEq_symm as rest⟩

lemma entriesEq_symm (as : Entries) {bs : Entries} (h : entriesEq as bs = true) :
    entriesEq bs as = true := by
  cases as with
  | nil =>
    cases bs with
    | nil => rfl
    | cons b bs => cases h
  | cons entry as =>
    obtain ⟨key, a⟩ := entry
    obtain ⟨b, bs, rfl, first, rest⟩ := entriesEq_cons.1 h
    exact entriesEq_cons.2 ⟨a, as, rfl, numericEq_symm a first, entriesEq_symm as rest⟩

end

mutual

lemma numericEq_trans (a : Json) {b c : Json} (h : numericEq a b = true)
    (h' : numericEq b c = true) : numericEq a c = true := by
  cases a with
  | null =>
    obtain rfl := numericEq_null.1 h
    exact h'
  | bool p =>
    obtain rfl := numericEq_bool.1 h
    exact h'
  | int n =>
    obtain rfl := numericEq_int.1 h
    exact h'
  | float x =>
    obtain ⟨y, rfl, same⟩ := numericEq_float.1 h
    obtain ⟨z, rfl, same'⟩ := numericEq_float.1 h'
    exact Binary64.numericEq_trans same same'
  | str s =>
    obtain rfl := numericEq_str.1 h
    exact h'
  | arr as =>
    obtain ⟨bs, rfl, same⟩ := numericEq_arr.1 h
    obtain ⟨cs, rfl, same'⟩ := numericEq_arr.1 h'
    exact itemsEq_trans as same same'
  | obj as =>
    obtain ⟨bs, rfl, same⟩ := numericEq_obj.1 h
    obtain ⟨cs, rfl, same'⟩ := numericEq_obj.1 h'
    exact entriesEq_trans as same same'

lemma itemsEq_trans (as : List Json) {bs cs : List Json} (h : itemsEq as bs = true)
    (h' : itemsEq bs cs = true) : itemsEq as cs = true := by
  cases as with
  | nil =>
    cases bs with
    | nil => exact h'
    | cons b bs => cases h
  | cons a as =>
    obtain ⟨b, bs, rfl, first, rest⟩ := itemsEq_cons.1 h
    obtain ⟨c, cs, rfl, first', rest'⟩ := itemsEq_cons.1 h'
    exact itemsEq_cons.2
      ⟨c, cs, rfl, numericEq_trans a first first', itemsEq_trans as rest rest'⟩

lemma entriesEq_trans (as : Entries) {bs cs : Entries} (h : entriesEq as bs = true)
    (h' : entriesEq bs cs = true) : entriesEq as cs = true := by
  cases as with
  | nil =>
    cases bs with
    | nil => exact h'
    | cons b bs => cases h
  | cons entry as =>
    obtain ⟨key, a⟩ := entry
    obtain ⟨b, bs, rfl, first, rest⟩ := entriesEq_cons.1 h
    obtain ⟨c, cs, rfl, first', rest'⟩ := entriesEq_cons.1 h'
    exact entriesEq_cons.2
      ⟨c, cs, rfl, numericEq_trans a first first', entriesEq_trans as rest rest'⟩

end

mutual

/-- A document without floating point numbers that are none equals itself. -/
lemma numericEq_self (a : Json) (h : a.WellFormed) : numericEq a a = true := by
  cases a with
  | null => rfl
  | bool p => exact numericEq_bool.2 rfl
  | int n => exact numericEq_int.2 rfl
  | float x =>
    have finite : x.isFinite = true := h
    rw [numericEq, Binary64.numericEq_self_iff]
    exact Binary64.isNaN_of_isFinite finite
  | str s => exact numericEq_str.2 rfl
  | arr as => exact itemsEq_self as h
  | obj as => exact entriesEq_self as h.2

lemma itemsEq_self (as : List Json) (h : ItemsWellFormed as) : itemsEq as as = true := by
  cases as with
  | nil => rfl
  | cons a as => exact itemsEq_cons.2 ⟨a, as, rfl, numericEq_self a h.1, itemsEq_self as h.2⟩

lemma entriesEq_self (as : Entries) (h : EntriesWellFormed as) : entriesEq as as = true := by
  cases as with
  | nil => rfl
  | cons entry as =>
    obtain ⟨key, a⟩ := entry
    exact entriesEq_cons.2 ⟨a, as, rfl, numericEq_self a h.1, entriesEq_self as h.2⟩

end

end BoundSql.Json
