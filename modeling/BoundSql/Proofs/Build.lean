import BoundSql.Statement.Build
import Mathlib.Tactic.Lemma

/-!
# When a statement is built

A build succeeds exactly when the statement has a table with a name and passes the checks of its
kind, and then gives the rendered statement. Later proofs use `Statement.toQuery_eq_ok_iff` and do
not look into the order of the checks.
-/

namespace BoundSql.Statement

variable {s : Statement} {table : String} {q : Query}

lemma checkedTable_of_named (named : s.table? = some table) (ne : table ≠ "") :
    s.checkedTable = s.validate.map fun _ => table := by
  have kept : s.table?.filter (· ≠ "") = some table := by simp [named, ne]
  unfold checkedTable
  rw [kept]
  cases s.validate <;> rfl

lemma checkedTable_of_unnamed (unnamed : ∀ table, s.table? = some table → table = "") :
    s.checkedTable = .error (.missingTable s.kind.keyword) := by
  have dropped : s.table?.filter (· ≠ "") = none := by
    rw [Option.filter_eq_none_iff]
    intro table h
    simp [unnamed table h]
  unfold checkedTable
  rw [dropped]

lemma checkedTable_eq_ok_iff :
    s.checkedTable = .ok table ↔ s.table? = some table ∧ table ≠ "" ∧ s.validate = .ok () := by
  by_cases h : ∃ name, s.table? = some name ∧ name ≠ ""
  · obtain ⟨name, named, ne⟩ := h
    rw [checkedTable_of_named named ne, named]
    cases valid : s.validate with
    | error e =>
      constructor
      · nofun
      · rintro ⟨-, -, h⟩
        cases h
    | ok u =>
      constructor
      · intro h
        cases h
        exact ⟨rfl, ne, rfl⟩
      · rintro ⟨h, -, -⟩
        cases h
        rfl
  · have unnamed : ∀ name, s.table? = some name → name = "" := by
      intro name named
      exact Decidable.byContradiction fun ne => h ⟨name, named, ne⟩
    rw [checkedTable_of_unnamed unnamed]
    constructor
    · nofun
    · rintro ⟨named, ne, -⟩
      exact absurd ⟨table, named, ne⟩ h

lemma toQuery_of_named (named : s.table? = some table) (ne : table ≠ "") :
    s.toQuery = s.validate.map fun _ => s.render table := by
  unfold toQuery build
  rw [checkedTable_of_named named ne]
  cases s.validate <;> rfl

lemma toQuery_of_unnamed (unnamed : ∀ table, s.table? = some table → table = "") :
    s.toQuery = .error (.missingTable s.kind.keyword) := by
  unfold toQuery build
  rw [checkedTable_of_unnamed unnamed]

/-- A complete statement is built, and nothing else is. -/
lemma toQuery_eq_ok_iff :
    s.toQuery = .ok q ↔
      ∃ table, s.table? = some table ∧ table ≠ "" ∧ s.validate = .ok () ∧ q = s.render table := by
  unfold toQuery build
  cases e : s.checkedTable with
  | error err =>
    constructor
    · nofun
    · rintro ⟨table, named, ne, valid, -⟩
      rw [checkedTable_eq_ok_iff.2 ⟨named, ne, valid⟩] at e
      cases e
  | ok table =>
    obtain ⟨named, ne, valid⟩ := checkedTable_eq_ok_iff.1 e
    constructor
    · intro h
      cases h
      exact ⟨table, named, ne, valid, rfl⟩
    · rintro ⟨other, h, -, -, rfl⟩
      rw [named] at h
      cases h
      rfl

/-- A build that succeeds logs the event of its query. -/
lemma log_of_toQuery_eq_ok (built : s.toQuery = .ok q) : s.build.log = [.ofQuery s.kind q] := by
  unfold toQuery build at built
  unfold build
  cases checked : s.checkedTable with
  | error e =>
    rw [checked] at built
    cases built
  | ok table =>
    rw [checked] at built
    cases built
    rfl

end BoundSql.Statement
