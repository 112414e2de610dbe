import BoundSql.Proofs.Log
import BoundSql.Proofs.Script.Slots

/-!
# Outcomes and histories

Whether a statement is built is determined by what the steps of its script have done: which table they
set last, and whether they added what the kind of statement asks for. Steps whose check fails, and
assignments of a value that is not there, count for nothing.
-/

namespace BoundSql

namespace Update

lemma exists_apply_iff (s : Update) (step : Step) :
    (∃ t, step.apply s = .ok t) ↔ ∀ x, step.serial? = some x → ∃ v, Value.ofSerial x = .ok v := by
  cases step with
  | always c => exact ⟨nofun, fun _ => ⟨_, rfl⟩⟩
  | assignIf check field v => exact ⟨nofun, fun _ => ⟨_, rfl⟩⟩
  | filterIf check f => exact ⟨nofun, fun _ => ⟨_, rfl⟩⟩
  | assignOption field v => cases v <;> exact ⟨nofun, fun _ => ⟨_, rfl⟩⟩
  | assignSerial field x =>
    constructor
    · rintro ⟨t, taken⟩ _ ⟨⟩
      obtain ⟨v, serialised, -⟩ := assignSerial_eq_ok taken
      exact ⟨v, serialised⟩
    · intro h
      obtain ⟨v, serialised⟩ := h x rfl
      refine ⟨s.assign field v, ?_⟩
      show s.assignSerial field x = _
      rw [Update.assignSerial, serialised]
      rfl

/-- A run ends if all data that its steps assign can be serialised. -/
lemma exists_run_iff (s : Update) (steps : List Step) :
    (∃ t, s.run steps = .ok t) ↔
      ∀ step ∈ steps, ∀ x, step.serial? = some x → ∃ v, Value.ofSerial x = .ok v := by
  induction steps generalizing s with
  | nil =>
    constructor
    · rintro - step mem
      cases mem
    · intro _
      exact ⟨s, rfl⟩
  | cons step steps ih =>
    rw [run_cons, List.forall_mem_cons, ← exists_apply_iff s]
    constructor
    · rintro ⟨t, ran⟩
      obtain ⟨s', taken, rest⟩ := bind_eq_ok ran
      exact ⟨⟨s', taken⟩, (ih s').1 ⟨t, rest⟩⟩
    · rintro ⟨⟨s', taken⟩, others⟩
      obtain ⟨t, rest⟩ := (ih s').2 others
      refine ⟨t, ?_⟩
      rw [taken]
      exact rest

end Update

namespace Statement

/-- The rows of a statement; only an INSERT statement has rows. -/
def rows : Statement → List (List Value)
  | insert s => s.rows
  | _ => []

/-- The assignments of a statement; only an UPDATE statement has assignments. -/
def assignments : Statement → List Assignment
  | update s => s.assignments
  | _ => []

lemma validate_cases (s : Statement) :
    (s.kind = .insert ∧ s.rows = [] ∧
      s.validate = .error (.emptyStatement "INSERT" "no rows added")) ∨
    (s.kind = .update ∧ s.assignments = [] ∧
      s.validate = .error (.emptyStatement "UPDATE" "SET clause cannot be empty")) ∨
    (¬ (s.kind = .insert ∧ s.rows = []) ∧ ¬ (s.kind = .update ∧ s.assignments = []) ∧
      s.validate = .ok ()) := by
  cases s with
  | select s => exact .inr (.inr ⟨nofun, nofun, rfl⟩)
  | insert s =>
    obtain ⟨table, columns, rows⟩ := s
    cases rows with
    | nil => exact .inl ⟨rfl, rfl, rfl⟩
    | cons row rows => exact .inr (.inr ⟨nofun, nofun, rfl⟩)
  | update s =>
    obtain ⟨table, assignments, predicates⟩ := s
    cases assignments with
    | nil => exact .inr (.inl ⟨rfl, rfl, rfl⟩)
    | cons a assignments => exact .inr (.inr ⟨nofun, nofun, rfl⟩)

/-- The table is missing whenever the error says so: no other check gives this error. -/
lemma toQuery_eq_missingTable_iff (s : Statement) :
    s.toQuery = .error (.missingTable s.kind.keyword) ↔
      ∀ table, s.table? = some table → table = "" := by
  constructor
  · intro failed table named
    refine Decidable.byContradiction fun ne => ?_
    rw [toQuery_of_named named ne] at failed
    rcases s.validate_cases with ⟨-, -, checked⟩ | ⟨-, -, checked⟩ | ⟨-, -, checked⟩
    all_goals
      rw [checked] at failed
      cases failed
  · exact toQuery_of_unnamed

variable {s : Statement} {table : String}

lemma toQuery_eq_emptyStatement_iff (named : s.table? = some table) (ne : table ≠ "")
    (keyword reason : String) :
    s.toQuery = .error (.emptyStatement keyword reason) ↔
      (s.kind = .insert ∧ s.rows = [] ∧ keyword = "INSERT" ∧ reason = "no rows added") ∨
      (s.kind = .update ∧ s.assignments = [] ∧
        keyword = "UPDATE" ∧ reason = "SET clause cannot be empty") := by
  rw [toQuery_of_named named ne]
  rcases s.validate_cases with ⟨insert, none, checked⟩ | ⟨update, none, checked⟩ |
      ⟨filled, filled', checked⟩
  · rw [checked]
    constructor
    · rintro ⟨⟩
      exact .inl ⟨insert, none, rfl, rfl⟩
    · rintro (⟨-, -, rfl, rfl⟩ | ⟨update, -⟩)
      · rfl
      · cases insert.symm.trans update
  · rw [checked]
    constructor
    · rintro ⟨⟩
      exact .inr ⟨update, none, rfl, rfl⟩
    · rintro (⟨insert, -⟩ | ⟨-, -, rfl, rfl⟩)
      · cases update.symm.trans insert
      · rfl
  · rw [checked]
    constructor
    · nofun
    · rintro (⟨insert, none, -⟩ | ⟨update, none, -⟩)
      · exact absurd ⟨insert, none⟩ filled
      · exact absurd ⟨update, none⟩ filled'

lemma toQuery_of_filled (named : s.table? = some table) (ne : table ≠ "")
    (filled : ¬ (s.kind = .insert ∧ s.rows = []))
    (filled' : ¬ (s.kind = .update ∧ s.assignments = [])) : s.toQuery = .ok (s.render table) := by
  rw [toQuery_of_named named ne]
  rcases s.validate_cases with ⟨insert, none, -⟩ | ⟨update, none, -⟩ | ⟨-, -, checked⟩
  · exact absurd ⟨insert, none⟩ filled
  · exact absurd ⟨update, none⟩ filled'
  · rw [checked]
    rfl

end Statement

namespace Script

/-- The kind of statement that a script puts together. -/
def kind : Script → Kind
  | select _ _ => .select
  | insert _ _ => .insert
  | update _ _ => .update

/-- The tables that the steps of a script set, in order. -/
def tables : Script → List String
  | select _ steps => (steps.filterMap Select.Step.call?).filterMap Select.Call.table?
  | insert _ steps => (steps.filterMap Insert.Step.call?).filterMap Insert.Call.table?
  | update _ steps => (steps.filterMap Update.Step.call?).filterMap Update.Call.table?

/-- The rows that the steps of a script add, in order. -/
def rows : Script → List (List Value)
  | insert _ steps => (steps.filterMap Insert.Step.call?).filterMap Insert.Call.row?
  | _ => []

/-- The assignments that the steps of a script add, in order. -/
def assignments : Script → List Assignment
  | update _ steps => (steps.filterMap Update.Step.call?).filterMap Update.Call.assignment?
  | _ => []

/-- The data that the steps of a script serialise, in order. -/
def serials : Script → List Serial
  | update _ steps => steps.filterMap Update.Step.serial?
  | _ => []

/-- The script starts from the statement in which nothing is set. -/
inductive FromEmpty : Script → Prop
  | select (steps : List Select.Step) : FromEmpty (select .empty steps)
  | insert (steps : List Insert.Step) : FromEmpty (insert .empty steps)
  | update (steps : List Update.Step) : FromEmpty (update .empty steps)

lemma exists_statement_iff (script : Script) :
    (∃ s, script.statement = .ok s) ↔ ∀ x ∈ script.serials, ∃ v, Value.ofSerial x = .ok v := by
  cases script with
  | select origin steps => exact ⟨nofun, fun _ => ⟨_, rfl⟩⟩
  | insert origin steps => exact ⟨nofun, fun _ => ⟨_, rfl⟩⟩
  | update origin steps =>
    have ran := Update.exists_run_iff origin.start steps
    constructor
    · rintro ⟨s, reached⟩ x mem
      obtain ⟨t, run, -⟩ := statement_update_eq_ok reached
      obtain ⟨step, mem, serial⟩ := List.mem_filterMap.1 mem
      exact ran.1 ⟨t, run⟩ step mem x serial
    · intro h
      obtain ⟨t, run⟩ := ran.2 fun step mem x serial => h x (List.mem_filterMap.2 ⟨step, mem, serial⟩)
      refine ⟨.update t, ?_⟩
      rw [statement, run]
      rfl

variable {script : Script} {s : Statement}

lemma kind_statement (reached : script.statement = .ok s) : s.kind = script.kind := by
  cases script with
  | select origin steps =>
    cases reached
    rfl
  | insert origin steps =>
    cases reached
    rfl
  | update origin steps =>
    obtain ⟨t, -, rfl⟩ := statement_update_eq_ok reached
    rfl

/-- The parts of a statement that the checks look at are what the steps have put there. -/
lemma FromEmpty.parts_statement (fresh : script.FromEmpty) (reached : script.statement = .ok s) :
    s.table? = script.tables.getLast? ∧ s.rows = script.rows ∧
      s.assignments = script.assignments := by
  cases fresh with
  | select steps =>
    cases reached
    refine ⟨?_, rfl, rfl⟩
    show (Select.empty.run steps).table = _
    rw [Select.run_eq_calls, Select.table_calls]
    exact Option.or_none
  | insert steps =>
    cases reached
    refine ⟨?_, ?_, rfl⟩
    · show (Insert.empty.run steps).table = _
      rw [Insert.run_eq_calls, Insert.table_calls]
      exact Option.or_none
    · show (Insert.empty.run steps).rows = _
      rw [Insert.run_eq_calls, Insert.rows_calls]
      rfl
  | update steps =>
    -- Serialised data counts as assigned only because the run has ended.
    obtain ⟨t, run, rfl⟩ := statement_update_eq_ok reached
    refine ⟨?_, rfl, ?_⟩
    · show t.table = _
      rw [Update.run_eq_ok run, Update.table_calls]
      exact Option.or_none
    · show t.assignments = _
      rw [Update.run_eq_ok run, Update.assignments_calls]
      rfl

/-- Which error a script from the empty statement ends in, if in any, is read off its steps, and the
log says the same. -/
theorem outcome_of_history (fresh : script.FromEmpty) :
    ((∃ s, script.statement = .ok s) ↔ ∀ x ∈ script.serials, ∃ v, Value.ofSerial x = .ok v) ∧
    ∀ s, script.statement = .ok s →
      (s.toQuery = .error (.missingTable script.kind.keyword) ↔
        script.tables = [] ∨ script.tables.getLast? = some "") ∧
      (∀ table, script.tables.getLast? = some table → table ≠ "" →
        (∀ keyword reason, s.toQuery = .error (.emptyStatement keyword reason) ↔
          (script.kind = .insert ∧ script.rows = [] ∧
            keyword = "INSERT" ∧ reason = "no rows added") ∨
          (script.kind = .update ∧ script.assignments = [] ∧
            keyword = "UPDATE" ∧ reason = "SET clause cannot be empty")) ∧
        (¬ (script.kind = .insert ∧ script.rows = []) →
          ¬ (script.kind = .update ∧ script.assignments = []) →
            s.toQuery = .ok (s.render table))) ∧
      ∃ event, s.build.log = [event] ∧ event.Mirrors script.kind s.toQuery := by
  refine ⟨script.exists_statement_iff, ?_⟩
  intro s reached
  obtain ⟨named, rows, assignments⟩ := fresh.parts_statement reached
  rw [← kind_statement reached, ← rows, ← assignments]
  refine ⟨?_, ?_, s.log_mirrors⟩
  · rw [s.toQuery_eq_missingTable_iff, named]
    constructor
    · intro unnamed
      cases last : script.tables.getLast? with
      | none => exact .inl (List.getLast?_eq_none_iff.1 last)
      | some table => exact .inr (congrArg some (unnamed table last))
    · rintro (none | blank) table last
      · rw [none] at last
        cases last
      · rw [blank] at last
        cases last
        rfl
  · intro table last ne
    rw [last] at named
    exact ⟨Statement.toQuery_eq_emptyStatement_iff named ne, Statement.toQuery_of_filled named ne⟩

/-- A later empty name takes back a table, and a row without values is a row. -/
theorem outcome_of_history_blank_table :
    let a : Script :=
      .update .empty [.always (.table "t"), .assignSerial "d" .unit, .always (.table "")]
    let b : Script := .insert .empty [.rowIf false [.null], .always (.table "t"), .always (.row [])]
    ∃ s t, a.statement = .ok s ∧ s.toQuery = .error (.missingTable "UPDATE") ∧
      b.statement = .ok t ∧ t.toQuery = .ok ⟨"INSERT INTO t () VALUES ()", []⟩ := by
  intro a b
  have history := outcome_of_history (.update _ : a.FromEmpty)
  have history' := outcome_of_history (.insert _ : b.FromEmpty)
  have serialised : ∀ x ∈ a.serials, ∃ v, Value.ofSerial x = .ok v := by
    intro x mem
    cases List.mem_singleton.1 mem
    exact ⟨_, rfl⟩
  obtain ⟨s, reached⟩ := history.1.2 serialised
  have reached' : b.statement = .ok _ := rfl
  refine ⟨s, _, reached, (history.2 s reached).1.2 (.inr rfl), reached', ?_⟩
  exact ((history'.2 _ reached').2.1 "t" rfl (by decide)).2 nofun nofun

end Script

end BoundSql
