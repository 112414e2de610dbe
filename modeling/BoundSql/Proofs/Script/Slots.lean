import BoundSql.Proofs.Script.Basic
import Mathlib.Tactic.Lemma

/-!
# What a script leaves in a statement

A run makes the changes of those steps that make one, so the parts of a statement after a run are
read off these changes. A part either keeps the last thing that a change put there, as the table
does, or collects what changes add to it, as the predicates do.
-/

namespace BoundSql

section Runs
variable {σ α β ε : Type}

/-- What follows a computation succeeds only after the computation has. -/
lemma bind_eq_ok {x : Except ε α} {f : α → Except ε β} {b : β} (h : x >>= f = .ok b) :
    ∃ a, x = .ok a ∧ f a = .ok b := by
  cases x with
  | error e => cases h
  | ok a => exact ⟨a, rfl, h⟩

lemma bind_pure_eq_ok {x : Except ε α} {f : α → β} {b : β}
    (h : x >>= (fun a => pure (f a)) = .ok b) : ∃ a, x = .ok a ∧ b = f a := by
  obtain ⟨a, eq, made⟩ := bind_eq_ok h
  cases made
  exact ⟨a, eq, rfl⟩

/-- A part that each step keeps or replaces holds what was put there last. -/
lemma foldl_replaces {f : σ → α → σ} (part : σ → Option β) {put? : α → Option β}
    (step : ∀ s a, part (f s a) = (put? a).or (part s)) (s : σ) (as : List α) :
    part (as.foldl f s) = (as.filterMap put?).getLast?.or (part s) := by
  induction as generalizing s with
  | nil => rfl
  | cons a as ih =>
    -- what `a` puts there lasts only if no later step puts anything
    rw [List.foldl_cons, ih, step]
    cases h : put? a with
    | none => simp [h]
    | some b => cases e : (as.filterMap put?).getLast? <;> simp [h, e, List.getLast?_cons]

/-- `foldl_replaces` for a part that always holds something. -/
lemma foldl_replacesD {f : σ → α → σ} (part : σ → β) {put? : α → Option β}
    (step : ∀ s a, part (f s a) = (put? a).getD (part s)) (s : σ) (as : List α) :
    part (as.foldl f s) = (as.filterMap put?).getLastD (part s) := by
  have last : some (part (as.foldl f s)) = (as.filterMap put?).getLast?.or (some (part s)) := by
    apply foldl_replaces (fun s => some (part s))
    intro s a
    rw [step, Option.or_some]
  rw [Option.or_some, Option.some_inj] at last
  rw [last, List.getLastD_eq_getLast?]

/-- A part to which each step adds at the end holds all that was added, in order. -/
lemma foldl_collects {f : σ → α → σ} (part : σ → List β) {add? : α → Option β}
    (step : ∀ s a, part (f s a) = part s ++ (add? a).toList) (s : σ) (as : List α) :
    part (as.foldl f s) = part s ++ as.filterMap add? := by
  induction as generalizing s with
  | nil => simp
  | cons a as ih =>
    rw [List.foldl_cons, ih, step]
    cases h : add? a <;> simp [h]

end Runs

namespace Select

/-- The change that a step makes, if it makes one. -/
def Step.call? : Step → Option Call
  | always c => some c
  | onlyIf check c => if check then some c else none
  | limitIf check n => if check then n.map .limit else none
  | offsetIf check n => if check then n.map .offset else none

/-- The filter that a change adds, if it adds one. -/
def Call.filter? : Call → Option Filter
  | filter f => some f
  | _ => none

/-- The table that a change sets, if it sets one. -/
def Call.table? : Call → Option String
  | table name => some name
  | _ => none

/-- The columns that a change sets, if it sets them. -/
def Call.columns? : Call → Option (List String)
  | columns names => some names
  | _ => none

/-- The filters that are there before the first step. -/
def Origin.filters : Origin → List Filter
  | tableById t id => [t.idFilter id]
  | _ => []

lemma Origin.items_start (origin : Origin) :
    origin.start.predicates.items = origin.filters.map Filter.toPredicate := by
  cases origin <;> rfl

lemma Step.apply_eq_calls (s : Select) (step : Step) : step.apply s = s.calls step.call?.toList := by
  cases step with
  | always c => rfl
  | onlyIf check c => cases check <;> rfl
  | limitIf check n => cases check <;> cases n <;> rfl
  | offsetIf check n => cases check <;> cases n <;> rfl

/-- A run makes the changes of its steps and no other. -/
lemma run_eq_calls (s : Select) (steps : List Step) :
    s.run steps = s.calls (steps.filterMap Step.call?) := by
  induction steps generalizing s with
  | nil => rfl
  | cons step steps ih =>
    have rest : s.run (step :: steps) = _ := ih (step.apply s)
    rw [rest, step.apply_eq_calls]
    cases h : step.call? <;> simp [calls, h]

lemma items_calls (s : Select) (cs : List Call) :
    (s.calls cs).predicates.items =
      s.predicates.items ++ (cs.filterMap Call.filter?).map Filter.toPredicate := by
  rw [List.map_filterMap]
  apply foldl_collects (fun s : Select => s.predicates.items)
  intro s c
  cases c with
  | filter f => rfl
  | _ => exact (List.append_nil _).symm

lemma table_calls (s : Select) (cs : List Call) :
    (s.calls cs).table = (cs.filterMap Call.table?).getLast?.or s.table := by
  apply foldl_replaces Select.table
  intro s c
  cases c <;> rfl

lemma columns_calls (s : Select) (cs : List Call) :
    (s.calls cs).columns = (cs.filterMap Call.columns?).getLastD s.columns := by
  apply foldl_replacesD Select.columns
  intro s c
  cases c <;> rfl

end Select

namespace Insert

/-- The change that a step makes, if it makes one. -/
def Step.call? : Step → Option Call
  | always c => some c
  | rowIf check vs => if check then some (.row vs) else none

/-- The table that a change sets, if it sets one. -/
def Call.table? : Call → Option String
  | table name => some name
  | _ => none

/-- The columns that a change sets, if it sets them. -/
def Call.columns? : Call → Option (List String)
  | columns names => some names
  | _ => none

/-- The row that a change adds, if it adds one. -/
def Call.row? : Call → Option (List Value)
  | row vs => some vs
  | _ => none

lemma Step.apply_eq_calls (s : Insert) (step : Step) : step.apply s = s.calls step.call?.toList := by
  cases step with
  | always c => rfl
  | rowIf check vs => cases check <;> rfl

/-- A run makes the changes of its steps and no other. -/
lemma run_eq_calls (s : Insert) (steps : List Step) :
    s.run steps = s.calls (steps.filterMap Step.call?) := by
  induction steps generalizing s with
  | nil => rfl
  | cons step steps ih =>
    have rest : s.run (step :: steps) = _ := ih (step.apply s)
    rw [rest, step.apply_eq_calls]
    cases h : step.call? <;> simp [calls, h]

lemma table_calls (s : Insert) (cs : List Call) :
    (s.calls cs).table = (cs.filterMap Call.table?).getLast?.or s.table := by
  apply foldl_replaces Insert.table
  intro s c
  cases c <;> rfl

lemma columns_calls (s : Insert) (cs : List Call) :
    (s.calls cs).columns = (cs.filterMap Call.columns?).getLastD s.columns := by
  apply foldl_replacesD Insert.columns
  intro s c
  cases c <;> rfl

lemma rows_calls (s : Insert) (cs : List Call) :
    (s.calls cs).rows = s.rows ++ cs.filterMap Call.row? := by
  apply foldl_collects Insert.rows
  intro s c
  cases c with
  | row vs => rfl
  | _ => exact (List.append_nil _).symm

end Insert

namespace Update

/-- The change that a step makes, if it makes one. -/
def Step.call? : Step → Option Call
  | always c => some c
  | assignIf check field v => if check then some (.assign field v) else none
  | filterIf check f => if check then some (.filter f) else none
  | assignOption field v => v.map (.assign field)
  | assignSerial field x => (Value.ofSerial x).toOption.map (.assign field)

/-- The data that a step serialises, if it serialises any. -/
def Step.serial? : Step → Option Serial
  | assignSerial _ x => some x
  | _ => none

/-- The filter that a change adds, if it adds one. -/
def Call.filter? : Call → Option Filter
  | filter f => some f
  | _ => none

/-- The table that a change sets, if it sets one. -/
def Call.table? : Call → Option String
  | table name => some name
  | _ => none

/-- The assignment that a change adds, if it adds one. -/
def Call.assignment? : Call → Option Assignment
  | assign field v => some ⟨field, v⟩
  | _ => none

/-- The filters that are there before the first step. -/
def Origin.filters : Origin → List Filter
  | tableById t id => [t.idFilter id]
  | _ => []

lemma Origin.items_start (origin : Origin) :
    origin.start.predicates.items = origin.filters.map Filter.toPredicate := by
  cases origin <;> rfl

/-- An assignment of serialised data that succeeds is one of a value. -/
lemma assignSerial_eq_ok {s s' : Update} {field : String} {x : Serial}
    (h : s.assignSerial field x = .ok s') :
    ∃ v, Value.ofSerial x = .ok v ∧ s' = s.assign field v :=
  bind_pure_eq_ok h

lemma Step.apply_eq_ok {s s' : Update} {step : Step} (h : step.apply s = .ok s') :
    s' = s.calls step.call?.toList := by
  cases step with
  | always c =>
    cases h
    rfl
  | assignIf check field v =>
    cases h
    cases check <;> rfl
  | filterIf check f =>
    cases h
    cases check <;> rfl
  | assignOption field v =>
    cases v with
    | none =>
      cases h
      rfl
    | some v =>
      cases h
      rfl
  | assignSerial field x =>
    obtain ⟨v, serialised, rfl⟩ := assignSerial_eq_ok h
    rw [call?, serialised]
    rfl

lemma run_cons (s : Update) (step : Step) (steps : List Step) :
    s.run (step :: steps) = step.apply s >>= fun t => t.run steps :=
  List.foldlM_cons

/-- A run that does not fail makes the changes of its steps and no other. -/
lemma run_eq_ok {s s' : Update} {steps : List Step} (h : s.run steps = .ok s') :
    s' = s.calls (steps.filterMap Step.call?) := by
  induction steps generalizing s with
  | nil =>
    cases h
    rfl
  | cons step steps ih =>
    rw [run_cons] at h
    obtain ⟨t, first, rest⟩ := bind_eq_ok h
    rw [ih rest, step.apply_eq_ok first]
    cases e : step.call? <;> simp [calls, e]

lemma items_calls (s : Update) (cs : List Call) :
    (s.calls cs).predicates.items =
      s.predicates.items ++ (cs.filterMap Call.filter?).map Filter.toPredicate := by
  rw [List.map_filterMap]
  apply foldl_collects (fun s : Update => s.predicates.items)
  intro s c
  cases c with
  | filter f => rfl
  | _ => exact (List.append_nil _).symm

lemma table_calls (s : Update) (cs : List Call) :
    (s.calls cs).table = (cs.filterMap Call.table?).getLast?.or s.table := by
  apply foldl_replaces Update.table
  intro s c
  cases c <;> rfl

lemma assignments_calls (s : Update) (cs : List Call) :
    (s.calls cs).assignments = s.assignments ++ cs.filterMap Call.assignment? := by
  apply foldl_collects Update.assignments
  intro s c
  cases c with
  | assign field v => rfl
  | _ => exact (List.append_nil _).symm

end Update

namespace Script

/-- The filters that a script adds, those of its start first. -/
def filters : Script → List Filter
  | select origin steps =>
    origin.filters ++ (steps.filterMap Select.Step.call?).filterMap Select.Call.filter?
  | insert _ _ => []
  | update origin steps =>
    origin.filters ++ (steps.filterMap Update.Step.call?).filterMap Update.Call.filter?

lemma statement_update_eq_ok {origin : Update.Origin} {steps : List Update.Step} {s : Statement}
    (h : (update origin steps).statement = .ok s) :
    ∃ t, origin.start.run steps = .ok t ∧ s = .update t := by
  obtain ⟨t, run, reached⟩ := bind_eq_ok h
  cases reached
  exact ⟨t, run, rfl⟩

/-- The predicates of a statement that is reached are those of the filters of its script. -/
lemma items_statement {script : Script} {s : Statement} (h : script.statement = .ok s) :
    s.predicates.items = script.filters.map Filter.toPredicate := by
  cases script with
  | select origin steps =>
    cases h
    show (origin.start.run steps).predicates.items = _
    rw [Select.run_eq_calls, Select.items_calls, Select.Origin.items_start, filters, List.map_append]
  | insert origin steps =>
    cases h
    rfl
  | update origin steps =>
    obtain ⟨t, run, rfl⟩ := statement_update_eq_ok h
    show t.predicates.items = _
    rw [Update.run_eq_ok run, Update.items_calls, Update.Origin.items_start, filters,
      List.map_append]

end Script

end BoundSql
