import BoundSql.Script.Insert
import BoundSql.Script.Select
import BoundSql.Script.Update
import BoundSql.Statement.Build
import BoundSql.Table
import Mathlib.Tactic.Lemma

/-!
# Scripts

A script says how a program puts a statement together: what it starts from, and the steps that it
takes from there. A statement is reached when it is what some script ends with, so a law of all
reachable statements quantifies over scripts. Only the steps of an UPDATE statement can fail, when
they assign data that cannot be serialised.
-/

namespace BoundSql

/-- What the script of a SELECT statement starts from. -/
inductive Select.Origin where
  | empty
  | ofColumns (columns : List String)
  | table (t : Table)
  | tableById (t : Table) (id : Value)

/-- What the script of an INSERT statement starts from. -/
inductive Insert.Origin where
  | empty
  | ofTable (name : String)
  | table (t : Table)

/-- What the script of an UPDATE statement starts from. -/
inductive Update.Origin where
  | empty
  | ofTable (name : String)
  | table (t : Table)
  | tableById (t : Table) (id : Value)

/-- The statement before the first step. -/
def Select.Origin.start : Origin → Select
  | empty => Select.empty
  | ofColumns columns => Select.ofColumns columns
  | table t => t.select
  | tableById t id => t.selectById id

/-- The statement before the first step. -/
def Insert.Origin.start : Origin → Insert
  | empty => Insert.empty
  | ofTable name => Insert.ofTable name
  | table t => t.insert

/-- The statement before the first step. -/
def Update.Origin.start : Origin → Update
  | empty => Update.empty
  | ofTable name => Update.ofTable name
  | table t => t.update
  | tableById t id => t.updateById id

/-- A start and the steps from there, for a statement of any kind. -/
inductive Script where
  | select (origin : Select.Origin) (steps : List Select.Step)
  | insert (origin : Insert.Origin) (steps : List Insert.Step)
  | update (origin : Update.Origin) (steps : List Update.Step)

/-- The statement that a script ends with. -/
def Script.statement : Script → Except SerialError Statement
  | select origin steps => .ok (.select (origin.start.run steps))
  | insert origin steps => .ok (.insert (origin.start.run steps))
  | update origin steps => do return .update (← origin.start.run steps)

/-- The names that are set in a statement: of its table, of columns, of assigned fields. -/
def Select.names (s : Select) : List String :=
  s.table.toList ++ s.columns ++ s.order.toList.map OrderBy.column

@[inherit_doc Select.names]
def Insert.names (s : Insert) : List String := s.table.toList ++ s.columns

@[inherit_doc Select.names]
def Update.names (s : Update) : List String :=
  s.table.toList ++ s.assignments.map Assignment.field

namespace Select

variable {s : Select}

lemma table_mem_names {table : String} (h : s.table = some table) : table ∈ s.names := by
  simp [names, h]

lemma column_mem_names {name : String} (h : name ∈ s.columns) : name ∈ s.names := by
  simp [names, h]

lemma order_mem_names {o : OrderBy} (h : o ∈ s.order) : o.column ∈ s.names := by
  simp only [names, List.mem_append, List.mem_map, Option.mem_toList]
  exact .inr ⟨o, h, rfl⟩

end Select

namespace Insert

variable {s : Insert}

lemma table_mem_names {table : String} (h : s.table = some table) : table ∈ s.names := by
  simp [names, h]

lemma column_mem_names {name : String} (h : name ∈ s.columns) : name ∈ s.names := by
  simp [names, h]

end Insert

namespace Update

variable {s : Update}

lemma table_mem_names {table : String} (h : s.table = some table) : table ∈ s.names := by
  simp [names, h]

lemma field_mem_names {a : Assignment} (h : a ∈ s.assignments) : a.field ∈ s.names := by
  simp only [names, List.mem_append, List.mem_map]
  exact .inr ⟨a, h, rfl⟩

end Update

namespace Statement

@[inherit_doc Select.names]
def names : Statement → List String
  | select s => s.names
  | insert s => s.names
  | update s => s.names

/-- The predicates of a statement; an INSERT statement has none. -/
def predicates : Statement → Predicates
  | select s => s.predicates
  | insert _ => {}
  | update s => s.predicates

end Statement

end BoundSql
