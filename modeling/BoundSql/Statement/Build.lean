import BoundSql.Event
import BoundSql.Statement.Insert
import BoundSql.Statement.Select
import BoundSql.Statement.Update

/-!
# Building statements

A statement is built from its description once it is complete: it needs a table, which is looked at
first, and whatever its kind asks for. Each build leaves its trace in the log.
-/

namespace BoundSql

/-- A statement of any kind. -/
inductive Statement where
  | select (s : Select)
  | insert (s : Insert)
  | update (s : Update)

/-- The outcome of a build and the events that it logs. -/
structure Build where
  result : Except BuildError Query
  log : List Event

namespace Statement

/-- The kind of a statement. -/
def kind : Statement → Kind
  | select _ => .select
  | insert _ => .insert
  | update _ => .update

/-- The table that was set. -/
def table? : Statement → Option String
  | select s => s.table
  | insert s => s.table
  | update s => s.table

/-- Checks what the kind of statement asks for, apart from the table. -/
def validate : Statement → Except BuildError Unit
  | select _ => .ok ()
  | insert s => s.validate
  | update s => s.validate

/-- The statement for a table, without any checks. -/
def render : Statement → String → Query
  | select s => s.render
  | insert s => s.render
  | update s => s.render

/-- The table of a complete statement; an empty name is none. -/
def checkedTable (s : Statement) : Except BuildError String :=
  match s.table?.filter (· ≠ "") with
  | none => .error (.missingTable s.kind.keyword)
  | some table => do
    s.validate
    return table

/-- Checks the statement and renders it, and logs the outcome. -/
def build (s : Statement) : Build :=
  match s.checkedTable with
  | .error e => ⟨.error e, [.rejected s.kind e]⟩
  | .ok table =>
    let q := s.render table
    ⟨.ok q, [.ofQuery s.kind q]⟩

/-- The query of a complete statement. -/
def toQuery (s : Statement) : Except BuildError Query := s.build.result

/-- Two statements of one kind whose parts are equal. -/
def sameStatement : Statement → Statement → Bool
  | select s, select t => s == t
  | insert s, insert t => s == t
  | update s, update t => s == t
  | _, _ => false

instance : BEq Statement := ⟨sameStatement⟩

end Statement

end BoundSql
