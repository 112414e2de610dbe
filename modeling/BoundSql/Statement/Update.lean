import BoundSql.BuildError
import BoundSql.Statement.Kind
import BoundSql.Value.Conversion
import BoundSql.Where.Predicates

/-!
# UPDATE statements

A description of an UPDATE statement. The values of assignments are bound before those of predicates,
whatever the order in which they were added.
-/

namespace BoundSql

/-- A field and the value that it is set to. -/
structure Assignment where
  field : String
  value : Value

namespace Assignment

/-- The assignment with a placeholder for its value. -/
def toQuery (a : Assignment) : Query := .text (a.field ++ " = ") ++ .placeholder a.value

/-- The same field and equal values. -/
def sameAssignment (a b : Assignment) : Bool := a.field == b.field && a.value == b.value

instance : BEq Assignment := ⟨sameAssignment⟩

end Assignment

/-- An UPDATE statement. -/
structure Update where
  table : Option String := none
  assignments : List Assignment := []
  predicates : Predicates := {}

namespace Update

/-- The statement in which nothing is set. -/
def empty : Update := {}

/-- Sets the table. -/
def withTable (s : Update) (table : String) : Update := { s with table := some table }

/-- The statement in which only the table is set. -/
def ofTable (table : String) : Update := empty.withTable table

/-- Adds an assignment behind the earlier ones. -/
def assign (s : Update) (field : String) (v : Value) : Update :=
  { s with assignments := s.assignments ++ [⟨field, v⟩] }

/-- Adds an assignment of the document that data is serialised to. -/
def assignSerial (s : Update) (field : String) (x : Serial) : Except SerialError Update := do
  return s.assign field (← Value.ofSerial x)

/-- Adds a filter behind the earlier ones. -/
def filter (s : Update) (f : Filter) : Update :=
  { s with predicates := s.predicates.push f.toPredicate }

/-- Refuses a statement without assignments. -/
def validate (s : Update) : Except BuildError Unit :=
  if s.assignments.isEmpty then
    .error (.emptyStatement Kind.update.keyword "SET clause cannot be empty")
  else .ok ()

/-- The part that begins with `SET`; nothing if there is no assignment. -/
def setClause (s : Update) : Query :=
  if s.assignments.isEmpty then .empty
  else .text " SET " ++ .join ", " (s.assignments.map Assignment.toQuery)

/-- The statement for a table. -/
def render (s : Update) (table : String) : Query :=
  .text ("UPDATE " ++ table) ++ s.setClause ++ s.predicates.whereClause

/-- All parts are equal. -/
def sameUpdate (s t : Update) : Bool :=
  s.table == t.table && s.assignments == t.assignments && s.predicates == t.predicates

instance : BEq Update := ⟨sameUpdate⟩

end Update

end BoundSql
