import BoundSql.BuildError
import BoundSql.Query
import BoundSql.Statement.Kind

/-!
# INSERT statements

A description of an INSERT statement of one or more rows. A row need not have as many values as there
are columns.
-/

namespace BoundSql

/-- An INSERT statement. -/
structure Insert where
  table : Option String := none
  columns : List String := []
  rows : List (List Value) := []

namespace Insert

/-- The statement in which nothing is set. -/
def empty : Insert := {}

/-- Sets the table. -/
def withTable (s : Insert) (table : String) : Insert := { s with table := some table }

/-- The statement in which only the table is set. -/
def ofTable (table : String) : Insert := empty.withTable table

/-- Sets the columns in place of earlier ones. -/
def withColumns (s : Insert) (columns : List String) : Insert := { s with columns := columns }

/-- Adds a row behind the earlier ones. -/
def addRow (s : Insert) (row : List Value) : Insert := { s with rows := s.rows ++ [row] }

/-- Refuses a statement without rows. -/
def validate (s : Insert) : Except BuildError Unit :=
  if s.rows.isEmpty then .error (.emptyStatement Kind.insert.keyword "no rows added") else .ok ()

/-- The placeholders of a row in parentheses. -/
def rowQuery (row : List Value) : Query :=
  .text "(" ++ .join ", " (row.map .placeholder) ++ .text ")"

/-- The statement for a table. -/
def render (s : Insert) (table : String) : Query :=
  .text ("INSERT INTO " ++ table ++ " (" ++ ", ".intercalate s.columns ++ ") VALUES ") ++
    .join ", " (s.rows.map rowQuery)

/-- All parts are equal. -/
def sameInsert (s t : Insert) : Bool :=
  s.table == t.table && s.columns == t.columns && s.rows == t.rows

instance : BEq Insert := ⟨sameInsert⟩

end Insert

end BoundSql
