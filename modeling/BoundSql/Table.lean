import BoundSql.Statement.Insert
import BoundSql.Statement.Select
import BoundSql.Statement.Update

/-!
# Tables

The column lists that statements on a table start from.
-/

namespace BoundSql

/-- A table and its usual columns. -/
structure Table where
  name : String
  selectColumns : List String
  insertColumns : List String
  idColumn : String
deriving DecidableEq, Repr

namespace Table

/-- A table of which all columns are selected, none inserted, and rows known by `id`. -/
def named (name : String) : Table := ⟨name, ["*"], [], "id"⟩

/-- Sets the columns that are selected. -/
def withSelectColumns (t : Table) (columns : List String) : Table :=
  { t with selectColumns := columns }

/-- Sets the columns that are inserted. -/
def withInsertColumns (t : Table) (columns : List String) : Table :=
  { t with insertColumns := columns }

/-- Sets the column that rows are known by. -/
def withIdColumn (t : Table) (column : String) : Table := { t with idColumn := column }

/-- The statement that selects the usual columns. -/
def select (t : Table) : Select := (Select.ofColumns t.selectColumns).withTable t.name

/-- The statement that inserts into the usual columns, if there are any. -/
def insert (t : Table) : Insert :=
  let s := Insert.ofTable t.name
  if t.insertColumns.isEmpty then s else s.withColumns t.insertColumns

/-- The statement that changes rows. -/
def update (t : Table) : Update := Update.ofTable t.name

/-- The filter for the row with an identifier. -/
def idFilter (t : Table) (id : Value) : Filter := .condition (.compare t.idColumn .equal id)

/-- The statement that selects the row with an identifier. -/
def selectById (t : Table) (id : Value) : Select := t.select.filter (t.idFilter id)

/-- The statement that changes the row with an identifier. -/
def updateById (t : Table) (id : Value) : Update := t.update.filter (t.idFilter id)

end Table

end BoundSql
