import BoundSql.Where.Predicates

/-!
# SELECT statements

A description of a SELECT statement. Its parts can be set in any order; they are rendered in the
order that SQL asks for.
-/

namespace BoundSql

/-- The column that rows are sorted by. -/
structure OrderBy where
  column : String
  descending : Bool
deriving DecidableEq, Repr

/-- A SELECT statement. -/
structure Select where
  table : Option String := none
  columns : List String := []
  predicates : Predicates := {}
  order : Option OrderBy := none
  limit : Option Nat := none
  offset : Option Nat := none

namespace Select

/-- The statement in which nothing is set. -/
def empty : Select := {}

/-- Sets the table. -/
def withTable (s : Select) (table : String) : Select := { s with table := some table }

/-- Sets the columns in place of earlier ones. -/
def withColumns (s : Select) (columns : List String) : Select := { s with columns := columns }

/-- Sets the column that rows are sorted by. -/
def orderedBy (s : Select) (column : String) (descending : Bool) : Select :=
  { s with order := some ⟨column, descending⟩ }

/-- The statement in which only the columns are set. -/
def ofColumns (columns : List String) : Select := empty.withColumns columns

/-- Sets the largest number of rows; zero stands for no limit. -/
def withLimit (s : Select) (n : Nat) : Select := { s with limit := some n }

/-- Sets the number of rows that are skipped. -/
def withOffset (s : Select) (n : Nat) : Select := { s with offset := some n }

/-- Adds a filter behind the earlier ones. -/
def filter (s : Select) (f : Filter) : Select :=
  { s with predicates := s.predicates.push f.toPredicate }

/-- The part that says how rows are sorted. -/
def orderClause (s : Select) : Query :=
  match s.order with
  | none => .empty
  | some o => .text (" ORDER BY " ++ o.column ++ (if o.descending then " DESC" else " ASC"))

/-- A number of rows behind a keyword; nothing for zero. -/
def countClause (keyword : String) : Option Nat → Query
  | none => .empty
  | some n => if n = 0 then .empty else .text (" " ++ keyword ++ " " ++ n.repr)

/-- The statement for a table. -/
def render (s : Select) (table : String) : Query :=
  .text ("SELECT " ++ ", ".intercalate s.columns ++ " FROM " ++ table) ++ s.predicates.whereClause ++
    s.orderClause ++ countClause "LIMIT" s.limit ++ countClause "OFFSET" s.offset

/-- All parts are equal. -/
def sameSelect (s t : Select) : Bool :=
  s.table == t.table && s.columns == t.columns && s.predicates == t.predicates &&
    s.order == t.order && s.limit == t.limit && s.offset == t.offset

instance : BEq Select := ⟨sameSelect⟩

end Select

end BoundSql
