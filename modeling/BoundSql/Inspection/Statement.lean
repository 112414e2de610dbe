import BoundSql.Inspection.Value
import BoundSql.Statement.Build
import BoundSql.Table

/-!
# Inspection of statements

Statements and their parts show all their fields, also those that are not set.
-/

namespace BoundSql

/-- The debug shape of a list of names. -/
def Inspection.names (names : List String) : Inspection := .list (names.map .quoted)

/-- The debug shape of a binding. -/
def Binding.inspect : Binding → Inspection
  | single v => .tuple "Single" [v.inspect]
  | list vs => .tuple "List" [Value.inspectList vs]

/-- The debug shape of a predicate. -/
def Predicate.inspect (p : Predicate) : Inspection :=
  .record "Predicate"
    [("clause", .quoted p.clause), ("arg", .ofOption (p.binding.map Binding.inspect))]

/-- The debug shape of a list of predicates. -/
def Predicates.inspect (ps : Predicates) : Inspection :=
  .record "Predicates" [("items", .list (ps.items.map Predicate.inspect))]

/-- The debug shape of a SELECT statement. -/
def Select.inspect (s : Select) : Inspection :=
  .record "Select"
    [("table", .ofOption (s.table.map .quoted)),
     ("columns", .names s.columns),
     ("predicates", s.predicates.inspect),
     ("order_by", .ofOption (s.order.map fun o => .pair (.quoted o.column) (.ofBool o.descending))),
     ("limit", .ofOption (s.limit.map fun n => .atom n.repr)),
     ("offset", .ofOption (s.offset.map fun n => .atom n.repr))]

/-- The debug shape of an INSERT statement. -/
def Insert.inspect (s : Insert) : Inspection :=
  .record "Insert"
    [("table", .ofOption (s.table.map .quoted)),
     ("columns", .names s.columns),
     ("rows", .list (s.rows.map Value.inspectList))]

/-- The debug shape of an UPDATE statement. -/
def Update.inspect (s : Update) : Inspection :=
  .record "Update"
    [("table", .ofOption (s.table.map .quoted)),
     ("assignments", .list (s.assignments.map fun a => .pair (.quoted a.field) a.value.inspect)),
     ("predicates", s.predicates.inspect)]

/-- The debug shape of a statement of any kind. -/
def Statement.inspect : Statement → Inspection
  | select s => s.inspect
  | insert s => s.inspect
  | update s => s.inspect

/-- The debug shape of the kind of a statement. -/
def Kind.inspect : Kind → Inspection
  | select => .atom "Select"
  | insert => .atom "Insert"
  | update => .atom "Update"

/-- The debug shape of a table. -/
def Table.inspect (t : Table) : Inspection :=
  .record "Table"
    [("name", .quoted t.name), ("select_cols", .names t.selectColumns),
     ("insert_cols", .names t.insertColumns), ("id_col", .quoted t.idColumn)]

/-- The debug shape of a query. -/
def Query.inspect (q : Query) : Inspection :=
  .record "BuiltQuery" [("sql", .quoted q.sql), ("params", Value.inspectList q.params)]

/-- The debug shape of a build error. -/
def BuildError.inspect : BuildError → Inspection
  | emptyStatement statement reason =>
    .record "EmptyStatement" [("statement", .quoted statement), ("reason", .quoted reason)]
  | missingTable statement => .record "MissingTable" [("statement", .quoted statement)]

end BoundSql
