import BoundSql.Value.Basic

/-!
# Queries

A query is SQL text together with the values that are bound to its placeholders. Queries are put
together from pieces that carry their own values, so text and values are always extended side by
side.
-/

namespace BoundSql

/-- SQL text, and the values for its placeholders in order. -/
structure Query where
  sql : String
  params : List Value

namespace Query

/-- Text and values one after the other. -/
def append (a b : Query) : Query := ⟨a.sql ++ b.sql, a.params ++ b.params⟩

instance : Append Query := ⟨append⟩

/-- Nothing. -/
def empty : Query := ⟨"", []⟩

/-- Text without values. -/
def text (sql : String) : Query := ⟨sql, []⟩

/-- A placeholder that is bound to a value. -/
def placeholder (v : Value) : Query := ⟨"?", [v]⟩

/-- Queries one after the other with a text between them. -/
def join (separator : String) (parts : List Query) : Query :=
  ⟨separator.intercalate (parts.map sql), parts.flatMap params⟩

@[simp] theorem sql_append (a b : Query) : (a ++ b).sql = a.sql ++ b.sql := rfl

@[simp] theorem params_append (a b : Query) : (a ++ b).params = a.params ++ b.params := rfl

/-- Joining is appending with the separator as text in between. -/
theorem join_cons_cons (separator : String) (a b : Query) (rest : List Query) :
    join separator (a :: b :: rest) = a ++ text separator ++ join separator (b :: rest) := by
  show Query.mk _ _ = Query.mk _ _
  simp [join, text, String.intercalate_cons_cons]

/-- The number of question marks in the text, wherever they stand. -/
def placeholderCount (q : Query) : Nat := q.sql.toList.count '?'

theorem placeholderCount_append (a b : Query) :
    (a ++ b).placeholderCount = a.placeholderCount + b.placeholderCount := by
  simp [placeholderCount]

/-- Equal text and equal values. -/
def sameQuery (a b : Query) : Bool := a.sql == b.sql && a.params == b.params

instance : BEq Query := ⟨sameQuery⟩

end Query

end BoundSql
