import BoundSql.Where.Condition

/-!
# Lists of predicates

The predicates of a statement in the order in which they were added, which is also the order of their
clauses, joined by `AND`, and of their values.
-/

namespace BoundSql

/-- Predicates in the order in which they were added. -/
structure Predicates where
  items : List Predicate := []

namespace Predicates

/-- There is no predicate. -/
def isEmpty (ps : Predicates) : Bool := ps.items.isEmpty

/-- Adds a predicate at the end. -/
def push (ps : Predicates) (p : Predicate) : Predicates := ⟨ps.items ++ [p]⟩

/-- All clauses, joined by `AND`, with their values. -/
def toQuery (ps : Predicates) : Query := .join " AND " (ps.items.map Predicate.toQuery)

/-- All clauses, and their values behind those that are given. -/
def build (ps : Predicates) (params : List Value) : Query :=
  ⟨ps.toQuery.sql, params ++ ps.toQuery.params⟩

/-- The part of a statement that begins with `WHERE`; nothing if there is no predicate. -/
def whereClause (ps : Predicates) : Query :=
  if ps.isEmpty then .empty else .text " WHERE " ++ ps.toQuery

/-- Equal predicates at every place. -/
def samePredicates (ps qs : Predicates) : Bool := ps.items == qs.items

instance : BEq Predicates := ⟨samePredicates⟩

end Predicates

end BoundSql
