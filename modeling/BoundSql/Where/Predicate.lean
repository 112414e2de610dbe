import BoundSql.Query

/-!
# Predicates

A predicate is the text of one clause together with what is bound to the placeholders in it. The text
is taken on trust. A clause without a binding is not the same as one that is bound to the absent
value, nor as one that is bound to an empty list.
-/

namespace BoundSql

/-- What is bound to the placeholders of a clause. -/
inductive Binding where
  /-- One value for one placeholder. -/
  | single (v : Value)
  /-- A value for each placeholder of a list. -/
  | list (vs : List Value)

namespace Binding

/-- The bound values in the order of the placeholders. -/
def values : Binding → List Value
  | single v => [v]
  | list vs => vs

/-- Bindings of one shape with equal values. -/
def sameBinding : Binding → Binding → Bool
  | single a, single b => a == b
  | list as, list bs => as == bs
  | _, _ => false

instance : BEq Binding := ⟨sameBinding⟩

end Binding

/-- A clause and what is bound to its placeholders, if it has any. -/
structure Predicate where
  clause : String
  binding : Option Binding

namespace Predicate

/-- Something is bound to the clause, be it an empty list. -/
def isBound (p : Predicate) : Bool := p.binding.isSome

/-- The bound values in the order of the placeholders. -/
def values (p : Predicate) : List Value :=
  match p.binding with
  | none => []
  | some b => b.values

/-- The clause with its values. -/
def toQuery (p : Predicate) : Query := ⟨p.clause, p.values⟩

/-- Equal clauses with equal bindings. -/
def samePredicate (p q : Predicate) : Bool := p.clause == q.clause && p.binding == q.binding

instance : BEq Predicate := ⟨samePredicate⟩

end Predicate

end BoundSql
