import BoundSql.Where.Condition

/-!
# Steps that filter

The statements that have predicates share their ways to add one. Each of them adds one filter, and
each has a twin that adds it only when a check holds.
-/

namespace BoundSql

/-- Steps among which are those that add a filter, always or on a condition. -/
class FilterSteps (step : Type) where
  /-- Adds a filter. -/
  filter : Filter → step
  /-- Adds a filter if a check holds. -/
  filterIf : Bool → Filter → step

namespace FilterSteps

variable {step : Type} [FilterSteps step]

/-- Adds a predicate that is written by hand. -/
def wherePredicate (p : Predicate) : step := filter (.custom p)

@[inherit_doc wherePredicate]
def wherePredicateIf (p : Predicate) (check : Bool) : step := filterIf check (.custom p)

/-- Asks that a field is equal to a value. -/
def whereIsEqual (field : String) (v : Value) : step := filter (.isEqual field v)

@[inherit_doc whereIsEqual]
def whereIsEqualIf (field : String) (v : Value) (check : Bool) : step :=
  filterIf check (.isEqual field v)

/-- Asks that a field is not equal to a value. -/
def whereIsNotEqual (field : String) (v : Value) : step := filter (.isNotEqual field v)

@[inherit_doc whereIsNotEqual]
def whereIsNotEqualIf (field : String) (v : Value) (check : Bool) : step :=
  filterIf check (.isNotEqual field v)

/-- Asks that a field is less than a value. -/
def whereIsLessThan (field : String) (v : Value) : step := filter (.isLessThan field v)

@[inherit_doc whereIsLessThan]
def whereIsLessThanIf (field : String) (v : Value) (check : Bool) : step :=
  filterIf check (.isLessThan field v)

/-- Asks that a field is less than a value or equal to it. -/
def whereIsLessThanOrEqualTo (field : String) (v : Value) : step :=
  filter (.isLessThanOrEqualTo field v)

@[inherit_doc whereIsLessThanOrEqualTo]
def whereIsLessThanOrEqualToIf (field : String) (v : Value) (check : Bool) : step :=
  filterIf check (.isLessThanOrEqualTo field v)

/-- Asks that a field is greater than a value. -/
def whereIsGreaterThan (field : String) (v : Value) : step := filter (.isGreaterThan field v)

@[inherit_doc whereIsGreaterThan]
def whereIsGreaterThanIf (field : String) (v : Value) (check : Bool) : step :=
  filterIf check (.isGreaterThan field v)

/-- Asks that a field is greater than a value or equal to it. -/
def whereIsGreaterThanOrEqualTo (field : String) (v : Value) : step :=
  filter (.isGreaterThanOrEqualTo field v)

@[inherit_doc whereIsGreaterThanOrEqualTo]
def whereIsGreaterThanOrEqualToIf (field : String) (v : Value) (check : Bool) : step :=
  filterIf check (.isGreaterThanOrEqualTo field v)

/-- Asks that a field is like a pattern. -/
def whereIsLike (field : String) (pattern : Value) : step := filter (.isLike field pattern)

@[inherit_doc whereIsLike]
def whereIsLikeIf (field : String) (pattern : Value) (check : Bool) : step :=
  filterIf check (.isLike field pattern)

/-- Asks that a field has no value. -/
def whereIsNull (field : String) : step := filter (.isNull field)

@[inherit_doc whereIsNull]
def whereIsNullIf (field : String) (check : Bool) : step := filterIf check (.isNull field)

/-- Asks that a field has a value. -/
def whereIsNotNull (field : String) : step := filter (.isNotNull field)

@[inherit_doc whereIsNotNull]
def whereIsNotNullIf (field : String) (check : Bool) : step := filterIf check (.isNotNull field)

/-- Asks that a field is one of some values. -/
def whereIn (field : String) (vs : List Value) : step := filter (.isIn field vs)

@[inherit_doc whereIn]
def whereInIf (field : String) (vs : List Value) (check : Bool) : step :=
  filterIf check (.isIn field vs)

end FilterSteps

end BoundSql
