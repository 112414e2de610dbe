import BoundSql.Where.Predicate

/-!
# Conditions

The ready-made conditions on a field. Each has exactly one clause text and one binding; `Filter` adds
predicates that are written by hand.
-/

namespace BoundSql

/-- A comparison of a field with a value. -/
inductive Comparison where
  | equal
  | notEqual
  | less
  | lessOrEqual
  | greater
  | greaterOrEqual
  | like
deriving DecidableEq, Repr

/-- The operator of SQL. -/
def Comparison.operator : Comparison → String
  | equal => "="
  | notEqual => "!="
  | less => "<"
  | lessOrEqual => "<="
  | greater => ">"
  | greaterOrEqual => ">="
  | like => "LIKE"

/-- A condition on a field. -/
inductive Condition where
  | compare (field : String) (comparison : Comparison) (v : Value)
  | isNull (field : String)
  | isNotNull (field : String)
  /-- The field is one of the values; an empty list is rendered as it is. -/
  | isIn (field : String) (vs : List Value)

/-- The clause of a condition: a placeholder for each value, none for the absence of a value. -/
def Condition.toPredicate : Condition → Predicate
  | compare field comparison v => ⟨field ++ " " ++ comparison.operator ++ " ?", some (.single v)⟩
  | isNull field => ⟨field ++ " IS NULL", none⟩
  | isNotNull field => ⟨field ++ " IS NOT NULL", none⟩
  | isIn field vs =>
    ⟨field ++ " IN (" ++ ",".intercalate (vs.map fun _ => "?") ++ ")", some (.list vs)⟩

/-- What a statement can be filtered by. -/
inductive Filter where
  | condition (c : Condition)
  | custom (p : Predicate)

namespace Filter

/-- The predicate that a filter adds. -/
def toPredicate : Filter → Predicate
  | condition c => c.toPredicate
  | custom p => p

/-- A comparison of a field with a value. -/
def compare (comparison : Comparison) (field : String) (v : Value) : Filter :=
  .condition (.compare field comparison v)

/-- The field is equal to the value. -/
def isEqual : String → Value → Filter := compare .equal

/-- The field is not equal to the value. -/
def isNotEqual : String → Value → Filter := compare .notEqual

/-- The field is less than the value. -/
def isLessThan : String → Value → Filter := compare .less

/-- The field is less than the value or equal to it. -/
def isLessThanOrEqualTo : String → Value → Filter := compare .lessOrEqual

/-- The field is greater than the value. -/
def isGreaterThan : String → Value → Filter := compare .greater

/-- The field is greater than the value or equal to it. -/
def isGreaterThanOrEqualTo : String → Value → Filter := compare .greaterOrEqual

/-- The field is like a pattern. -/
def isLike : String → Value → Filter := compare .like

/-- The field has no value. -/
def isNull (field : String) : Filter := .condition (.isNull field)

/-- The field has a value. -/
def isNotNull (field : String) : Filter := .condition (.isNotNull field)

/-- The field is one of the values. -/
def isIn (field : String) (vs : List Value) : Filter := .condition (.isIn field vs)

end Filter

end BoundSql
