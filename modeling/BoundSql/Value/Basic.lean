import BoundSql.Json.Basic
import BoundSql.Value.Raw

/-!
# Values

What a placeholder can be bound to. `Value.sameValue` is the comparison of programs: it looks at the
kind and the contents, compares floating point numbers numerically (so a NaN differs from itself)
and opaque values by their storage.
-/

namespace BoundSql

/-- A value that is bound to a placeholder. -/
inductive Value where
  /-- The absent value of SQL. -/
  | null
  | bool (b : Bool)
  | int (n : Int64)
  /-- An integer that is meant for numbers past the largest signed one. -/
  | uint (n : UInt64)
  | float (x : Binary64)
  | text (s : String)
  | json (document : Json)
  | raw (r : Raw)

namespace Value

/-- The value is the absent one. -/
def isNull : Value → Bool
  | null => true
  | _ => false

/-- Two values are of one kind and have equal contents. -/
def sameValue : Value → Value → Bool
  | null, null => true
  | bool a, bool b => a == b
  | int a, int b => a == b
  | uint a, uint b => a == b
  | float a, float b => a == b
  | text a, text b => a == b
  | json a, json b => a == b
  | raw a, raw b => a == b
  | _, _ => false

instance : BEq Value := ⟨sameValue⟩

end Value

end BoundSql
