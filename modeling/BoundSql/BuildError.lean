/-!
# Build errors

Why a statement cannot be built.
-/

namespace BoundSql

/-- Why a statement cannot be built; the statement is named by its keyword. -/
inductive BuildError where
  /-- Something that the statement needs at least one of was never added. -/
  | emptyStatement (statement reason : String)
  /-- The statement has no table. -/
  | missingTable (statement : String)
deriving DecidableEq, Repr

namespace BuildError

/-- The wording of an error. -/
def message : BuildError → String
  | emptyStatement statement reason => "empty " ++ statement ++ " statement: " ++ reason
  | missingTable statement => statement ++ " statement has no table"

/-- Something is missing from the statement, but not its table. -/
def isEmptyStatement : BuildError → Bool
  | emptyStatement _ _ => true
  | missingTable _ => false

/-- The table is missing. -/
def isMissingTable : BuildError → Bool
  | emptyStatement _ _ => false
  | missingTable _ => true

end BuildError

end BoundSql
