/-!
# Kinds of statements
-/

namespace BoundSql

/-- The kinds of statements that can be built. -/
inductive Kind where
  | select
  | insert
  | update
deriving DecidableEq, Repr

/-- The keyword that a statement begins with. -/
def Kind.keyword : Kind → String
  | select => "SELECT"
  | insert => "INSERT"
  | update => "UPDATE"

end BoundSql
