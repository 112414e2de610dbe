import BoundSql.BuildError
import BoundSql.Query
import BoundSql.Statement.Kind
import BoundSql.Text.Truncation

/-!
# Events

What is logged when a statement is built or rejected. Values are never logged, only their number, and
the SQL text is cut at a limit.
-/

namespace BoundSql

/-- The importance of an event. -/
inductive Level where
  | debug
  | warn
deriving DecidableEq, Repr

/-- The name of a level. -/
def Level.name : Level → String
  | debug => "DEBUG"
  | warn => "WARN"

/-- An event of the log. -/
inductive Event where
  | built (kind : Kind) (paramCount : Nat) (truncated : Bool) (sql : String)
  | rejected (kind : Kind) (error : BuildError)
deriving DecidableEq, Repr

namespace Event

/-- The largest number of bytes of SQL text in an event. -/
def maxLoggedBytes : Nat := 200

/-- The event for a statement that was built. -/
def ofQuery (kind : Kind) (q : Query) : Event :=
  let shown := Truncation.truncate q.sql maxLoggedBytes
  built kind q.params.length (shown.utf8ByteSize < q.sql.utf8ByteSize) shown

/-- The name that all events are filed under. -/
def target : String := "fluent_sql::sql"

/-- A statement that was built is of interest to a developer, a rejected one to everybody. -/
def level : Event → Level
  | built _ _ _ _ => .debug
  | rejected _ _ => .warn

/-- What happened. -/
def message : Event → String
  | built _ _ _ _ => "statement built"
  | rejected _ _ => "statement rejected"

/-- The details of an event, by name. -/
def details : Event → List (String × String)
  | built kind paramCount truncated sql =>
    [("statement", kind.keyword), ("param_count", paramCount.repr),
      ("truncated", if truncated then "true" else "false"), ("sql", sql)]
  | rejected kind error => [("statement", kind.keyword), ("error", error.message)]

/-- All fields of an event, by name. -/
def fields (e : Event) : List (String × String) :=
  [("level", e.level.name), ("target", target), ("message", e.message)] ++ e.details

end Event

end BoundSql
