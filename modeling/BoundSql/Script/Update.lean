import BoundSql.Script.Filter
import BoundSql.Statement.Update

/-!
# Scripts for UPDATE statements

Changes to a statement as data. Assignments and filters can be added on a condition, an assignment of
a value that may be missing is made only when it is there, and one of serialised data can fail.
-/

namespace BoundSql.Update

/-- A change to a statement. -/
inductive Call where
  | table (name : String)
  | assign (field : String) (v : Value)
  | filter (f : Filter)

/-- A change that is made, made on a condition, or made if there is a value. -/
inductive Step where
  | always (c : Call)
  | assignIf (check : Bool) (field : String) (v : Value)
  | filterIf (check : Bool) (f : Filter)
  | assignOption (field : String) (v : Option Value)
  | assignSerial (field : String) (x : Serial)

instance : FilterSteps Step where
  filter f := .always (.filter f)
  filterIf := .filterIf

/-- Makes a change. -/
def Call.apply : Call → Update → Update
  | table name, s => s.withTable name
  | assign field v, s => s.assign field v
  | filter f, s => s.filter f

/-- Takes a step; only the assignment of data that cannot be serialised fails. -/
def Step.apply : Step → Update → Except SerialError Update
  | always c, s => .ok (c.apply s)
  | assignIf check field v, s => .ok (if check then s.assign field v else s)
  | filterIf check f, s => .ok (if check then s.filter f else s)
  | assignOption field v, s =>
    match v with
    | some v => .ok (s.assign field v)
    | none => .ok s
  | assignSerial field x, s => s.assignSerial field x

/-- Makes changes from left to right. -/
def calls (s : Update) (cs : List Call) : Update := cs.foldl (fun s c => c.apply s) s

/-- Takes steps from left to right up to the first that fails. -/
def run (s : Update) (steps : List Step) : Except SerialError Update :=
  steps.foldlM (fun s step => step.apply s) s

end BoundSql.Update
