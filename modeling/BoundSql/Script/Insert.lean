import BoundSql.Statement.Insert

/-!
# Scripts for INSERT statements

Changes to a statement as data. Rows can be added on a condition.
-/

namespace BoundSql.Insert

/-- A change to a statement. -/
inductive Call where
  | table (name : String)
  | columns (names : List String)
  | row (vs : List Value)

/-- A change that is made, or a row that is added on a condition. -/
inductive Step where
  | always (c : Call)
  | rowIf (check : Bool) (vs : List Value)

/-- Makes a change. -/
def Call.apply : Call → Insert → Insert
  | table name, s => s.withTable name
  | columns names, s => s.withColumns names
  | row vs, s => s.addRow vs

/-- Takes a step. -/
def Step.apply : Step → Insert → Insert
  | always c, s => c.apply s
  | rowIf check vs, s => if check then s.addRow vs else s

/-- Makes changes from left to right. -/
def calls (s : Insert) (cs : List Call) : Insert := cs.foldl (fun s c => c.apply s) s

/-- Takes steps from left to right. -/
def run (s : Insert) (steps : List Step) : Insert := steps.foldl (fun s step => step.apply s) s

end BoundSql.Insert
