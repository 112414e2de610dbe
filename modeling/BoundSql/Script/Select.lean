import BoundSql.Script.Filter
import BoundSql.Statement.Select

/-!
# Scripts for SELECT statements

Changes to a statement as data. A step makes a change always, or only when a check holds; a limit or
an offset that may be missing is set only when it is there as well.
-/

namespace BoundSql.Select

/-- A change to a statement. -/
inductive Call where
  | table (name : String)
  | columns (names : List String)
  | order (column : String) (descending : Bool)
  | limit (n : Nat)
  | offset (n : Nat)
  | filter (f : Filter)

/-- A change that is made, or made on a condition. -/
inductive Step where
  | always (c : Call)
  | onlyIf (check : Bool) (c : Call)
  | limitIf (check : Bool) (n : Option Nat)
  | offsetIf (check : Bool) (n : Option Nat)

instance : FilterSteps Step where
  filter f := .always (.filter f)
  filterIf check f := .onlyIf check (.filter f)

namespace Step

/-- Sets the columns if a check holds. -/
def selectIf (columns : List String) (check : Bool) : Step := onlyIf check (.columns columns)

/-- Sets the table if a check holds. -/
def fromIf (table : String) (check : Bool) : Step := onlyIf check (.table table)

/-- Sets the column that rows are sorted by if a check holds. -/
def orderByIf (column : String) (descending check : Bool) : Step :=
  onlyIf check (.order column descending)

end Step

/-- Makes a change. -/
def Call.apply : Call → Select → Select
  | table name, s => s.withTable name
  | columns names, s => s.withColumns names
  | order column descending, s => s.orderedBy column descending
  | limit n, s => s.withLimit n
  | offset n, s => s.withOffset n
  | filter f, s => s.filter f

/-- Takes a step. -/
def Step.apply : Step → Select → Select
  | always c, s => c.apply s
  | onlyIf check c, s => if check then c.apply s else s
  | limitIf check n, s =>
    match n, check with
    | some n, true => s.withLimit n
    | _, _ => s
  | offsetIf check n, s =>
    match n, check with
    | some n, true => s.withOffset n
    | _, _ => s

/-- Makes changes from left to right. -/
def calls (s : Select) (cs : List Call) : Select := cs.foldl (fun s c => c.apply s) s

/-- Takes steps from left to right. -/
def run (s : Select) (steps : List Step) : Select := steps.foldl (fun s step => step.apply s) s

end BoundSql.Select
