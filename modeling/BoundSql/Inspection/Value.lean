import BoundSql.Decimal.Layout
import BoundSql.Inspection.Basic
import BoundSql.Value.Basic

/-!
# Inspection of values

Values show their kind and contents; of opaque values only the name of their type is shown.
-/

namespace BoundSql

namespace Json

mutual

/-- The debug shape of a document. -/
def inspect : Json → Inspection
  | null => .atom "Null"
  | bool b => .tuple "Bool" [.ofBool b]
  | int n => .tuple "Number" [.atom n.repr]
  | float x => .tuple "Number" [.atom (Layout.document.render x)]
  | str s => .tuple "String" [.quoted s]
  | arr items => .labelled "Array" (.list (inspectItems items))
  | obj entries => .labelled "Object" (.map (inspectEntries entries))

/-- The debug shapes of documents. -/
def inspectItems : List Json → List Inspection
  | [] => []
  | item :: rest => inspect item :: inspectItems rest

/-- The debug shapes of the documents of entries. -/
def inspectEntries : List (String × Json) → List (String × Inspection)
  | [] => []
  | (key, value) :: rest => (key, inspect value) :: inspectEntries rest

end

end Json

/-- The debug shape of an opaque value. -/
def Raw.inspect (r : Raw) : Inspection := .tuple "RawValue" [.quoted r.payload.typeName]

/-- The debug shape of a value. -/
def Value.inspect : Value → Inspection
  | null => .atom "Null"
  | bool b => .tuple "Bool" [.ofBool b]
  | int n => .tuple "Int" [.atom n.toInt.repr]
  | uint n => .tuple "UInt" [.atom n.toNat.repr]
  | float x => .tuple "Float" [.atom (Layout.debug.render x)]
  | text s => .tuple "Text" [.quoted s]
  | json document => .tuple "Json" [document.inspect]
  | raw r => .tuple "Raw" [r.inspect]

/-- The debug shape of a list of values. -/
def Value.inspectList (vs : List Value) : Inspection := .list (vs.map Value.inspect)

end BoundSql
