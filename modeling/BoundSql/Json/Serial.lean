import BoundSql.Decimal.Layout
import BoundSql.Json.Basic
import BoundSql.Json.Refusal

/-!
# Data that can be serialised

`Serial` describes data of a program by the shape it shows to a serialiser: scalars, optional values,
sequences, maps, records and the four shapes of a variant. `Serial.toJson` turns it into a document,
or reports the first thing that no document can hold, looking from left to right and at a key before
its value.
-/

namespace BoundSql

/-- Data as it presents itself to a serialiser. -/
inductive Serial where
  | unit
  | none
  | bool (b : Bool)
  | integer (n : Integer)
  | float32 (x : Binary32)
  | float64 (x : Binary64)
  | char (c : Char)
  | str (s : String)
  | bytes (content : List UInt8)
  | some (x : Serial)
  /-- A record with a single field that has no name. -/
  | wrapped (x : Serial)
  | seq (items : List Serial)
  | map (entries : List (Serial × Serial))
  | record (fields : List (String × Serial))
  /-- A variant without content. -/
  | unitVariant (name : String)
  /-- A variant with one part. -/
  | variant (name : String) (x : Serial)
  /-- A variant with several parts. -/
  | seqVariant (name : String) (items : List Serial)
  /-- A variant with named fields. -/
  | recordVariant (name : String) (fields : List (String × Serial))
  /-- Data that refuses to be serialised and says why. -/
  | failure (message : String)

/-- Why data has no document. -/
inductive SerialError where
  /-- An integer fits neither signed nor unsigned 64 bits. -/
  | numberOutOfRange
  /-- A key of a map is no text and has none either. -/
  | keyNotText
  /-- A key of a map is a floating point number that is not finite. -/
  | keyNotFinite
  /-- The data itself refused. -/
  | refused (refusal : Refusal)
deriving DecidableEq, Repr

/-- The wording of an error. -/
def SerialError.message : SerialError → String
  | numberOutOfRange => "number out of range"
  | keyNotText => "key must be a string"
  | keyNotFinite => "float key must be finite (got NaN or +/-inf)"
  | refused refusal => refusal.text

namespace Serial

/-- The text that stands for data used as a key of a map. -/
def toKey : Serial → Except SerialError String
  | bool b => .ok (if b then "true" else "false")
  | integer n => .ok n.toInt.repr
  | float32 x =>
    if x.widen.isFinite then .ok (Layout.narrowKey.finite x.isNegative x.magnitude)
    else .error .keyNotFinite
  | float64 x => if x.isFinite then .ok (Layout.document.render x) else .error .keyNotFinite
  | char c => .ok (String.singleton c)
  | str s => .ok s
  | unitVariant name => .ok name
  | wrapped x => toKey x
  | failure message => .error (.refused (.ofText message))
  | _ => .error .keyNotText

/-- A machine integer as a document. -/
def integerToJson (n : Integer) : Except SerialError Json :=
  if Integer.FitsSigned n.toInt ∨ Integer.FitsUnsigned n.toInt then .ok (.int n.toInt)
  else .error .numberOutOfRange

mutual

/-- The document that data is serialised to. -/
def toJson : Serial → Except SerialError Json
  | unit => .ok .null
  | none => .ok .null
  | bool b => .ok (.bool b)
  | integer n => integerToJson n
  | float32 x => .ok (.ofFloat x.widen)
  | float64 x => .ok (.ofFloat x)
  | char c => .ok (.str (String.singleton c))
  | str s => .ok (.str s)
  | bytes content => .ok (.arr (content.map fun b => .int b.toNat))
  | some x => toJson x
  | wrapped x => toJson x
  | seq items => do return .arr (← itemsToJson items)
  | map entries => do return .obj (← mapToEntries entries [])
  | record fields => do return .obj (← fieldsToEntries fields [])
  | unitVariant name => .ok (.str name)
  | variant name x => do return .obj [(name, ← toJson x)]
  | seqVariant name items => do return .obj [(name, .arr (← itemsToJson items))]
  | recordVariant name fields => do return .obj [(name, .obj (← fieldsToEntries fields []))]
  | failure message => .error (.refused (.ofText message))

/-- The documents of a list of data. -/
def itemsToJson : List Serial → Except SerialError (List Json)
  | [] => .ok []
  | item :: rest => do
    let first ← toJson item
    return first :: (← itemsToJson rest)

/-- The entries that the keys and values of a map add to those collected so far. -/
def mapToEntries : List (Serial × Serial) → Json.Entries → Except SerialError Json.Entries
  | [], collected => .ok collected
  | (key, value) :: rest, collected => do
    let name ← toKey key
    let document ← toJson value
    mapToEntries rest (collected.insert name document)

/-- The entries that the fields of a record add to those collected so far. -/
def fieldsToEntries : List (String × Serial) → Json.Entries → Except SerialError Json.Entries
  | [], collected => .ok collected
  | (name, value) :: rest, collected => do
    let document ← toJson value
    fieldsToEntries rest (collected.insert name document)

end

end Serial

namespace Json

mutual

/--
A document as data: integers in the signed type when they are negative and in the unsigned type
otherwise, objects as maps with text keys.
-/
def toSerial : Json → Serial
  | null => .unit
  | bool b => .bool b
  | int n => .integer (if n < 0 then .int64 (.ofInt n) else .uint64 (.ofNat n.toNat))
  | float x => .float64 x
  | str s => .str s
  | arr items => .seq (itemsToSerial items)
  | obj entries => .map (entriesToSerial entries)

/-- The documents of a list as data. -/
def itemsToSerial : List Json → List Serial
  | [] => []
  | item :: rest => toSerial item :: itemsToSerial rest

/-- The entries of an object as those of a map. -/
def entriesToSerial : List (String × Json) → List (Serial × Serial)
  | [] => []
  | (key, value) :: rest => (.str key, toSerial value) :: entriesToSerial rest

end

end Json

end BoundSql
