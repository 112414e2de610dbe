/-!
# Opaque values

A value that no other kind can hold travels as a handle on shared storage. Handles are told apart by
the storage alone: two handles on equal contents differ unless they share it.
-/

namespace BoundSql

/-- The contents of an opaque value. -/
inductive Payload where
  | int64 (n : Int64)
  | text (s : String)
  | bytes (content : List UInt8)
deriving DecidableEq, Repr

namespace Payload

/-- The name that the type of the contents is known by. -/
def typeName : Payload → String
  | int64 _ => "i64"
  | text _ => "alloc::string::String"
  | bytes _ => "alloc::vec::Vec<u8>"

/-- The contents if they are an integer. -/
def int64? : Payload → Option Int64
  | int64 n => some n
  | _ => none

/-- The contents if they are text. -/
def text? : Payload → Option String
  | text s => some s
  | _ => none

/-- The contents if they are bytes. -/
def bytes? : Payload → Option (List UInt8)
  | bytes content => some content
  | _ => none

end Payload

/-- A handle on storage with the number `storage`, in which the payload lies. -/
structure Raw where
  storage : Nat
  payload : Payload

/-- Handles are equal when they share their storage. -/
def Raw.sameStorage (a b : Raw) : Bool := a.storage == b.storage

instance : BEq Raw := ⟨Raw.sameStorage⟩

end BoundSql
