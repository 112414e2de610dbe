import BoundSql.Calendar.DateTime
import BoundSql.Json.Serial
import BoundSql.Uuid
import BoundSql.Value.Basic

/-!
# Conversions into values

How data of a program becomes a value. Integers that fit into the signed kind are always of that
kind, whatever machine type they come from, so that equal numbers become equal values. Dates, times
and identifiers become text.
-/

namespace BoundSql.Value

/-- An unsigned word: signed if it fits, unsigned otherwise. -/
def ofUInt64 (n : UInt64) : Value :=
  if Integer.FitsSigned n.toNat then int n.toInt64 else uint n

/--
A machine integer. Only the types of 128 bits hold numbers that have no value.
-/
def ofInteger? : Integer → Option Value
  | .int8 n => some (int n.toInt64)
  | .int16 n => some (int n.toInt64)
  | .int32 n => some (int n.toInt64)
  | .int64 n => some (int n)
  | .intSize n => some (int n)
  | .uint8 n => some (int n.toUInt64.toInt64)
  | .uint16 n => some (int n.toUInt64.toInt64)
  | .uint32 n => some (int n.toUInt64.toInt64)
  | .uint64 n => some (ofUInt64 n)
  | .uintSize n => some (ofUInt64 n)
  | .int128 n =>
    if Integer.FitsSigned n.toInt then some (int (.ofInt n.toInt))
    else if Integer.FitsUnsigned n.toInt then some (uint (.ofNat n.toNat))
    else none
  | .uint128 n => if Integer.FitsUnsigned n.toNat then some (ofUInt64 (.ofNat n.toNat)) else none

/-- A floating point number of 32 bits, widened without loss. -/
def ofBinary32 (x : Binary32) : Value := float x.widen

/-- A single character. -/
def ofChar (c : Char) : Value := text (String.singleton c)

/-- A value that may be missing. -/
def ofOption : Option Value → Value
  | none => null
  | some v => v

/-- A date. -/
def ofDate (d : Date) : Value := text d.text

/-- A date and time without a place. -/
def ofLocalDateTime (t : LocalDateTime) : Value := text t.text

/-- A date and time with an offset. -/
def ofOffsetDateTime (t : OffsetDateTime) : Value := text t.text

/-- An identifier. -/
def ofUuid (u : Uuid) : Value := text u.text

/-- Data that is bound as the document it is serialised to. -/
def ofSerial (x : Serial) : Except SerialError Value := do return json (← x.toJson)

end BoundSql.Value
