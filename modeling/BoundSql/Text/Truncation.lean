/-!
# Truncation at a byte limit

A text is cut at a number of bytes of its UTF-8 encoding. Where the limit falls inside a character, the
cut moves back byte by byte to the beginning of that character, so no character is ever split.
-/

namespace BoundSql.Truncation

/-- The last byte offset, up to the given one, at which a character begins or the text ends. -/
def backOff (text : String) : Nat → Nat
  | 0 => 0
  | offset + 1 =>
    if String.Pos.Raw.isValid text ⟨offset + 1⟩ then offset + 1 else backOff text offset

/-- The offset at which backing off ends lies in the text and splits no character. -/
theorem isValid_backOff (text : String) (offset : Nat) :
    (String.Pos.Raw.mk (backOff text offset)).IsValid text := by
  induction offset with
  | zero => exact String.Pos.Raw.isValid_zero
  | succ offset ih =>
    rw [backOff]
    split
    next valid => exact String.Pos.Raw.isValid_eq_true_iff.1 valid
    next => exact ih

/-- A text of at most `limit` bytes as it is, a longer one up to the last whole character in them. -/
def truncate (text : String) (limit : Nat) : String :=
  if text.utf8ByteSize ≤ limit then text
  else (text.sliceTo ⟨⟨backOff text limit⟩, isValid_backOff text limit⟩).copy

end BoundSql.Truncation
