import BoundSql.Text.DefaultIgnorable
import BoundSql.Text.ExtendingMark
import BoundSql.Text.NonGraphic

/-!
# Quoted text

Text between double quotes, with everything escaped that a reader could not see as it is: the quote
and the backslash, the common controls by their letters, and every other character without a shape
of its own by its code point. Such are the characters of no graphic category, those that are not
drawn, and the marks that are drawn together with the character in front of them.
-/

namespace BoundSql.Quoted

/-- The character cannot be told apart on its own. -/
def isHidden (c : Char) : Bool :=
  NonGraphic.contains c || DefaultIgnorable.contains c || ExtendingMark.contains c

/-- A character by its code point in lower-case hexadecimal digits. -/
def codePoint (c : Char) : List Char :=
  '\\' :: 'u' :: '\x7b' :: Nat.toDigits 16 c.toNat ++ ['\x7d']

/-- The form of a character between quotes. -/
def escape (c : Char) : List Char :=
  match c with
  | '"' => ['\\', '"']
  | '\\' => ['\\', '\\']
  | '\n' => ['\\', 'n']
  | '\t' => ['\\', 't']
  | '\r' => ['\\', 'r']
  | '\x00' => ['\\', '0']
  | _ => if isHidden c then codePoint c else [c]

/-- The text between double quotes. -/
def quote (text : String) : String := String.ofList ('"' :: text.toList.flatMap escape ++ ['"'])

end BoundSql.Quoted
