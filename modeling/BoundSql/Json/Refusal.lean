/-!
# Refusals

The words with which data refuses to be serialised. They may end with a position in a text, such as
` at line 3 column 7`. The position is read as two numbers, so it is written back without leading
zeros; lines count from one, so a position in line zero is none and is dropped.
-/

namespace BoundSql

/-- A place in a text, of which lines count from one. -/
structure Position where
  line : Nat
  column : Nat
deriving DecidableEq, Repr

/-- A reason, and the place that it is about, if it names one. -/
structure Refusal where
  reason : String
  position : Option Position
deriving DecidableEq, Repr

namespace Refusal

/-- The characters in front of an ending, if there is that ending. -/
def dropEnding? (ending cs : List Char) : Option (List Char) :=
  if ending.isSuffixOf cs then some (cs.take (cs.length - ending.length)) else none

/-- The characters in front of the digits at the end, and those digits. -/
def splitDigits (cs : List Char) : List Char × List Char :=
  ((cs.reverse.dropWhile Char.isDigit).reverse, (cs.reverse.takeWhile Char.isDigit).reverse)

/-- The number that digits stand for, if there are any and it fits into 64 bits. -/
def number? (digits : List Char) : Option Nat :=
  let n := Nat.ofDigitChars 10 digits 0
  if !digits.isEmpty && n ≤ 18446744073709551615 then some n else none

/-- A refusal that ends with a position. -/
def positioned? (cs : List Char) : Option Refusal := do
  let (cs, columnDigits) := splitDigits cs
  let cs ← dropEnding? " column ".toList cs
  let (cs, lineDigits) := splitDigits cs
  let reason ← dropEnding? " at line ".toList cs
  let line ← number? lineDigits
  let column ← number? columnDigits
  return ⟨String.ofList reason, if line = 0 then none else some ⟨line, column⟩⟩

/-- A refusal in the words of the data. -/
def ofText (text : String) : Refusal := (positioned? text.toList).getD ⟨text, none⟩

/-- The words of a refusal. -/
def text (r : Refusal) : String :=
  match r.position with
  | none => r.reason
  | some p => r.reason ++ " at line " ++ p.line.repr ++ " column " ++ p.column.repr

/-- Digits are split off behind an ending that is none. -/
theorem splitDigits_append (front : List Char) {ending digits : List Char} {c : Char}
    (last : ending.getLast? = some c) (other : ¬ c.isDigit) (all : ∀ d ∈ digits, d.isDigit) :
    splitDigits (front ++ ending ++ digits) = (front ++ ending, digits) := by
  obtain ⟨others, rfl⟩ := List.getLast?_eq_some_iff.1 last
  have all' : ∀ d ∈ digits.reverse, d.isDigit := fun d h => all d (List.mem_reverse.1 h)
  have backwards : (front ++ (others ++ [c]) ++ digits).reverse =
      digits.reverse ++ c :: (front ++ others).reverse := by
    simp
  rw [splitDigits, backwards, List.dropWhile_append_of_pos all', List.takeWhile_append_of_pos all',
    List.dropWhile_cons_of_neg other, List.takeWhile_cons_of_neg other]
  simp

theorem dropEnding?_append (front ending : List Char) :
    dropEnding? ending (front ++ ending) = some front := by
  rw [dropEnding?, if_pos (List.isSuffixOf_iff_suffix.2 (List.suffix_append front ending)),
    List.length_append, Nat.add_sub_cancel, List.take_left' rfl]

/-- Words that end with a position are a reason and this position, unless its line is line zero. -/
theorem ofText_positioned (reason : String) {line column : List Char} {n m : Nat}
    (lineDigits : ∀ c ∈ line, c.isDigit) (columnDigits : ∀ c ∈ column, c.isDigit)
    (hn : number? line = some n) (hm : number? column = some m) :
    ofText (reason ++ " at line " ++ String.ofList line ++ " column " ++ String.ofList column) =
      ⟨reason, if n = 0 then none else some ⟨n, m⟩⟩ := by
  have splitColumn := splitDigits_append (reason.toList ++ " at line ".toList ++ line)
    (show " column ".toList.getLast? = some ' ' by decide) (by decide) columnDigits
  have splitLine := splitDigits_append reason.toList
    (show " at line ".toList.getLast? = some ' ' by decide) (by decide) lineDigits
  simp only [ofText, positioned?, String.toList_append, String.toList_ofList, splitColumn,
    dropEnding?_append, splitLine, hn, hm, String.ofList_toList, Option.bind_eq_bind,
    Option.bind_some, Option.pure_def, Option.getD_some]

/-- A position in the first line or below is kept, without leading zeros. -/
example : (ofText "no at line 003 column 0007").text = "no at line 3 column 7" := by
  decide +kernel

/-- A position in line zero is dropped, but only the last one is looked at. -/
example : (ofText "no at line 0 column 1 at line 00 column 2").text = "no at line 0 column 1" := by
  decide +kernel

/-- Words that do not end with a digit are kept. -/
theorem ofText_of_not_isDigit {text : String} {front : List Char} {c : Char} (other : ¬ c.isDigit)
    (h : text.toList = front ++ [c]) : ofText text = ⟨text, none⟩ := by
  have split : splitDigits (front ++ [c]) = (front ++ [c], []) := by
    have split := splitDigits_append front (List.getLast?_singleton (a := c)) other
      (List.forall_mem_nil _)
    rwa [List.append_nil] at split
  have unread : positioned? text.toList = none := by
    rw [positioned?, h, split]
    simp [number?]
  rw [ofText, unread]
  rfl

/-- Words that only resemble a position are kept. -/
example : (ofText "no at line 0 column 2.").text = "no at line 0 column 2." := by
  decide +kernel

end Refusal

end BoundSql
