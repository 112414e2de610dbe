import BoundSql.Binary
import BoundSql.Integer

/-!
# Documents

A JSON document as data. Objects are lists of entries in rising order of their keys, without
repetitions, so the order in which an object was written leaves no trace. Integers and floating
point numbers are told apart.

`Json.WellFormed` says which documents exist outside this representation: their objects are sorted,
their integers fit into 64 bits with or without a sign, and their floating point numbers are finite.
-/

namespace BoundSql

/-- A document. -/
inductive Json where
  | null
  | bool (b : Bool)
  | int (n : Int)
  | float (x : Binary64)
  | str (s : String)
  | arr (items : List Json)
  | obj (entries : List (String × Json))

namespace Json

/-- The entries of an object. -/
abbrev Entries := List (String × Json)

namespace Entries

/-- Adds an entry at the place of its key; an entry that has the key already is replaced. -/
def insert (key : String) (value : Json) : Entries → Entries
  | [] => [(key, value)]
  | (k, v) :: rest =>
    if key < k then (key, value) :: (k, v) :: rest
    else if key = k then (key, value) :: rest
    else (k, v) :: insert key value rest

/-- The entries of a list in the order of their keys; of entries with one key the last is kept. -/
def ofList (entries : List (String × Json)) : Entries :=
  entries.foldl (fun sorted entry => sorted.insert entry.1 entry.2) []

/-- The keys rise strictly. -/
def Sorted (entries : Entries) : Prop := (entries.map Prod.fst).Pairwise (· < ·)

end Entries

/-- The object with the given entries, of which the last with a key counts. -/
def ofEntries (entries : List (String × Json)) : Json := obj (Entries.ofList entries)

/-- A floating point number; there is no document for a number that is not finite. -/
def ofFloat (x : Binary64) : Json := if x.isFinite then float x else null

mutual

/-- Documents are equal part by part; numbers of one sort by their value, of two sorts never. -/
def numericEq : Json → Json → Bool
  | null, null => true
  | bool a, bool b => a == b
  | int a, int b => a == b
  | float a, float b => a.numericEq b
  | str a, str b => a == b
  | arr as, arr bs => itemsEq as bs
  | obj as, obj bs => entriesEq as bs
  | _, _ => false

/-- Two lists of documents agree at every place. -/
def itemsEq : List Json → List Json → Bool
  | [], [] => true
  | a :: as, b :: bs => numericEq a b && itemsEq as bs
  | _, _ => false

/-- Two lists of entries have the same keys and equal documents at every place. -/
def entriesEq : List (String × Json) → List (String × Json) → Bool
  | [], [] => true
  | (j, a) :: as, (k, b) :: bs => j == k && numericEq a b && entriesEq as bs
  | _, _ => false

end

instance : BEq Json := ⟨numericEq⟩

mutual

/-- Objects are sorted, integers fit into 64 bits and floating point numbers are finite. -/
def WellFormed : Json → Prop
  | int n => Integer.FitsSigned n ∨ Integer.FitsUnsigned n
  | float x => x.isFinite
  | arr items => ItemsWellFormed items
  | obj entries => Entries.Sorted entries ∧ EntriesWellFormed entries
  | _ => True

/-- All documents of a list are well formed. -/
def ItemsWellFormed : List Json → Prop
  | [] => True
  | item :: rest => WellFormed item ∧ ItemsWellFormed rest

/-- The documents of all entries are well formed. -/
def EntriesWellFormed : List (String × Json) → Prop
  | [] => True
  | (_, value) :: rest => WellFormed value ∧ EntriesWellFormed rest

end

end Json

end BoundSql
