import BoundSql.Text.Quoted

/-!
# Inspection

The debug text of data on one line. `Inspection` is the shape of such a text: names with parts in
parentheses, named fields in braces, lists in brackets.
-/

namespace BoundSql

/-- The shape of a debug text. -/
inductive Inspection where
  /-- Text as it is. -/
  | atom (text : String)
  /-- A name, which may be empty, and parts in parentheses. -/
  | tuple (name : String) (parts : List Inspection)
  /-- A name and fields in braces. -/
  | record (name : String) (fields : List (String × Inspection))
  /-- Items in brackets. -/
  | list (items : List Inspection)
  /-- Quoted keys and their contents in braces. -/
  | map (entries : List (String × Inspection))
  /-- A name in front of something else. -/
  | labelled (name : String) (x : Inspection)

namespace Inspection

/-- Text in quotes. -/
def quoted (text : String) : Inspection := atom (Quoted.quote text)

/-- A truth value. -/
def ofBool (b : Bool) : Inspection := atom (if b then "true" else "false")

/-- Something that may be missing. -/
def ofOption : Option Inspection → Inspection
  | none => atom "None"
  | some x => tuple "Some" [x]

/-- Two things side by side. -/
def pair (a b : Inspection) : Inspection := tuple "" [a, b]

mutual

/-- The text of a shape. -/
def render : Inspection → String
  | atom text => text
  | tuple name parts => name ++ "(" ++ ", ".intercalate (renderAll parts) ++ ")"
  | record name fields => name ++ " \x7b " ++ ", ".intercalate (renderFields fields) ++ " \x7d"
  | list items => "[" ++ ", ".intercalate (renderAll items) ++ "]"
  | map entries => "\x7b" ++ ", ".intercalate (renderEntries entries) ++ "\x7d"
  | labelled name x => name ++ " " ++ render x

/-- The texts of several shapes. -/
def renderAll : List Inspection → List String
  | [] => []
  | x :: rest => render x :: renderAll rest

/-- The texts of fields behind their names. -/
def renderFields : List (String × Inspection) → List String
  | [] => []
  | (name, x) :: rest => (name ++ ": " ++ render x) :: renderFields rest

/-- The texts of entries behind their quoted keys. -/
def renderEntries : List (String × Inspection) → List String
  | [] => []
  | (key, x) :: rest => (Quoted.quote key ++ ": " ++ render x) :: renderEntries rest

end

end Inspection

end BoundSql
