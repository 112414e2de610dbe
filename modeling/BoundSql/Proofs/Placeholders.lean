import BoundSql.Proofs.Binding.Inline
import Mathlib.Algebra.BigOperators.Group.List.Basic
import Mathlib.Algebra.GroupWithZero.Nat
import Mathlib.Algebra.Ring.Int.Defs
import Mathlib.Tactic.Lemma

/-!
# Counting placeholders

Each value of a query has its question mark in the text, but names and clauses may hold question
marks of their own. How many more of them there are than values is added up along the pieces of a
query: texts bring their question marks with them, and placeholders change nothing. So the excess of
a statement is that of its names and of its predicates.
-/

namespace BoundSql

/-- The number of question marks in a text. -/
def marks (s : String) : Nat := s.toList.count '?'

lemma Unmarked.marks_eq {s : String} (h : Unmarked s) : marks s = 0 := List.count_eq_zero.2 h

lemma marks_append (s t : String) : marks (s ++ t) = marks s + marks t := by
  simp [marks]

namespace Query

/-- By how many the question marks of a query exceed its values. -/
def excess (q : Query) : Int := q.placeholderCount - q.params.length

lemma excess_text (s : String) : (text s).excess = marks s := by
  simp [excess, placeholderCount, marks]

lemma excess_text_of_unmarked {s : String} (h : Unmarked s) : (text s).excess = 0 := by
  rw [excess_text, h.marks_eq]
  rfl

lemma excess_placeholder (v : Value) : (placeholder v).excess = 0 := by
  simp [excess, placeholderCount]

/-- Putting queries one behind the other adds up what they have too many. -/
lemma excess_append (a b : Query) : (a ++ b).excess = a.excess + b.excess := by
  simp only [excess, placeholderCount_append, params_append, List.length_append]
  omega

variable {separator keyword : String}

lemma excess_joinRest (h : Unmarked separator) (qs : List Query) :
    (joinRest separator qs).excess = (qs.map excess).sum := by
  induction qs with
  | nil => rfl
  | cons q qs ih =>
    rw [joinRest, excess_append, excess_append, excess_text_of_unmarked h, ih, List.map_cons,
      List.sum_cons, Int.zero_add]

lemma excess_listed (hk : Unmarked keyword) (hs : Unmarked separator) (qs : List Query) :
    (listed keyword separator qs).excess = (qs.map excess).sum := by
  cases qs with
  | nil => rfl
  | cons q qs =>
    rw [listed, excess_append, excess_append, excess_text_of_unmarked hk, excess_joinRest hs,
      List.map_cons, List.sum_cons, Int.zero_add]

lemma excess_join (h : Unmarked separator) (qs : List Query) :
    (join separator qs).excess = (qs.map excess).sum := by
  rw [join_eq_listed, excess_listed (by decide) h]

lemma excess_optional {α : Type} (h : Unmarked keyword) (render : α → Query) (o : Option α) :
    (optional keyword render o).excess = (o.toList.map fun a => (render a).excess).sum := by
  cases o with
  | none => rfl
  | some a => simp [optional, excess_append, excess_text_of_unmarked h]

/-- A list of placeholders has as many question marks as values, however long it is. -/
lemma excess_join_placeholder (h : Unmarked separator) (vs : List Value) :
    (join separator (vs.map placeholder)).excess = 0 := by
  rw [excess_join h, List.map_map]
  apply List.sum_eq_zero
  intro n mem
  obtain ⟨v, -, rfl⟩ := List.mem_map.1 mem
  exact excess_placeholder v

lemma marks_join_placeholder (h : Unmarked separator) (vs : List Value) :
    marks (join separator (vs.map placeholder)).sql = vs.length := by
  have even := excess_join_placeholder h vs
  rw [excess, params_join_placeholder] at even
  show (join separator (vs.map placeholder)).placeholderCount = vs.length
  omega

end Query

/-- By how many the question marks in a clause exceed the values that are bound to it. -/
def Predicate.excess (p : Predicate) : Int := marks p.clause - p.values.length

lemma Predicate.excess_toQuery (p : Predicate) : p.toQuery.excess = p.excess := rfl

/-- Names bring their question marks with them. -/
lemma Query.excess_join_text {separator : String} (h : Unmarked separator) (names : List String) :
    (join separator (names.map text)).excess = (names.map marks).sum := by
  rw [excess_join h]
  induction names with
  | nil => rfl
  | cons name names ih =>
    simp only [List.map_cons, List.sum_cons, excess_text, ih]
    omega

lemma Comparison.unmarked_operator (comparison : Comparison) : Unmarked comparison.operator := by
  cases comparison <;> decide

namespace Condition

lemma unmarked_keyword (c : Condition) : Unmarked c.keyword := by
  cases c with
  | compare field comparison v => exact comparison.unmarked_operator
  | isNull field => exact (by decide : Unmarked "IS")
  | isNotNull field => exact (by decide : Unmarked "IS")
  | isIn field vs => exact (by decide : Unmarked "IN")

lemma excess_operand (c : Condition) : c.operand.excess = 0 := by
  cases c with
  | compare field comparison v => exact Query.excess_placeholder v
  | isNull field => exact Query.excess_text_of_unmarked (by decide)
  | isNotNull field => exact Query.excess_text_of_unmarked (by decide)
  | isIn field vs =>
    rw [operand, Query.excess_append, Query.excess_append, Query.excess_join_placeholder (by decide),
      Query.excess_text_of_unmarked (by decide), Query.excess_text_of_unmarked (by decide)]
    rfl

/-- A condition has the question marks of its field too many, and no others. -/
lemma excess_toPredicate (c : Condition) : c.toPredicate.excess = marks c.field := by
  have blank : Unmarked " " := by decide
  rw [← Predicate.excess_toQuery, toQuery_eq]
  simp only [Query.excess_append, excess_operand, Query.excess_text,
    c.unmarked_keyword.marks_eq, blank.marks_eq]
  omega

end Condition

lemma Predicates.excess_whereClause (ps : Predicates) :
    ps.whereClause.excess = (ps.items.map Predicate.excess).sum := by
  rw [whereClause_eq, Query.excess_listed (by decide) (by decide), List.map_map]
  rfl

namespace Select

lemma excess_orderClause (s : Select) :
    s.orderClause.excess = ((s.order.toList.map OrderBy.column).map marks).sum := by
  have column (o : OrderBy) : o.toQuery.excess = marks o.column := by
    have direction : Unmarked (if o.descending then " DESC" else " ASC") := by
      split <;> decide
    rw [OrderBy.toQuery, Query.excess_append, Query.excess_text,
      Query.excess_text_of_unmarked direction, Int.add_zero]
  rw [orderClause_eq, Query.excess_optional (by decide)]
  cases s.order with
  | none => rfl
  | some o => simp [column]

lemma excess_countClause {keyword : String} (h : Unmarked keyword) (n : Option Nat) :
    (countClause keyword n).excess = 0 := by
  have blank : Unmarked " " := by decide
  rw [countClause_eq, Query.excess_optional ((blank.append h).append blank)]
  cases n.filter (· ≠ 0) with
  | none => rfl
  | some k => simp [Query.excess_text_of_unmarked (unmarked_repr k)]

lemma excess_render {s : Select} {table : String} (named : s.table = some table) :
    (s.render table).excess =
      (s.names.map marks).sum + (s.predicates.items.map Predicate.excess).sum := by
  rw [render_eq]
  simp only [Query.excess_append, Query.excess_join_text (by decide : Unmarked ", "),
    Query.excess_text, Predicates.excess_whereClause, excess_orderClause,
    excess_countClause (by decide : Unmarked "LIMIT"),
    excess_countClause (by decide : Unmarked "OFFSET")]
  have select : marks "SELECT " = 0 := by decide
  have fromTable : marks " FROM " = 0 := by decide
  simp only [names, named, Option.toList_some, List.map_append, List.map_cons, List.map_nil,
    List.sum_append, List.sum_cons, List.sum_nil]
  omega

end Select

namespace Insert

lemma excess_rowQuery (row : List Value) : (rowQuery row).excess = 0 := by
  rw [rowQuery, Query.excess_append, Query.excess_append, Query.excess_join_placeholder (by decide),
    Query.excess_text_of_unmarked (by decide), Query.excess_text_of_unmarked (by decide)]
  rfl

lemma excess_render {s : Insert} {table : String} (named : s.table = some table) :
    (s.render table).excess = (s.names.map marks).sum := by
  have rows : (Query.join ", " (s.rows.map rowQuery)).excess = 0 := by
    rw [Query.excess_join (by decide), List.map_map]
    apply List.sum_eq_zero
    intro n mem
    obtain ⟨row, -, rfl⟩ := List.mem_map.1 mem
    exact excess_rowQuery row
  rw [render_eq]
  simp only [Query.excess_append, Query.excess_join_text (by decide : Unmarked ", "),
    Query.excess_text, rows]
  have insert : marks "INSERT INTO " = 0 := by decide
  have columns : marks " (" = 0 := by decide
  have values : marks ") VALUES " = 0 := by decide
  simp only [names, named, Option.toList_some, List.map_append, List.map_cons, List.map_nil,
    List.sum_append, List.sum_cons, List.sum_nil]
  omega

end Insert

namespace Update

lemma excess_setClause (s : Update) :
    s.setClause.excess = ((s.assignments.map Assignment.field).map marks).sum := by
  have assignment (a : Assignment) : a.toQuery.excess = marks a.field := by
    have equals : Unmarked " = " := by decide
    rw [Assignment.toQuery, Query.excess_append, Query.excess_placeholder, Query.excess_text,
      marks_append, equals.marks_eq]
    rfl
  rw [setClause_eq, Query.excess_listed (by decide) (by decide)]
  induction s.assignments with
  | nil => rfl
  | cons a others ih =>
    simp only [List.map_cons, List.sum_cons, assignment, ih]
    omega

lemma excess_render {s : Update} {table : String} (named : s.table = some table) :
    (s.render table).excess =
      (s.names.map marks).sum + (s.predicates.items.map Predicate.excess).sum := by
  rw [render_eq]
  simp only [Query.excess_append, Query.excess_text, excess_setClause,
    Predicates.excess_whereClause]
  have update : marks "UPDATE " = 0 := by decide
  simp only [names, named, Option.toList_some, List.map_append, List.map_cons, List.map_nil,
    List.sum_append, List.sum_cons, List.sum_nil]
  omega

end Update

namespace Statement

lemma excess_render {s : Statement} {table : String} (named : s.table? = some table) :
    (s.render table).excess =
      (s.names.map marks).sum + (s.predicates.items.map Predicate.excess).sum := by
  cases s with
  | select s => exact Select.excess_render named
  | insert s => exact (Insert.excess_render named).trans (Int.add_zero _).symm
  | update s => exact Update.excess_render named

/-- A built query has a question mark for each value, and beyond these the ones of its names and
those that the clauses of its predicates have too many. -/
theorem placeholderCount_eq {s : Statement} {q : Query} (built : s.toQuery = .ok q) :
    (q.placeholderCount : Int) =
        q.params.length + (s.names.map marks).sum + (s.predicates.items.map Predicate.excess).sum ∧
      (q.placeholderCount = q.params.length ↔
        (s.names.map marks).sum + (s.predicates.items.map Predicate.excess).sum = 0) ∧
      ∀ c : Condition, c.toPredicate.excess = marks c.field := by
  obtain ⟨table, named, -, -, rfl⟩ := toQuery_eq_ok_iff.1 built
  have total := excess_render named
  unfold Query.excess at total
  refine ⟨by omega, ?_, Condition.excess_toPredicate⟩
  constructor
  · intro even
    omega
  · intro none
    omega

/-- Question marks in every name, a clause with too few, and a list without values. -/
theorem placeholderCount_eq_marked :
    let s : Select :=
      { table := some "t?", columns := ["?", "b"], order := some ⟨"c??", true⟩, limit := some 0
        predicates := ⟨[(Condition.isIn "d?" []).toPredicate, ⟨"e", some (.list [.null, .int 1])⟩]⟩ }
    ∃ q, (select s).toQuery = .ok q ∧
      q.sql = "SELECT ?, b FROM t? WHERE d? IN () AND e ORDER BY c?? DESC" ∧
      q.placeholderCount = 5 ∧ q.params.length = 2 ∧ ((select s).names.map marks).sum = 4 ∧
      ((select s).predicates.items.map Predicate.excess).sum = -1 ∧
      (q.placeholderCount : Int) = q.params.length + ((select s).names.map marks).sum +
        ((select s).predicates.items.map Predicate.excess).sum := by
  intro s
  have built : (select s).toQuery = .ok _ := rfl
  refine ⟨_, built, by decide, by decide, rfl, by decide, by decide, ?_⟩
  exact (placeholderCount_eq built).1

end Statement

end BoundSql
