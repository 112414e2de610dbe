import BoundSql.Statement.Build
import Mathlib.Tactic.Lemma

/-!
# The clauses of statements

Each clause of a statement as a query that is put together from texts and placeholders. Later proofs
about rendered statements take clauses apart by these equations alone.
-/

namespace BoundSql

namespace Query

@[ext] lemma ext {a b : Query} (sql : a.sql = b.sql) (params : a.params = b.params) : a = b := by
  cases a
  cases b
  cases sql
  cases params
  rfl

lemma append_assoc (a b c : Query) : a ++ b ++ c = a ++ (b ++ c) := by
  ext1
  · exact String.append_assoc
  · exact List.append_assoc ..

@[simp] lemma append_empty (a : Query) : a ++ empty = a := by
  ext1
  · exact String.append_empty
  · exact List.append_nil _

@[simp] lemma empty_append (a : Query) : empty ++ a = a := by
  ext1
  · exact String.empty_append
  · exact List.nil_append _

lemma text_nil : text "" = empty := rfl

lemma text_append (s t : String) : text (s ++ t) = text s ++ text t := rfl

@[simp] lemma sql_text (s : String) : (text s).sql = s := rfl

@[simp] lemma params_text (s : String) : (text s).params = [] := rfl

@[simp] lemma sql_placeholder (v : Value) : (placeholder v).sql = "?" := rfl

@[simp] lemma params_placeholder (v : Value) : (placeholder v).params = [v] := rfl

@[simp] lemma sql_empty : empty.sql = "" := rfl

@[simp] lemma params_empty : empty.params = [] := rfl

/-- What follows the first of some joined queries. -/
def joinRest (separator : String) : List Query → Query
  | [] => empty
  | q :: rest => text separator ++ (q ++ joinRest separator rest)

/-- A clause that lists things behind a keyword; nothing if there is nothing to list. -/
def listed (keyword separator : String) : List Query → Query
  | [] => empty
  | q :: rest => text keyword ++ (q ++ joinRest separator rest)

/-- A clause of one thing behind a keyword; nothing if there is no such thing. -/
def optional {α : Type} (keyword : String) (render : α → Query) : Option α → Query
  | none => empty
  | some a => text keyword ++ render a

lemma joinRest_append (separator : String) (qs rs : List Query) :
    joinRest separator (qs ++ rs) = joinRest separator qs ++ joinRest separator rs := by
  induction qs with
  | nil => rw [joinRest, empty_append, List.nil_append]
  | cons q qs ih => simp only [List.cons_append, joinRest, ih, append_assoc]

lemma join_cons (separator : String) (q : Query) (rest : List Query) :
    join separator (q :: rest) = q ++ joinRest separator rest := by
  induction rest generalizing q with
  | nil => ext1 <;> simp [join, joinRest]
  | cons next rest ih => rw [join_cons_cons, ih, append_assoc, joinRest]

lemma join_eq_listed (separator : String) (qs : List Query) :
    join separator qs = listed "" separator qs := by
  cases qs with
  | nil => rfl
  | cons q rest => rw [join_cons, listed, text_nil, empty_append]

lemma join_text (separator : String) (names : List String) :
    join separator (names.map text) = text (separator.intercalate names) := by
  have sql : sql ∘ text = id := rfl
  ext1
  · rw [join, List.map_map, sql, List.map_id, sql_text]
  · simp [join]

lemma params_join_placeholder (separator : String) (vs : List Value) :
    (join separator (vs.map placeholder)).params = vs := by
  induction vs with
  | nil => rfl
  | cons v vs ih =>
    simp only [join, List.map_cons, List.flatMap_cons] at ih ⊢
    rw [ih]
    rfl

lemma sql_join_placeholder (separator : String) (vs : List Value) :
    (join separator (vs.map placeholder)).sql = separator.intercalate (vs.map fun _ => "?") := by
  rw [join, List.map_map]
  rfl

end Query

namespace Condition

/-- The field of a condition. -/
def field : Condition → String
  | compare field _ _ => field
  | isNull field => field
  | isNotNull field => field
  | isIn field _ => field

/-- The word behind the field of a condition. -/
def keyword : Condition → String
  | compare _ comparison _ => comparison.operator
  | isNull _ => "IS"
  | isNotNull _ => "IS"
  | isIn _ _ => "IN"

/-- What stands behind the field and the keyword of a condition. -/
def operand : Condition → Query
  | compare _ _ v => .placeholder v
  | isNull _ => .text "NULL"
  | isNotNull _ => .text "NOT NULL"
  | isIn _ vs => .text "(" ++ (.join "," (vs.map .placeholder) ++ .text ")")

lemma toQuery_compare (field : String) (comparison : Comparison) (v : Value) :
    (compare field comparison v).toPredicate.toQuery =
      .text (field ++ " " ++ comparison.operator ++ " ") ++ .placeholder v := by
  ext1
  · show field ++ " " ++ comparison.operator ++ (" " ++ "?") = _
    exact String.append_assoc.symm
  · rfl

lemma toQuery_isIn (field : String) (vs : List Value) :
    (isIn field vs).toPredicate.toQuery =
      .text (field ++ " IN (") ++ .join "," (vs.map .placeholder) ++ .text ")" := by
  ext1
  · simp only [toPredicate, Predicate.toQuery, Query.sql_append, Query.sql_text,
      Query.sql_join_placeholder]
  · simp [toPredicate, Predicate.toQuery, Predicate.values, Binding.values,
      Query.params_join_placeholder]

/-- A condition is rendered as its field, its keyword and its operand. -/
lemma toQuery_eq (c : Condition) :
    c.toPredicate.toQuery =
      .text c.field ++ (.text " " ++ (.text c.keyword ++ (.text " " ++ c.operand))) := by
  cases c with
  | compare field comparison v =>
    rw [toQuery_compare]
    simp only [Query.text_append, Query.append_assoc]
    rfl
  | isNull field => rfl
  | isNotNull field => rfl
  | isIn field vs =>
    rw [toQuery_isIn]
    simp only [Query.text_append, Query.append_assoc]
    rfl

end Condition

/-- The values of predicates, in the order of their placeholders. -/
def Predicates.values (ps : Predicates) : List Value := ps.items.flatMap Predicate.values

lemma Predicates.params_toQuery (ps : Predicates) : ps.toQuery.params = ps.values :=
  List.flatMap_map ..

lemma Predicates.whereClause_eq (ps : Predicates) :
    ps.whereClause = .listed " WHERE " " AND " (ps.items.map Predicate.toQuery) := by
  unfold whereClause isEmpty toQuery
  cases ps.items with
  | nil => rfl
  | cons p others => rw [List.map_cons, Query.join_cons]; rfl

lemma Predicates.whereClause_cons {ps : Predicates} {p : Predicate} {others : List Predicate}
    (h : ps.items = p :: others) :
    ps.whereClause =
      .text " WHERE " ++ (p.toQuery ++ .joinRest " AND " (others.map Predicate.toQuery)) := by
  rw [whereClause_eq, h]
  rfl

namespace Assignment

lemma sql_join_toQuery (assignments : List Assignment) :
    (Query.join ", " (assignments.map toQuery)).sql =
      ", ".intercalate (assignments.map fun a => a.field ++ " = ?") := by
  have sql : Query.sql ∘ toQuery = fun a => a.field ++ " = ?" := by
    funext a
    exact String.append_assoc
  rw [Query.join, List.map_map, sql]

lemma params_join_toQuery (assignments : List Assignment) :
    (Query.join ", " (assignments.map toQuery)).params = assignments.map value := by
  induction assignments with
  | nil => rfl
  | cons a assignments ih =>
    simp only [Query.join, List.map_cons, List.flatMap_cons] at ih ⊢
    rw [ih]
    rfl

end Assignment

namespace Update

lemma setClause_eq (s : Update) :
    s.setClause = .listed " SET " ", " (s.assignments.map Assignment.toQuery) := by
  unfold setClause
  cases s.assignments with
  | nil => rfl
  | cons a others => rw [List.map_cons, Query.join_cons]; rfl

lemma setClause_of_ne_nil {s : Update} (h : s.assignments ≠ []) :
    s.setClause = .text " SET " ++ .join ", " (s.assignments.map Assignment.toQuery) := by
  simp [setClause, h]

lemma render_eq (s : Update) (table : String) :
    s.render table =
      .text "UPDATE " ++ (.text table ++ (s.setClause ++ s.predicates.whereClause)) := by
  rw [render, Query.text_append]
  simp only [Query.append_assoc]

end Update

lemma Insert.render_eq (s : Insert) (table : String) :
    s.render table =
      .text "INSERT INTO " ++ (.text table ++ (.text " (" ++ (.join ", " (s.columns.map .text) ++
        (.text ") VALUES " ++ .join ", " (s.rows.map rowQuery))))) := by
  rw [render, Query.join_text]
  simp only [Query.text_append, Query.append_assoc]

/-- A column and the direction in which rows are sorted by it. -/
def OrderBy.toQuery (o : OrderBy) : Query :=
  .text o.column ++ .text (if o.descending then " DESC" else " ASC")

namespace Select

lemma orderClause_eq (s : Select) :
    s.orderClause = .optional " ORDER BY " OrderBy.toQuery s.order := by
  unfold orderClause
  cases s.order with
  | none => rfl
  | some o => simp only [Query.optional, OrderBy.toQuery, Query.text_append, Query.append_assoc]

/-- A number of rows that is zero is rendered like one that is not set. -/
lemma countClause_eq (keyword : String) (n : Option Nat) :
    countClause keyword n =
      .optional (" " ++ keyword ++ " ") (fun k => .text k.repr) (n.filter (· ≠ 0)) := by
  cases n with
  | none => rfl
  | some k =>
    by_cases zero : k = 0
    · have dropped : (some k).filter (· ≠ 0) = none := by simp [zero]
      rw [countClause, if_pos zero, dropped]
      rfl
    · have kept : (some k).filter (· ≠ 0) = some k := by simp [zero]
      rw [countClause, if_neg zero, kept]
      rfl

lemma render_eq (s : Select) (table : String) :
    s.render table =
      .text "SELECT " ++ (.join ", " (s.columns.map .text) ++ (.text " FROM " ++ (.text table ++
        (s.predicates.whereClause ++ (s.orderClause ++
          (countClause "LIMIT" s.limit ++ countClause "OFFSET" s.offset)))))) := by
  rw [render, Query.join_text]
  simp only [Query.text_append, Query.append_assoc]

end Select

end BoundSql
