import BoundSql.Proofs.Decoding.Code
import BoundSql.Proofs.Placeholders
import Mathlib.Data.List.SplitLengths

/-!
# INSERT statements are determined by their queries

The rows of an INSERT statement are bound one after the other, and how long each of them is stands
in the text alone: every row has its group in parentheses, with a question mark for each value. So
the values can be cut back into rows. What precedes them, the table and the columns, is read from
left to right; a column ends where the next one follows or where the list is closed.
-/

namespace BoundSql

/-- A name with a closing parenthesis behind it reads like a longer name. -/
lemma WellFormedName.closed {name : String} (h : WellFormedName name) :
    WellFormedName (name ++ ")") := by
  obtain ⟨ne, blank, comma⟩ := h
  refine ⟨?_, ?_, ?_⟩
  · intro e
    exact ne (String.append_eq_empty_iff.1 e).1
  · simp [blank]
  · simp [comma]

namespace Query

variable {n m : String} {r r₀ q : Query}

/-- What follows a column keeps the list of columns open or closes it. -/
lemma Before.open_or_closed (h : Before [",", ") "] r) :
    Before [","] r ∨ ∃ r₀, r = text ")" ++ (text " " ++ r₀) := by
  rcases h with nothing | ⟨opening, mem, more, start⟩
  · exact .inl (.inl nothing)
  · simp only [List.mem_cons, List.not_mem_nil, or_false] at mem
    rcases mem with rfl | rfl
    · exact .inl (.inr ⟨",", List.mem_cons_self, more, start⟩)
    · refine .inr ⟨⟨more, r.params⟩, ?_⟩
      ext1
      · exact start
      · rfl

/-- A column with the end of the list behind it is a longer name in front of a blank. -/
lemma text_closed (n : String) (r : Query) :
    text n ++ (text ")" ++ (text " " ++ r)) = text (n ++ ")") ++ (text " " ++ r) := by
  rw [text_append, append_assoc]

lemma open_ne_closed (hn : WellFormedName n) (hm : WellFormedName m) (h : Before [","] r) :
    text n ++ r ≠ text m ++ (text ")" ++ (text " " ++ r₀)) := by
  intro e
  rw [text_closed] at e
  obtain ⟨-, rfl⟩ := decodable_name hn hm.closed (h.mono (by decide))
    (before_text_append List.mem_cons_self) e
  exact not_before_text_append (by decide) (by decide) h

/-- A column is told from what follows it, even if it holds parentheses itself. -/
lemma decodable_column : Decodable text WellFormedName (Before [",", ") "]) := by
  intro n m r r' hn hm hr hr' e
  rcases hr.open_or_closed with opened | ⟨r₀, rfl⟩
  · rcases hr'.open_or_closed with opened' | ⟨r₀', rfl⟩
    · exact decodable_name hn hm (opened.mono (by decide)) (opened'.mono (by decide)) e
    · exact (open_ne_closed hn hm opened e).elim
  · rcases hr'.open_or_closed with opened' | ⟨r₀', rfl⟩
    · exact (open_ne_closed hm hn opened' e.symm).elim
    · rw [text_closed, text_closed] at e
      obtain ⟨name, rest⟩ := decodable_name hn.closed hm.closed
        (before_text_append List.mem_cons_self) (before_text_append List.mem_cons_self) e
      exact ⟨(String.append_left_inj ")").1 name, by rw [text_append_cancel rest]⟩

/-- The end of the list of columns is not taken for a first column. -/
lemma not_closed_column (hn : WellFormedName n) (h : Before [",", ") "] r) :
    ¬ Before [") "] (text n ++ r) := by
  intro closed
  have name : WellFormedName ")" := by decide
  rcases closed with nothing | ⟨opening, mem, more, start⟩
  · exact hn.1 (String.append_eq_empty_iff.1 nothing).1
  · cases List.mem_singleton.1 mem
    obtain ⟨rest, e⟩ : ∃ rest, text n ++ r = text ")" ++ (text " " ++ rest) :=
      ⟨⟨more, (text n ++ r).params⟩, ext start rfl⟩
    rcases h.open_or_closed with opened | ⟨r₀, rfl⟩
    · obtain ⟨-, rfl⟩ := decodable_name hn name (opened.mono (by decide))
        (before_text_append List.mem_cons_self) e
      exact not_before_text_append (by decide) (by decide) opened
    · rw [text_closed] at e
      obtain ⟨column, -⟩ := decodable_name hn.closed name (before_text_append List.mem_cons_self)
        (before_text_append List.mem_cons_self) e
      exact hn.1 ((String.append_left_inj ")").1 (column.trans String.empty_append.symm))

/-- The columns of an INSERT statement end where their list is closed; there may be none. -/
lemma decodable_closedColumns :
    Decodable (fun names : List String => join ", " (names.map text))
      (fun names => ∀ name ∈ names, WellFormedName name) (Before [") "]) := by
  apply decodable_column.join
  · exact fun r => .mono (by decide) (before_text_append (List.mem_singleton_self ", "))
  · exact fun r hr => hr.mono (by decide)
  · exact fun r => not_before_text_append (by decide) (by decide)
  · exact fun name r h before => not_closed_column h before

end Query

namespace Insert

/-- The numbers of question marks in the groups of a text that are in parentheses. -/
def rowLengths : List Char → List Nat
  | [] => []
  | c :: cs =>
    if c = '(' then (cs.takeWhile (· ≠ ')')).count '?' :: rowLengths cs else rowLengths cs

/-- Cuts values into rows as the groups of a text tell. -/
def cutRows (text : String) (vs : List Value) : List (List Value) :=
  (rowLengths text.toList).splitLengths vs

lemma rowLengths_append {cs : List Char} (h : '(' ∉ cs) (rest : List Char) :
    rowLengths (cs ++ rest) = rowLengths rest := by
  induction cs with
  | nil => rfl
  | cons c cs ih =>
    rw [List.mem_cons, not_or] at h
    rw [List.cons_append, rowLengths, if_neg (Ne.symm h.1), ih h.2]

/-- A row is read off its group, whatever follows it. -/
lemma rowLengths_rowQuery (row : List Value) (rest : List Char) :
    rowLengths ((rowQuery row).sql.toList ++ rest) = row.length :: rowLengths rest := by
  let marks := (Query.join ", " (row.map .placeholder)).sql.toList
  have free {c : Char} (separator : c ∉ ", ".toList) (mark : c ∉ "?".toList) : c ∉ marks := by
    show c ∉ (Query.join ", " (row.map .placeholder)).sql.toList
    rw [Query.sql_join_placeholder]
    apply notMem_intercalate separator
    intro s mem
    obtain ⟨v, -, rfl⟩ := List.mem_map.1 mem
    exact mark
  have count : marks.count '?' = row.length := Query.marks_join_placeholder (by decide) row
  have group : (marks ++ ')' :: rest).takeWhile (· ≠ ')') = marks := by
    rw [List.takeWhile_append_of_pos]
    · simp
    · intro c mem
      have other : c ≠ ')' := fun e => free (by decide) (by decide) (e ▸ mem)
      simp [other]
  have text : (rowQuery row).sql.toList ++ rest = '(' :: (marks ++ ')' :: rest) := by
    simp [rowQuery, marks]
  have tail : rowLengths (marks ++ ')' :: rest) = rowLengths rest := by
    rw [rowLengths_append (free (by decide) (by decide))]
    have paren : '(' ∉ [')'] := by decide
    exact rowLengths_append paren rest
  rw [text, rowLengths, if_pos rfl, group, count, tail]

lemma rowLengths_joinRest (rows : List (List Value)) :
    rowLengths (Query.joinRest ", " (rows.map rowQuery)).sql.toList = rows.map List.length := by
  induction rows with
  | nil => rfl
  | cons row rows ih =>
    simp only [List.map_cons, Query.joinRest, Query.sql_append, String.toList_append, Query.sql_text]
    rw [rowLengths_append (by decide), rowLengths_rowQuery, ih]

/-- The lengths of all rows stand in their text. -/
lemma rowLengths_join (rows : List (List Value)) :
    rowLengths (Query.join ", " (rows.map rowQuery)).sql.toList = rows.map List.length := by
  cases rows with
  | nil => rfl
  | cons row rows =>
    rw [List.map_cons, Query.join_cons, Query.sql_append, String.toList_append,
      rowLengths_rowQuery, rowLengths_joinRest]
    rfl

lemma params_join_rowQuery (rows : List (List Value)) :
    (Query.join ", " (rows.map rowQuery)).params = rows.flatten := by
  have row : Query.params ∘ rowQuery = id := by
    funext row
    simp [rowQuery, Query.params_join_placeholder]
  show (rows.map rowQuery).flatMap Query.params = rows.flatten
  rw [List.flatMap_def, List.map_map, row, List.map_id]

lemma splitLengths_flatten (rows : List (List Value)) :
    (rows.map List.length).splitLengths rows.flatten = rows := by
  induction rows with
  | nil => rfl
  | cons row rows ih => simp [List.splitLengths_cons, ih]

/-- The values of all rows are cut back into the rows by the text of the rows. -/
lemma cutRows_join (rows : List (List Value)) :
    cutRows (Query.join ", " (rows.map rowQuery)).sql rows.flatten = rows := by
  rw [cutRows, rowLengths_join, splitLengths_flatten]

/-- An INSERT statement is determined by what it is rendered to. -/
lemma render_injective {s t : Insert} {table table' : String}
    (hs : ∀ name ∈ s.names, WellFormedName name) (ht : ∀ name ∈ t.names, WellFormedName name)
    (named : s.table = some table) (named' : t.table = some table')
    (e : s.render table = t.render table') : s = t := by
  have opening {a : Query} : Query.Before [" ", ","] (.text " (" ++ a) :=
    .mono (by decide) (Query.before_text_append (List.mem_singleton_self " ("))
  have closing {a : Query} : Query.Before [") "] (.text ") VALUES " ++ a) :=
    .mono (by decide) (Query.before_text_append (List.mem_singleton_self ") VALUES "))
  rw [render_eq, render_eq] at e
  obtain ⟨sameTable, e₁⟩ := Query.decodable_name (hs table (table_mem_names named))
    (ht table' (table_mem_names named')) opening opening (Query.text_append_cancel e)
  obtain ⟨sameColumns, e₂⟩ := Query.decodable_closedColumns
    (fun name mem => hs name (column_mem_names mem))
    (fun name mem => ht name (column_mem_names mem)) closing closing (Query.text_append_cancel e₁)
  have rows : Query.join ", " (s.rows.map rowQuery) = .join ", " (t.rows.map rowQuery) :=
    Query.text_append_cancel e₂
  have flat : s.rows.flatten = t.rows.flatten := by
    rw [← params_join_rowQuery, rows, params_join_rowQuery]
  have sameRows : s.rows = t.rows := by
    rw [← cutRows_join s.rows, rows, flat, cutRows_join]
  cases s
  cases t
  cases named
  cases named'
  cases sameTable
  cases sameColumns
  cases sameRows
  rfl

/-- An INSERT statement is determined by the text and the values it is built to, and its rows are
cut out of these values by the text behind `VALUES` alone. -/
theorem eq_of_toQuery_eq {s t : Insert} {q r : Query}
    (names : ∀ name ∈ s.names, WellFormedName name)
    (names' : ∀ name ∈ t.names, WellFormedName name)
    (built : (Statement.insert s).toQuery = .ok q) (built' : (Statement.insert t).toQuery = .ok r)
    (sql : q.sql = r.sql) (params : q.params = r.params) :
    (s.table = t.table ∧ s.columns = t.columns ∧ s.rows = t.rows) ∧
      ∃ table text, s.table = some table ∧
        q.sql = "INSERT INTO " ++ table ++ " (" ++ ", ".intercalate s.columns ++ ") VALUES " ++ text ∧
        cutRows text q.params = s.rows := by
  obtain ⟨table, named, -, -, rfl⟩ := Statement.toQuery_eq_ok_iff.1 built
  obtain ⟨table', named', -, -, rfl⟩ := Statement.toQuery_eq_ok_iff.1 built'
  have e : s.render table = t.render table' := Query.ext sql params
  have same := render_injective names names' named named' e
  refine ⟨⟨by rw [same], by rw [same], by rw [same]⟩, table, _, named, rfl, ?_⟩
  have values : ((Statement.insert s).render table).params = s.rows.flatten :=
    params_join_rowQuery s.rows
  rw [values, cutRows_join]

/-- Rows of no, two and one values, and a last column that ends like its list. -/
theorem eq_of_toQuery_eq_ragged :
    let s : Insert := ⟨some "VALUES", ["(", "b)"], [[], [.null, .int 1], [.text "?"], []]⟩
    ∃ q text, (Statement.insert s).toQuery = .ok q ∧
      q.sql = "INSERT INTO VALUES ((, b)) VALUES " ++ text ∧ text = "(), (?, ?), (?), ()" ∧
      q.params = [.null, .int 1, .text "?"] ∧ cutRows text q.params = s.rows := by
  intro s
  have names : ∀ name ∈ s.names, WellFormedName name := by decide
  have built : (Statement.insert s).toQuery = .ok _ := rfl
  obtain ⟨-, table, text, named, sql, rows⟩ := eq_of_toQuery_eq names names built built rfl rfl
  cases named
  have front : "INSERT INTO " ++ "VALUES" ++ " (" ++ ", ".intercalate s.columns ++ ") VALUES " =
      "INSERT INTO VALUES ((, b)) VALUES " := by decide
  rw [front] at sql
  refine ⟨_, text, built, sql, ?_, rfl, rows⟩
  exact ((String.append_right_inj _).1 (sql.symm.trans (by decide)))

end Insert

end BoundSql
