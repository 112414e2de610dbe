import BoundSql.Proofs.Clauses
import BoundSql.Proofs.Filter
import BoundSql.Proofs.Script.History

/-!
# Rendering in pieces

What is rendered as a list can be rendered piece by piece. Predicates can be built group by group on
one list of values, and the texts of the groups that are not empty are joined like clauses; an empty
group leaves no text, an empty clause does. The rows of an INSERT statement and the assignments of an
UPDATE statement can be divided between two statements, of which the second is appended without its
beginning.
-/

namespace BoundSql

namespace Query

lemma join_append (separator : String) {qs rs : List Query} (hq : qs ≠ []) (hr : rs ≠ []) :
    join separator (qs ++ rs) = join separator qs ++ (text separator ++ join separator rs) := by
  ext1
  · have texts : qs.map sql ≠ [] := by simpa using hq
    have texts' : rs.map sql ≠ [] := by simpa using hr
    simp only [join, List.map_append, String.intercalate_append_of_ne_nil texts texts', sql_append,
      sql_text, String.append_assoc]
  · simp [join]

lemma join_singleton (separator : String) (q : Query) : join separator [q] = q := by
  rw [join_cons, joinRest, append_empty]

lemma join_flatten_of_nonempty (separator : String) {pieces : List (List Query)} (h : [] ∉ pieces) :
    join separator pieces.flatten = join separator (pieces.map (join separator)) := by
  -- Without empty pieces something is left to join exactly when a piece is left.
  induction pieces with
  | nil => rfl
  | cons piece pieces ih =>
    obtain ⟨nonempty, others⟩ := List.ne_and_not_mem_of_not_mem_cons h
    cases pieces with
    | nil => rw [List.map_singleton, join_singleton, List.flatten_singleton]
    | cons next pieces =>
      have rest : (next :: pieces).flatten ≠ [] := by
        intro none
        exact others (List.mem_cons.2 (.inl (List.append_eq_nil_iff.1 none).1.symm))
      rw [List.flatten_cons, join_append separator nonempty.symm rest, ih others]
      simp only [List.map_cons, join_cons_cons, append_assoc]

/-- Joining joined pieces is joining everything, if the pieces without anything are left out. -/
lemma join_flatten (separator : String) (pieces : List (List Query)) :
    join separator pieces.flatten =
      join separator ((pieces.filter (!·.isEmpty)).map (join separator)) := by
  rw [← List.flatten_filter_not_isEmpty]
  apply join_flatten_of_nonempty
  intro mem
  cases (List.mem_filter.1 mem).2

/-- A query and a second one without its beginning make up the whole. -/
def Seam (beginning separator : String) (a b whole : Query) : Prop :=
  ∃ rest, b.sql = beginning ++ rest ∧ whole.sql = a.sql ++ separator ++ rest ∧
    whole.params = a.params ++ b.params

lemma seam_join (beginning separator : String) {qs rs : List Query} (hq : qs ≠ []) (hr : rs ≠ []) :
    Seam beginning separator (text beginning ++ join separator qs)
      (text beginning ++ join separator rs) (text beginning ++ join separator (qs ++ rs)) := by
  rw [join_append separator hq hr]
  exact ⟨(join separator rs).sql, rfl, by simp [String.append_assoc], by simp⟩

end Query

namespace Predicates

/-- Builds groups one after another on one list of values: the texts of the groups that are not
empty, and the values at the end. -/
def buildEach : List Predicates → List Value → List String × List Value
  | [], params => ([], params)
  | ps :: rest, params =>
    let q := ps.build params
    let others := buildEach rest q.params
    (if ps.items.isEmpty then others.1 else q.sql :: others.1, others.2)

lemma texts_buildEach (groups : List Predicates) (params : List Value) :
    (buildEach groups params).1 =
      (groups.filter (!·.items.isEmpty)).map fun ps => ps.toQuery.sql := by
  induction groups generalizing params with
  | nil => rfl
  | cons ps rest ih =>
    rw [buildEach, ih]
    by_cases empty : ps.items.isEmpty
    · rw [List.filter_cons_of_neg (by simp [empty])]
      exact if_pos empty
    · rw [List.filter_cons_of_pos (by simp [empty])]
      exact if_neg empty

lemma params_buildEach (groups : List Predicates) (params : List Value) :
    (buildEach groups params).2 = params ++ groups.flatMap values := by
  induction groups generalizing params with
  | nil => exact (List.append_nil _).symm
  | cons ps rest ih =>
    rw [buildEach, ih, List.flatMap_cons, ← List.append_assoc, ← params_toQuery]
    rfl

/-- The predicates of all groups, in order. -/
def ofGroups (groups : List Predicates) : Predicates := ⟨groups.flatMap items⟩

lemma values_ofGroups (groups : List Predicates) :
    (ofGroups groups).values = groups.flatMap values :=
  List.flatMap_assoc ..

lemma values_eq_arguments (ps : Predicates) : ps.values = ps.items.flatMap Predicate.arguments :=
  congrArg ps.items.flatMap (funext Predicate.values_eq_arguments)

lemma sql_toQuery (ps : Predicates) :
    ps.toQuery.sql = " AND ".intercalate (ps.items.map Predicate.clause) := by
  rw [toQuery, Query.join, List.map_map]
  rfl

lemma toQuery_ofGroups (groups : List Predicates) :
    (ofGroups groups).toQuery = .join " AND " ((groups.filter (!·.items.isEmpty)).map toQuery) := by
  have nonempty : (fun qs : List Query => !qs.isEmpty) ∘ (fun ps => ps.items.map Predicate.toQuery) =
      fun ps : Predicates => !ps.items.isEmpty := by
    funext ps
    exact congrArg not List.isEmpty_map
  show Query.join " AND " ((groups.flatMap items).map Predicate.toQuery) = _
  rw [List.map_flatMap, List.flatMap_def, Query.join_flatten, List.filter_map, List.map_map, nonempty]
  rfl

end Predicates

lemma Insert.seam_render (table : String) (columns : List String) {rows rows' : List (List Value)}
    (ne : rows ≠ []) (ne' : rows' ≠ []) :
    Query.Seam ("INSERT INTO " ++ table ++ " (" ++ ", ".intercalate columns ++ ") VALUES ") ", "
      (render ⟨some table, columns, rows⟩ table) (render ⟨some table, columns, rows'⟩ table)
      (render ⟨some table, columns, rows ++ rows'⟩ table) := by
  simp only [render, List.map_append]
  exact Query.seam_join _ _ (mt List.map_eq_nil_iff.1 ne) (mt List.map_eq_nil_iff.1 ne')

lemma Update.render_of_ne_nil (table : String) {assignments : List Assignment}
    (ne : assignments ≠ []) : render ⟨some table, assignments, {}⟩ table =
      .text ("UPDATE " ++ table ++ " SET ") ++ .join ", " (assignments.map Assignment.toQuery) := by
  have filtered : Predicates.whereClause {} = .empty := rfl
  rw [render, setClause_of_ne_nil ne, filtered, Query.append_empty]
  simp only [Query.text_append, Query.append_assoc]

lemma Update.seam_render (table : String) {assignments assignments' : List Assignment}
    (ne : assignments ≠ []) (ne' : assignments' ≠ []) :
    Query.Seam ("UPDATE " ++ table ++ " SET ") ", "
      (render ⟨some table, assignments, {}⟩ table) (render ⟨some table, assignments', {}⟩ table)
      (render ⟨some table, assignments ++ assignments', {}⟩ table) := by
  rw [render_of_ne_nil table ne, render_of_ne_nil table ne',
    render_of_ne_nil table (List.append_ne_nil_of_left_ne_nil ne _), List.map_append]
  exact Query.seam_join _ _ (mt List.map_eq_nil_iff.1 ne) (mt List.map_eq_nil_iff.1 ne')

/-- Pieces make up the whole: groups of predicates, rows and assignments. -/
theorem pieces_eq_whole :
    (∀ (groups : List Predicates) (params : List Value),
      let whole := (Predicates.ofGroups groups).build params
      let pieces := Predicates.buildEach groups params
      pieces.2 = whole.params ∧
        whole.params = params ++ (groups.flatMap Predicates.items).flatMap Predicate.arguments ∧
        " AND ".intercalate pieces.1 = whole.sql ∧
        whole.sql = " AND ".intercalate ((groups.flatMap Predicates.items).map Predicate.clause)) ∧
    (∀ (table : String) (columns : List String),
      let s (rows : List (List Value)) : Insert := ⟨some table, columns, rows⟩
      (∀ rows rows', rows ≠ [] → rows' ≠ [] →
        Query.Seam ("INSERT INTO " ++ table ++ " (" ++ ", ".intercalate columns ++ ") VALUES ") ", "
          ((s rows).render table) ((s rows').render table) ((s (rows ++ rows')).render table)) ∧
      ∀ rows, rows ≠ [] → table ≠ "" →
        (Statement.insert (s rows)).toQuery = .ok ((s rows).render table)) ∧
    ∀ table : String,
      let s (assignments : List Assignment) : Update := ⟨some table, assignments, {}⟩
      (∀ assignments assignments', assignments ≠ [] → assignments' ≠ [] →
        Query.Seam ("UPDATE " ++ table ++ " SET ") ", " ((s assignments).render table)
          ((s assignments').render table) ((s (assignments ++ assignments')).render table)) ∧
      ∀ assignments, assignments ≠ [] → table ≠ "" →
        (Statement.update (s assignments)).toQuery = .ok ((s assignments).render table) := by
  refine ⟨?_, ?_, ?_⟩
  · intro groups params whole pieces
    have values : whole.params = params ++ (Predicates.ofGroups groups).values :=
      congrArg (params ++ ·) (Predicates.ofGroups groups).params_toQuery
    refine ⟨?_, ?_, ?_, (Predicates.ofGroups groups).sql_toQuery⟩
    · rw [values, Predicates.values_ofGroups]
      exact Predicates.params_buildEach groups params
    · rw [values, Predicates.values_eq_arguments]
      rfl
    · show " AND ".intercalate pieces.1 = (Predicates.ofGroups groups).toQuery.sql
      rw [Predicates.texts_buildEach, Predicates.toQuery_ofGroups, Query.join, List.map_map]
      rfl
  · intro table columns s
    refine ⟨fun rows rows' ne ne' => Insert.seam_render table columns ne ne', ?_⟩
    intro rows ne named
    have filled : ¬ (Kind.insert = .insert ∧ rows = []) := fun none => ne none.2
    have other : ¬ (Kind.insert = .update ∧ ([] : List Assignment) = []) := by simp
    exact Statement.toQuery_of_filled rfl named filled other
  · intro table s
    refine ⟨fun assignments assignments' ne ne' => Update.seam_render table ne ne', ?_⟩
    intro assignments ne named
    have other : ¬ (Kind.update = .insert ∧ ([] : List (List Value)) = []) := by simp
    have filled : ¬ (Kind.update = .update ∧ assignments = []) := fun none => ne none.2
    exact Statement.toQuery_of_filled rfl named other filled

/-- An empty group leaves no trace, an empty clause does, and a row without values is cut off like
any other. -/
theorem pieces_eq_whole_empty :
    let choice : Predicate := ⟨"b = ? OR ? < c", some (.list [.int 1, .int 2])⟩
    let groups : List Predicates :=
      [⟨[⟨"", some (.single .null)⟩]⟩, ⟨[]⟩, ⟨[⟨"a", none⟩, choice]⟩]
    Predicates.buildEach groups [.int 7] =
        (["", "a AND b = ? OR ? < c"], [.int 7, .null, .int 1, .int 2]) ∧
      ((Predicates.ofGroups groups).build [.int 7]).sql = " AND a AND b = ? OR ? < c" ∧
      ((Predicates.ofGroups groups).build [.int 7]).params = [.int 7, .null, .int 1, .int 2] ∧
      Query.Seam "INSERT INTO t () VALUES " ", " ⟨"INSERT INTO t () VALUES ()", []⟩
        ⟨"INSERT INTO t () VALUES (?)", [.null]⟩ ⟨"INSERT INTO t () VALUES (), (?)", [.null]⟩ ∧
      Query.Seam "UPDATE t SET " ", " ⟨"UPDATE t SET a = ?", [.int 1]⟩
        ⟨"UPDATE t SET a = ?", [.int 2]⟩ ⟨"UPDATE t SET a = ?, a = ?", [.int 1, .int 2]⟩ := by
  intro choice groups
  obtain ⟨grouped, insert, update⟩ := pieces_eq_whole
  obtain ⟨-, params, -, sql⟩ := grouped groups [.int 7]
  refine ⟨rfl, sql.trans (by decide), params, ?_, ?_⟩
  · exact (insert "t" []).1 [[]] [[.null]] nofun nofun
  · exact (update "t").1 [⟨"a", .int 1⟩] [⟨"a", .int 2⟩] nofun nofun

end BoundSql
