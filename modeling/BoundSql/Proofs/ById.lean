import BoundSql.Proofs.Build
import BoundSql.Proofs.Continuation
import BoundSql.Proofs.Script.Slots

/-!
# Statements on a single row

A table hands out statements that concern the row with one identifier. Whatever steps follow, the
condition on the identifier stays the first of the predicates, so it opens the part that begins with
`WHERE`, and its value stands right behind the assigned values. What comes after the condition only
adds to it by `AND`, or is a later part of the statement.
-/

namespace BoundSql.Table

variable (t : Table) (id : Value)

lemma sql_idFilter : (t.idFilter id).toPredicate.toQuery.sql = t.idColumn ++ " = ?" := by
  show t.idColumn ++ " " ++ "=" ++ " ?" = t.idColumn ++ " = ?"
  rw [String.append_assoc, String.append_assoc]
  rfl

lemma params_idFilter : (t.idFilter id).toPredicate.toQuery.params = [id] := rfl

/-- The changes after the start only add predicates behind the one for the identifier. -/
lemma items_updateById (cs : List Update.Call) :
    ∃ others, ((t.updateById id).calls cs).predicates.items =
      (t.idFilter id).toPredicate :: others :=
  ⟨_, Update.items_calls _ cs⟩

lemma items_selectById (cs : List Select.Call) :
    ∃ others, ((t.selectById id).calls cs).predicates.items =
      (t.idFilter id).toPredicate :: others :=
  ⟨_, Select.items_calls _ cs⟩

lemma table_updateById {cs : List Update.Call} {table : String}
    (named : ((t.updateById id).calls cs).table = some table) :
    table = (cs.filterMap Update.Call.table?).getLastD t.name := by
  have start : (t.updateById id).table = some t.name := rfl
  rw [Update.table_calls, start, Option.or_some, Option.some_inj] at named
  rw [← named, List.getLastD_eq_getLast?]

lemma table_selectById {cs : List Select.Call} {table : String}
    (named : ((t.selectById id).calls cs).table = some table) :
    table = (cs.filterMap Select.Call.table?).getLastD t.name := by
  have start : (t.selectById id).table = some t.name := rfl
  rw [Select.table_calls, start, Option.or_some, Option.some_inj] at named
  rw [← named, List.getLastD_eq_getLast?]

variable {t id}

lemma render_update {s : Update} {others : List Predicate}
    (items : s.predicates.items = (t.idFilter id).toPredicate :: others)
    (assigned : s.assignments ≠ []) (table : String) :
    ∃ rest, rest.Before [" AND "] ∧ s.render table =
      .text "UPDATE " ++ (.text table ++
        ((.text " SET " ++ .join ", " (s.assignments.map Assignment.toQuery)) ++
          (.text " WHERE " ++ ((t.idFilter id).toPredicate.toQuery ++ rest)))) := by
  refine ⟨.joinRest " AND " (others.map Predicate.toQuery), Query.before_joinRest .., ?_⟩
  rw [Update.render_eq, Update.setClause_of_ne_nil assigned, Predicates.whereClause_cons items]

lemma render_select {s : Select} {others : List Predicate}
    (items : s.predicates.items = (t.idFilter id).toPredicate :: others) (table : String) :
    ∃ rest, rest.Before [" AND ", " ORDER BY ", " LIMIT ", " OFFSET "] ∧ s.render table =
      .text "SELECT " ++ (.text (", ".intercalate s.columns) ++ (.text " FROM " ++ (.text table ++
        (.text " WHERE " ++ ((t.idFilter id).toPredicate.toQuery ++ rest))))) := by
  have more := Query.before_joinRest " AND " (others.map Predicate.toQuery)
  refine ⟨_, more.append s.before_ending, ?_⟩
  rw [Select.render_eq, Query.join_text, Predicates.whereClause_cons items]
  simp only [Query.append_assoc]

/-- The condition on the identifier has its place in a built statement whatever steps follow. -/
theorem byId_kept (t : Table) (id : Value) :
    (∀ (steps : List Update.Step) (s : Update) (q : Query),
      (t.updateById id).run steps = .ok s → (Statement.update s).toQuery = .ok q →
        let calls := steps.filterMap Update.Step.call?
        let assignments := calls.filterMap Update.Call.assignment?
        (∃ rest, Continues [" AND "] rest ∧
          q.sql = "UPDATE " ++ (calls.filterMap Update.Call.table?).getLastD t.name ++
            " SET " ++ ", ".intercalate (assignments.map fun a => a.field ++ " = ?") ++
            " WHERE " ++ t.idColumn ++ " = ?" ++ rest) ∧
          q.params[assignments.length]? = some id) ∧
    (∀ (steps : List Select.Step) (q : Query),
      (Statement.select ((t.selectById id).run steps)).toQuery = .ok q →
        let calls := steps.filterMap Select.Step.call?
        (∃ rest, Continues [" AND ", " ORDER BY ", " LIMIT ", " OFFSET "] rest ∧
          q.sql = "SELECT " ++
            ", ".intercalate ((calls.filterMap Select.Call.columns?).getLastD t.selectColumns) ++
            " FROM " ++ (calls.filterMap Select.Call.table?).getLastD t.name ++
            " WHERE " ++ t.idColumn ++ " = ?" ++ rest) ∧
          q.params[0]? = some id) := by
  constructor
  · intro steps s q run built calls assignments
    rw [Update.run_eq_ok run] at built
    obtain ⟨table, named, -, valid, rfl⟩ := Statement.toQuery_eq_ok_iff.1 built
    have assigned : ((t.updateById id).calls calls).assignments = assignments :=
      Update.assignments_calls _ calls
    -- the check on assignments is what keeps `SET` in front of the condition
    have nonempty : ((t.updateById id).calls calls).assignments ≠ [] := by
      intro none
      simp [Statement.validate, Update.validate, calls, none] at valid
    obtain ⟨others, items⟩ := items_updateById t id calls
    obtain ⟨rest, continues, e⟩ := render_update items nonempty table
    have rendered : (Statement.update ((t.updateById id).calls calls)).render table = _ := e
    refine ⟨⟨rest.sql, continues, ?_⟩, ?_⟩
    · rw [rendered, assigned, table_updateById t id named]
      simp [Assignment.sql_join_toQuery, sql_idFilter, String.append_assoc, calls]
    · rw [rendered, assigned]
      simp [Assignment.params_join_toQuery, params_idFilter]
  · intro steps q built calls
    rw [Select.run_eq_calls] at built
    obtain ⟨table, named, -, -, rfl⟩ := Statement.toQuery_eq_ok_iff.1 built
    obtain ⟨others, items⟩ := items_selectById t id calls
    obtain ⟨rest, continues, e⟩ := render_select items table
    have rendered : (Statement.select ((t.selectById id).calls calls)).render table = _ := e
    have columns : ((t.selectById id).calls calls).columns = _ := Select.columns_calls _ calls
    refine ⟨⟨rest.sql, continues, ?_⟩, ?_⟩
    · rw [rendered, table_selectById t id named, columns]
      simp only [Query.sql_append, Query.sql_text, sql_idFilter, String.append_assoc]
      rfl
    · rw [rendered]
      simp [params_idFilter]

/-- A filter written by hand and a later table leave the condition in its place. -/
theorem byId_kept_beside_custom :
    ∃ s q, (((Table.named "t").withIdColumn "uid").updateById (.int 7)).run
        [.always (.filter (.custom ⟨"a = ? OR b = ?", some (.list [.null, .text "x"])⟩)),
          .assignOption "n" (some .null), .always (.table "u")] = .ok s ∧
      (Statement.update s).toQuery = .ok q ∧
      q.sql = "UPDATE u SET n = ? WHERE uid = ? AND a = ? OR b = ?" ∧
      q.params[1]? = some (.int 7) := by
  let steps : List Update.Step :=
    [.always (.filter (.custom ⟨"a = ? OR b = ?", some (.list [.null, .text "x"])⟩)),
      .assignOption "n" (some .null), .always (.table "u")]
  refine ⟨_, _, rfl, rfl, by decide, ?_⟩
  exact ((byId_kept ((Table.named "t").withIdColumn "uid") (.int 7)).1 steps _ _ rfl rfl).2

end BoundSql.Table
