import BoundSql.Proofs.Build
import BoundSql.Proofs.Decoding.Clause
import BoundSql.Proofs.Script.Basic

/-!
# Statements are determined by their queries

Two SELECT or UPDATE statements on well-formed names that are built to the same text with the same
values are the same statement, apart from numbers of rows that are zero in the one and not set in
the other. Names may be keywords, and how the values are divided among the predicates is found from
the text alone.
-/

namespace BoundSql

/-- The statement in which numbers of rows that are zero are not set. -/
def Select.canonical (s : Select) : Select :=
  { s with limit := s.limit.filter (· ≠ 0), offset := s.offset.filter (· ≠ 0) }

/-- All predicates are ready-made conditions on well-formed fields. -/
def Predicates.WellNamed (ps : Predicates) : Prop :=
  ∃ cs : List Condition, ps.items = cs.map Condition.toPredicate ∧ ∀ c ∈ cs, WellFormedName c.field

namespace Statement

/-- The statement in which numbers of rows that are zero are not set. -/
def canonical : Statement → Statement
  | select s => .select s.canonical
  | insert s => .insert s
  | update s => .update s

/-- All names are well formed, those in predicates included, and no predicate is written by hand. -/
structure WellNamed (s : Statement) : Prop where
  names : ∀ name ∈ s.names, WellFormedName name
  predicates : s.predicates.WellNamed

end Statement

/-- Ready-made conditions are determined by the part of a statement that begins with `WHERE`. -/
lemma Predicates.whereClause_injective {ps qs : Predicates} {r r' : Query}
    (hp : ps.WellNamed) (hq : qs.WellNamed)
    (hr : r.Before [" ORDER BY ", " LIMIT ", " OFFSET "])
    (hr' : r'.Before [" ORDER BY ", " LIMIT ", " OFFSET "])
    (e : ps.whereClause ++ r = qs.whereClause ++ r') : ps = qs ∧ r = r' := by
  obtain ⟨items⟩ := ps
  obtain ⟨items'⟩ := qs
  obtain ⟨cs, rfl, fields⟩ := hp
  obtain ⟨cs', rfl, fields'⟩ := hq
  simp only [whereClause_eq, List.map_map] at e
  obtain ⟨rfl, rest⟩ := Condition.decodable_whereClause fields fields' hr hr' e
  exact ⟨rfl, rest⟩

/-- What follows the predicates of a SELECT statement determines its order and its numbers of rows,
up to zeros. -/
lemma Select.ending_injective {s t : Select} (hs : ∀ o ∈ s.order, WellFormedName o.column)
    (ht : ∀ o ∈ t.order, WellFormedName o.column)
    (e : s.orderClause ++ (countClause "LIMIT" s.limit ++ countClause "OFFSET" s.offset) =
      t.orderClause ++ (countClause "LIMIT" t.limit ++ countClause "OFFSET" t.offset)) :
    s.order = t.order ∧ s.limit.filter (· ≠ 0) = t.limit.filter (· ≠ 0) ∧
      s.offset.filter (· ≠ 0) = t.offset.filter (· ≠ 0) := by
  have counts (s : Select) : Query.Before [" LIMIT ", " OFFSET "]
      (countClause "LIMIT" s.limit ++ countClause "OFFSET" s.offset) :=
    (before_countClause "LIMIT" s.limit).append (before_countClause "OFFSET" s.offset)
  rw [orderClause_eq, orderClause_eq] at e
  obtain ⟨order, e⟩ := decodable_orderClause hs ht (counts s) (counts t) e
  rw [countClause_eq "LIMIT", countClause_eq "LIMIT"] at e
  obtain ⟨limit, e⟩ := decodable_limitClause (fun _ _ => trivial) (fun _ _ => trivial)
    (before_countClause "OFFSET" s.offset) (before_countClause "OFFSET" t.offset) e
  rw [countClause_eq, countClause_eq, ← Query.append_empty (.optional _ _ (s.offset.filter _)),
    ← Query.append_empty (.optional _ _ (t.offset.filter _))] at e
  obtain ⟨offset, -⟩ := decodable_offsetClause (fun _ _ => trivial) (fun _ _ => trivial)
    Query.before_empty Query.before_empty e
  exact ⟨order, limit, offset⟩

/-- A SELECT statement is determined by what it is rendered to. -/
lemma Select.render_injective {s t : Select} {table table' : String}
    (hs : (Statement.select s).WellNamed) (ht : (Statement.select t).WellNamed)
    (named : s.table = some table) (named' : t.table = some table')
    (e : s.render table = t.render table') : s.canonical = t.canonical := by
  have order (s : Select) (h : (Statement.select s).WellNamed) :
      ∀ o ∈ s.order, WellFormedName o.column := fun o mem => h.names o.column (order_mem_names mem)
  have separated (s : Select) : Query.Before [" ", ","] (s.predicates.whereClause ++
      (s.orderClause ++ (countClause "LIMIT" s.limit ++ countClause "OFFSET" s.offset))) :=
    (s.predicates.before_whereClause.append s.before_ending).mono (by decide)
  -- part by part from the left; what is left over stands behind the part that was read
  rw [render_eq, render_eq] at e
  obtain ⟨sameColumns, e₁⟩ := Query.decodable_columns
    (fun name mem => hs.names name (column_mem_names mem))
    (fun name mem => ht.names name (column_mem_names mem))
    (Query.before_text_append List.mem_cons_self) (Query.before_text_append List.mem_cons_self)
    (Query.text_append_cancel e)
  obtain ⟨sameTable, e₂⟩ := Query.decodable_name
    (hs.names table (table_mem_names named)) (ht.names table' (table_mem_names named'))
    (separated s) (separated t) (Query.text_append_cancel e₁)
  obtain ⟨samePredicates, e₃⟩ :=
    Predicates.whereClause_injective hs.predicates ht.predicates s.before_ending t.before_ending e₂
  obtain ⟨sameOrder, limit, offset⟩ := ending_injective (order s hs) (order t ht) e₃
  have predicates : s.predicates = t.predicates := samePredicates
  simp only [canonical, named, named', sameTable, sameColumns, predicates, sameOrder, limit, offset]

lemma Update.render_injective {s t : Update} {table table' : String}
    (hs : (Statement.update s).WellNamed) (ht : (Statement.update t).WellNamed)
    (named : s.table = some table) (named' : t.table = some table')
    (e : s.render table = t.render table') : s = t := by
  have separated (s : Update) : Query.Before [" ", ","] (s.setClause ++ s.predicates.whereClause) :=
    (s.before_setClause.append s.predicates.before_whereClause).mono (by decide)
  rw [render_eq, render_eq] at e
  obtain ⟨sameTable, e₁⟩ := Query.decodable_name
    (hs.names table (table_mem_names named)) (ht.names table' (table_mem_names named'))
    (separated s) (separated t) (Query.text_append_cancel e)
  rw [setClause_eq, setClause_eq] at e₁
  obtain ⟨assignments, e₂⟩ := Assignment.decodable_setClause
    (fun a mem => hs.names a.field (field_mem_names mem))
    (fun a mem => ht.names a.field (field_mem_names mem))
    s.predicates.before_whereClause t.predicates.before_whereClause e₁
  rw [← Query.append_empty s.predicates.whereClause,
    ← Query.append_empty t.predicates.whereClause] at e₂
  obtain ⟨predicates, -⟩ := Predicates.whereClause_injective hs.predicates ht.predicates
    Query.before_empty Query.before_empty e₂
  cases s
  cases t
  cases named
  cases named'
  cases sameTable
  cases assignments
  cases predicates
  rfl

namespace Statement

lemma select_render_ne (s : Select) (t : Update) (table table' : String) :
    s.render table ≠ t.render table' := by
  rw [Select.render_eq, Update.render_eq]
  exact Query.text_append_ne (by decide) _ _

/-- A statement that does not insert is determined by the text and the values it is built to. -/
theorem canonical_eq_of_toQuery_eq {s t : Statement} {q r : Query}
    (hs : s.kind ≠ .insert) (ht : t.kind ≠ .insert)
    (wellNamed : s.WellNamed) (wellNamed' : t.WellNamed)
    (built : s.toQuery = .ok q) (built' : t.toQuery = .ok r)
    (sql : q.sql = r.sql) (params : q.params = r.params) : s.canonical = t.canonical := by
  obtain ⟨table, named, -, -, rfl⟩ := toQuery_eq_ok_iff.1 built
  obtain ⟨table', named', -, -, rfl⟩ := toQuery_eq_ok_iff.1 built'
  have e : s.render table = t.render table' := Query.ext sql params
  cases s with
  | select s =>
    cases t with
    | select t =>
      exact congrArg select (Select.render_injective wellNamed wellNamed' named named' e)
    | insert t => exact absurd rfl ht
    | update t => exact absurd e (select_render_ne s t table table')
  | insert s => exact absurd rfl hs
  | update s =>
    cases t with
    | select t => exact absurd e.symm (select_render_ne t s table' table)
    | insert t => exact absurd rfl ht
    | update t =>
      exact congrArg update (Update.render_injective wellNamed wellNamed' named named' e)

/-- Names may be keywords, and a limit of zero reads like none. -/
theorem canonical_eq_of_keywords :
    ∃ (s t : Select) (q : Query), s.limit = some 0 ∧ t.limit = none ∧
      (select s).toQuery = .ok q ∧ (select t).toQuery = .ok q ∧
      q.sql =
        "SELECT FROM, b FROM WHERE WHERE IN IN (?,?) AND AND LIKE ? ORDER BY DESC DESC OFFSET 7" ∧
      (select s).canonical = (select t).canonical := by
  let conditions : List Condition := [.isIn "IN" [.null, .int 3], .compare "AND" .like (.text "?")]
  let s (limit : Option Nat) : Select := ⟨some "WHERE", ["FROM", "b"],
    ⟨conditions.map Condition.toPredicate⟩, some ⟨"DESC", true⟩, limit, some 7⟩
  have wellNamed (limit : Option Nat) : (select (s limit)).WellNamed := by
    refine ⟨?_, conditions, rfl, ?_⟩
    · exact (by decide : ∀ name ∈ ["WHERE", "FROM", "b", "DESC"], WellFormedName name)
    · have fields : ∀ field ∈ conditions.map Condition.field, WellFormedName field :=
        (by decide : ∀ field ∈ ["IN", "AND"], WellFormedName field)
      exact fun c mem => fields c.field (List.mem_map_of_mem mem)
  refine ⟨s (some 0), s none, _, rfl, rfl, rfl, rfl, by decide, ?_⟩
  exact canonical_eq_of_toQuery_eq (by decide) (by decide) (wellNamed _) (wellNamed _)
    rfl rfl rfl rfl

end Statement

end BoundSql
