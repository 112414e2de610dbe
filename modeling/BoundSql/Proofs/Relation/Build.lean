import BoundSql.Proofs.Clauses
import BoundSql.Proofs.Relation.Run

/-!
# Values do not show in what is built

Related statements are rendered to one text with related values, fail the same checks, and log the
same event. With the relation that holds of all values this says that values are told neither from
the text of a statement, nor from the outcome of its build, nor from the log.
-/

namespace BoundSql

variable {R : Value → Value → Prop}

namespace Query

lemma related_empty : Related R empty empty := ⟨rfl, .nil⟩

lemma related_text (s : String) : Related R (text s) (text s) := ⟨rfl, .nil⟩

lemma related_placeholder {v w : Value} (h : R v w) : Related R (placeholder v) (placeholder w) :=
  ⟨rfl, .cons h .nil⟩

lemma Related.append {a b c d : Query} (h : a.Related R b) (h' : c.Related R d) :
    (a ++ c).Related R (b ++ d) :=
  ⟨congrArg₂ (· ++ ·) h.sql h'.sql, List.rel_append h.params h'.params⟩

lemma related_joinRest {separator : String} {as bs : List Query}
    (h : List.Forall₂ (Related R) as bs) :
    Related R (joinRest separator as) (joinRest separator bs) := by
  induction h with
  | nil => exact related_empty
  | cons first _ ih => exact (related_text separator).append (first.append ih)

lemma related_listed {keyword separator : String} {as bs : List Query}
    (h : List.Forall₂ (Related R) as bs) :
    Related R (listed keyword separator as) (listed keyword separator bs) := by
  cases h with
  | nil => exact related_empty
  | cons first h => exact (related_text keyword).append (first.append (related_joinRest h))

lemma related_join {separator : String} {as bs : List Query}
    (h : List.Forall₂ (Related R) as bs) : Related R (join separator as) (join separator bs) := by
  rw [join_eq_listed, join_eq_listed]
  exact related_listed h

lemma related_optional {α : Type} {keyword : String} {render : α → Query}
    (h : ∀ a, Related R (render a) (render a)) (o : Option α) :
    Related R (optional keyword render o) (optional keyword render o) := by
  cases o with
  | none => exact related_empty
  | some a => exact (related_text keyword).append (h a)

/-- Rendering that goes element by element takes related lists to related lists. -/
lemma related_map {α : Type} {P : α → α → Prop} {render : α → Query} {as bs : List α}
    (element : ∀ ⦃a b⦄, P a b → (render a).Related R (render b)) (h : List.Forall₂ P as bs) :
    List.Forall₂ (Related R) (as.map render) (bs.map render) :=
  List.rel_map (fun _ _ related => element related) h

end Query

lemma Predicate.Related.toQuery {p q : Predicate} (h : p.Related R q) :
    p.toQuery.Related R q.toQuery := by
  obtain ⟨clause, binding⟩ := p
  obtain ⟨clause', binding'⟩ := q
  obtain ⟨rfl, bound⟩ := h
  cases bound with
  | none => exact ⟨rfl, .nil⟩
  | some h =>
    cases h with
    | single h => exact ⟨rfl, .cons h .nil⟩
    | list h => exact ⟨rfl, h⟩

lemma Predicates.Related.whereClause {ps qs : Predicates} (h : ps.Related R qs) :
    ps.whereClause.Related R qs.whereClause := by
  rw [whereClause_eq, whereClause_eq]
  exact Query.related_listed (Query.related_map (fun _ _ related => related.toQuery) h)

lemma Assignment.Related.toQuery {a b : Assignment} (h : a.Related R b) :
    a.toQuery.Related R b.toQuery := by
  rw [Assignment.toQuery, Assignment.toQuery, h.field]
  exact (Query.related_text _).append (Query.related_placeholder h.value)

lemma Insert.related_rowQuery {vs ws : List Value} (h : List.Forall₂ R vs ws) :
    (rowQuery vs).Related R (rowQuery ws) := by
  apply Query.Related.append _ (Query.related_text ")")
  apply (Query.related_text "(").append
  exact Query.related_join (Query.related_map (fun _ _ value => Query.related_placeholder value) h)

lemma Select.related_countClause (keyword : String) (n : Option Nat) :
    (countClause keyword n).Related R (countClause keyword n) := by
  rw [countClause_eq]
  exact Query.related_optional (fun _ => Query.related_text _) _

lemma Select.Related.render {s t : Select} (h : s.Related R t) (table : String) :
    (s.render table).Related R (t.render table) := by
  have order : s.orderClause.Related R t.orderClause := by
    rw [orderClause_eq, orderClause_eq, h.order]
    exact Query.related_optional (fun _ => (Query.related_text _).append (Query.related_text _)) _
  rw [Select.render, Select.render, h.columns, h.limit, h.offset]
  apply Query.Related.append _ (related_countClause "OFFSET" t.offset)
  apply Query.Related.append _ (related_countClause "LIMIT" t.limit)
  apply Query.Related.append _ order
  exact (Query.related_text _).append h.predicates.whereClause

lemma Insert.Related.render {s t : Insert} (h : s.Related R t) (table : String) :
    (s.render table).Related R (t.render table) := by
  rw [Insert.render, Insert.render, h.columns]
  apply (Query.related_text _).append
  exact Query.related_join (Query.related_map (fun _ _ row => related_rowQuery row) h.rows)

lemma Update.Related.render {s t : Update} (h : s.Related R t) (table : String) :
    (s.render table).Related R (t.render table) := by
  rw [Update.render, Update.render, setClause_eq, setClause_eq]
  apply Query.Related.append _ h.predicates.whereClause
  apply (Query.related_text _).append
  exact Query.related_listed (Query.related_map (fun _ _ related => related.toQuery) h.assignments)

lemma isEmpty_eq_of_forall₂ {α : Type} {P : α → α → Prop} {as bs : List α}
    (h : List.Forall₂ P as bs) : as.isEmpty = bs.isEmpty := by
  cases h <;> rfl

namespace Statement.Related

variable {s t : Statement}

lemma kind (h : s.Related R t) : s.kind = t.kind := by
  cases h <;> rfl

lemma render (h : s.Related R t) (table : String) :
    (s.render table).Related R (t.render table) := by
  cases h with
  | select h => exact h.render table
  | insert h => exact h.render table
  | update h => exact h.render table

lemma validate (h : s.Related R t) : s.validate = t.validate := by
  cases h with
  | select h => rfl
  | insert h =>
    show Insert.validate _ = Insert.validate _
    rw [Insert.validate, Insert.validate, isEmpty_eq_of_forall₂ h.rows]
  | update h =>
    show Update.validate _ = Update.validate _
    rw [Update.validate, Update.validate, isEmpty_eq_of_forall₂ h.assignments]

/-- No check looks at a value. -/
lemma checkedTable (h : s.Related R t) : s.checkedTable = t.checkedTable := by
  have named : s.table? = t.table? := by
    cases h with
    | select h => exact h.table
    | insert h => exact h.table
    | update h => exact h.table
  rw [Statement.checkedTable, Statement.checkedTable, named, h.validate, h.kind]

/-- Related statements are built alike. -/
lemma build (h : s.Related R t) :
    ((∃ e, s.build.result = .error e ∧ t.build.result = .error e) ∨
      ∃ q r, s.build.result = .ok q ∧ t.build.result = .ok r ∧ q.Related R r) ∧
    ∃ event, s.build.log = [event] ∧ t.build.log = [event] := by
  unfold Statement.build
  rw [← h.checkedTable, ← h.kind]
  cases s.checkedTable with
  | error e => exact ⟨.inl ⟨e, rfl, rfl⟩, _, rfl, rfl⟩
  | ok table =>
    have related := h.render table
    refine ⟨.inr ⟨_, _, rfl, rfl, related⟩, _, rfl, ?_⟩
    simp only [Event.ofQuery, related.sql, related.params.length_eq]

end Statement.Related

/-- Scripts that agree in everything but their values fail with one error, or are built to one text
with as many values, and log the same event. -/
theorem Script.built_alike {a b : Script} {s t : Statement} (alike : a.Alike b)
    (reached : a.statement = .ok s) (reached' : b.statement = .ok t) :
    ((∃ e, s.toQuery = .error e ∧ t.toQuery = .error e) ∨
      ∃ q r, s.toQuery = .ok q ∧ t.toQuery = .ok r ∧
        q.sql = r.sql ∧ q.params.length = r.params.length) ∧
    ∃ event, s.build.log = [event] ∧ t.build.log = [event] := by
  obtain ⟨outcome, logged⟩ := (alike.statement reached reached').build
  refine ⟨?_, logged⟩
  rcases outcome with failed | ⟨q, r, built, built', related⟩
  · exact .inl failed
  · exact .inr ⟨q, r, built, built', related.sql, related.params.length_eq⟩

/-- An identifier that reads like SQL and other documents leave no trace. -/
theorem Script.built_alike_injection :
    let steps (v : Value) (x : Serial) : List Update.Step := [.assignSerial "d" x,
      .assignOption "n" (some v), .always (.filter (.condition (.isIn "r" [v, v])))]
    let a : Script := .update (.tableById (.named "t") (.int 7)) (steps .null .none)
    let b : Script :=
      .update (.tableById (.named "t") (.text "0 OR 1 = 1")) (steps (.bool true) (.bool true))
    ∃ s t event, a.statement = .ok s ∧ b.statement = .ok t ∧
      s.build.log = [event] ∧ t.build.log = [event] := by
  intro steps a b
  have alike : a.Alike b :=
    .update (.tableById _ trivial) (.cons (.assignSerial _ fun _ _ _ _ => trivial)
      (.cons (.assignOption _ (.some trivial)) (.cons (.always (.filter (.condition
        (.isIn _ (.cons trivial (.cons trivial .nil)))))) .nil)))
  have reached : a.statement = .ok _ := rfl
  have reached' : b.statement = .ok _ := rfl
  obtain ⟨-, event, logged, logged'⟩ := built_alike alike reached reached'
  exact ⟨_, _, event, reached, reached', logged, logged'⟩

end BoundSql
