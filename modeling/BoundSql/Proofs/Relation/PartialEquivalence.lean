import BoundSql.Proofs.Clauses
import BoundSql.Proofs.Relation.Basic

/-!
# Partial equivalences of values

A relation of values that is symmetric and transitive is lifted to relations of bindings, predicates
and statements that are so, too. Each of these is related to itself exactly when all values in it are.
-/

namespace BoundSql

/-- The values of a statement, in the order of their placeholders. -/
def Select.values (s : Select) : List Value := s.predicates.values

@[inherit_doc Select.values]
def Insert.values (s : Insert) : List Value := s.rows.flatten

@[inherit_doc Select.values]
def Update.values (s : Update) : List Value :=
  s.assignments.map Assignment.value ++ s.predicates.values

/-- A relation that is symmetric and transitive. -/
structure PartialEquivalence {α : Type} (P : α → α → Prop) : Prop where
  symm : ∀ ⦃a b⦄, P a b → P b a
  trans : ∀ ⦃a b c⦄, P a b → P b c → P a c

namespace PartialEquivalence

section Lists
variable {α : Type} {P : α → α → Prop}

lemma forall₂ (h : PartialEquivalence P) : PartialEquivalence (List.Forall₂ P) where
  symm _ _ related := (related.imp fun _ _ same => h.symm same).flip
  trans _ _ cs related related' := by
    induction related generalizing cs with
    | nil => exact related'
    | cons first _ ih =>
      cases related' with
      | cons first' rest' => exact .cons (h.trans first first') (ih _ rest')

lemma option (h : PartialEquivalence P) : PartialEquivalence (Option.Rel P) where
  symm _ _ related := by
    cases related with
    | none => exact .none
    | some same => exact .some (h.symm same)
  trans _ _ _ related related' := by
    cases related with
    | none => exact related'
    | some same =>
      cases related' with
      | some same' => exact .some (h.trans same same')

end Lists

variable {R : Value → Value → Prop}

lemma binding (h : PartialEquivalence R) : PartialEquivalence (Binding.Related R) where
  symm _ _ related := by
    cases related with
    | single same => exact .single (h.symm same)
    | list same => exact .list (h.forall₂.symm same)
  trans _ _ _ related related' := by
    cases related with
    | single same =>
      cases related' with
      | single same' => exact .single (h.trans same same')
    | list same =>
      cases related' with
      | list same' => exact .list (h.forall₂.trans same same')

lemma predicate (h : PartialEquivalence R) : PartialEquivalence (Predicate.Related R) where
  symm _ _ related := ⟨related.clause.symm, h.binding.option.symm related.binding⟩
  trans _ _ _ related related' :=
    ⟨related.clause.trans related'.clause, h.binding.option.trans related.binding related'.binding⟩

lemma predicates (h : PartialEquivalence R) : PartialEquivalence (Predicates.Related R) where
  symm _ _ related := h.predicate.forall₂.symm related
  trans _ _ _ related related' := h.predicate.forall₂.trans related related'

lemma assignment (h : PartialEquivalence R) : PartialEquivalence (Assignment.Related R) where
  symm _ _ related := ⟨related.field.symm, h.symm related.value⟩
  trans _ _ _ related related' :=
    ⟨related.field.trans related'.field, h.trans related.value related'.value⟩

lemma select (h : PartialEquivalence R) : PartialEquivalence (Select.Related R) where
  symm _ _ related :=
    { table := related.table.symm
      columns := related.columns.symm
      predicates := h.predicates.symm related.predicates
      order := related.order.symm
      limit := related.limit.symm
      offset := related.offset.symm }
  trans _ _ _ related related' :=
    { table := related.table.trans related'.table
      columns := related.columns.trans related'.columns
      predicates := h.predicates.trans related.predicates related'.predicates
      order := related.order.trans related'.order
      limit := related.limit.trans related'.limit
      offset := related.offset.trans related'.offset }

lemma insert (h : PartialEquivalence R) : PartialEquivalence (Insert.Related R) where
  symm _ _ related :=
    { table := related.table.symm
      columns := related.columns.symm
      rows := h.forall₂.forall₂.symm related.rows }
  trans _ _ _ related related' :=
    { table := related.table.trans related'.table
      columns := related.columns.trans related'.columns
      rows := h.forall₂.forall₂.trans related.rows related'.rows }

lemma update (h : PartialEquivalence R) : PartialEquivalence (Update.Related R) where
  symm _ _ related :=
    { table := related.table.symm
      assignments := h.assignment.forall₂.symm related.assignments
      predicates := h.predicates.symm related.predicates }
  trans _ _ _ related related' :=
    { table := related.table.trans related'.table
      assignments := h.assignment.forall₂.trans related.assignments related'.assignments
      predicates := h.predicates.trans related.predicates related'.predicates }

end PartialEquivalence

section Self
variable {R : Value → Value → Prop}

lemma Binding.related_self_iff (b : Binding) : b.Related R b ↔ ∀ v ∈ b.values, R v v := by
  cases b with
  | single v =>
    constructor
    · rintro ⟨same⟩
      exact List.forall_mem_singleton.2 same
    · intro same
      exact .single (same v List.mem_cons_self)
  | list vs =>
    constructor
    · rintro (_ | same)
      exact List.forall₂_same.1 same
    · intro same
      exact .list (List.forall₂_same.2 same)

lemma Predicate.related_self_iff (p : Predicate) : p.Related R p ↔ ∀ v ∈ p.values, R v v := by
  obtain ⟨clause, binding⟩ := p
  cases binding with
  | none => exact ⟨nofun, fun _ => ⟨rfl, .none⟩⟩
  | some b =>
    constructor
    · rintro ⟨-, ⟨same⟩⟩
      exact b.related_self_iff.1 same
    · intro same
      exact ⟨rfl, .some (b.related_self_iff.2 same)⟩

lemma Predicates.related_self_iff (ps : Predicates) : ps.Related R ps ↔ ∀ v ∈ ps.values, R v v := by
  rw [Predicates.Related, List.forall₂_same, values, List.forall_mem_flatMap]
  simp only [Predicate.related_self_iff]

lemma Select.related_self_iff (s : Select) : s.Related R s ↔ ∀ v ∈ s.values, R v v := by
  rw [values, ← Predicates.related_self_iff]
  exact ⟨fun related => related.predicates, fun related => ⟨rfl, rfl, related, rfl, rfl, rfl⟩⟩

lemma Insert.related_self_iff (s : Insert) : s.Related R s ↔ ∀ v ∈ s.values, R v v := by
  have rows : List.Forall₂ (List.Forall₂ R) s.rows s.rows ↔ ∀ v ∈ s.rows.flatten, R v v := by
    simp only [List.forall₂_same, List.forall_mem_flatten]
  rw [values, ← rows]
  exact ⟨fun related => related.rows, fun related => ⟨rfl, rfl, related⟩⟩

lemma Update.related_self_iff (s : Update) : s.Related R s ↔ ∀ v ∈ s.values, R v v := by
  have assignments : List.Forall₂ (Assignment.Related R) s.assignments s.assignments ↔
      ∀ v ∈ s.assignments.map Assignment.value, R v v := by
    rw [List.forall₂_same, List.forall_mem_map]
    exact forall₂_congr fun _ _ => ⟨fun related => related.value, fun same => ⟨rfl, same⟩⟩
  rw [values, List.forall_mem_append, ← assignments, ← Predicates.related_self_iff]
  constructor
  · intro related
    exact ⟨related.assignments, related.predicates⟩
  · rintro ⟨assigned, filtered⟩
    exact ⟨rfl, assigned, filtered⟩

end Self

end BoundSql
