import BoundSql.Proofs.Equality.Object
import BoundSql.Proofs.Relation.Outcome
import BoundSql.Proofs.Relation.PartialEquivalence

/-!
# Equality of statements

Statements are equal when they have the same parts with equal values. This is the relation that
equality of values is lifted to, so it is symmetric and transitive, and steps and builds respect it:
what holds of any relation of values holds of equality. Only a NaN keeps a statement from being equal
to itself.
-/

namespace BoundSql

namespace Value

/-- Programs take the values for equal. -/
abbrev Equals (v w : Value) : Prop := (v == w) = true

/-- A document that is bound is well formed. -/
def WellFormed : Value → Prop
  | json document => document.WellFormed
  | _ => True

/-- Values of one kind with equal contents. -/
inductive Matches : Value → Value → Prop
  | null : Matches null null
  | bool (b : Bool) : Matches (bool b) (bool b)
  | int (n : Int64) : Matches (int n) (int n)
  | uint (n : UInt64) : Matches (uint n) (uint n)
  | float {x y : Binary64} (h : x.numericEq y = true) : Matches (float x) (float y)
  | text (s : String) : Matches (text s) (text s)
  | json {a b : Json} (h : a.numericEq b = true) : Matches (json a) (json b)
  | raw {r s : Raw} (h : r.storage = s.storage) : Matches (raw r) (raw s)

lemma equals_iff_matches {v w : Value} : v.Equals w ↔ v.Matches w := by
  constructor
  · intro (same : sameValue v w = true)
    fun_cases sameValue v w
    case case1 => exact .null
    case case2 a b =>
      obtain rfl := eq_of_beq same
      exact .bool a
    case case3 a b =>
      obtain rfl := eq_of_beq same
      exact .int a
    case case4 a b =>
      obtain rfl := eq_of_beq same
      exact .uint a
    case case5 a b => exact .float same
    case case6 a b =>
      obtain rfl := eq_of_beq same
      exact .text a
    case case7 a b => exact .json same
    case case8 a b => exact .raw (eq_of_beq same)
    -- Values of different kinds: the comparison gives false.
    case case9 => simp_all [sameValue]
  · intro same
    cases same with
    | null => rfl
    | bool b => exact beq_self_eq_true b
    | int n => exact beq_self_eq_true n
    | uint n => exact beq_self_eq_true n
    | float h => exact h
    | text s => exact beq_self_eq_true s
    | json h => exact h
    | @raw r s h =>
      have shared : (r.storage == s.storage) = true := beq_of_eq h
      exact shared

lemma partialEquivalence_equals : PartialEquivalence Equals where
  symm _ _ same := by
    rw [equals_iff_matches] at same ⊢
    cases same with
    | null => exact .null
    | bool b => exact .bool b
    | int n => exact .int n
    | uint n => exact .uint n
    | float h => exact .float (Binary64.numericEq_symm h)
    | text s => exact .text s
    | json h => exact .json (Json.numericEq_symm _ h)
    | raw h => exact .raw h.symm
  trans _ _ _ same same' := by
    rw [equals_iff_matches] at same same' ⊢
    cases same with
    | null => exact same'
    | bool b => exact same'
    | int n => exact same'
    | uint n => exact same'
    | float h =>
      cases same' with
      | float h' => exact .float (Binary64.numericEq_trans h h')
    | text s => exact same'
    | json h =>
      cases same' with
      | json h' => exact .json (Json.numericEq_trans _ h h')
    | raw h =>
      cases same' with
      | raw h' => exact .raw (h.trans h')

/-- Only a NaN differs from itself. -/
lemma equals_self_iff {v : Value} (wf : v.WellFormed) :
    v.Equals v ↔ ∀ x, v = float x → x.isNaN = false := by
  rw [equals_iff_matches]
  cases v with
  | null => exact ⟨fun _ => nofun, fun _ => .null⟩
  | bool b => exact ⟨fun _ => nofun, fun _ => .bool b⟩
  | int n => exact ⟨fun _ => nofun, fun _ => .int n⟩
  | uint n => exact ⟨fun _ => nofun, fun _ => .uint n⟩
  | float x =>
    constructor
    · rintro (_ | _ | _ | _ | same) _ ⟨⟩
      exact Binary64.numericEq_self_iff.1 same
    · intro number
      exact .float (Binary64.numericEq_self_iff.2 (number x rfl))
  | text s => exact ⟨fun _ => nofun, fun _ => .text s⟩
  | json document => exact ⟨fun _ => nofun, fun _ => .json (Json.numericEq_self document wf)⟩
  | raw r => exact ⟨fun _ => nofun, fun _ => .raw rfl⟩

end Value

section Lists
variable {α : Type} [BEq α] {P : α → α → Prop}

lemma list_beq_iff (h : ∀ a b : α, (a == b) = true ↔ P a b) (as bs : List α) :
    (as == bs) = true ↔ List.Forall₂ P as bs := by
  induction as generalizing bs with
  | nil => cases bs <;> simp
  | cons a as ih =>
    cases bs with
    | nil => simp
    | cons b bs => rw [List.cons_beq_cons, Bool.and_eq_true, h, ih, List.forall₂_cons]

lemma option_beq_iff (h : ∀ a b : α, (a == b) = true ↔ P a b) (a b : Option α) :
    (a == b) = true ↔ Option.Rel P a b := by
  cases a with
  | none =>
    cases b with
    | none => exact ⟨fun _ => .none, fun _ => rfl⟩
    | some b => exact ⟨nofun, nofun⟩
  | some a =>
    cases b with
    | none => exact ⟨nofun, nofun⟩
    | some b =>
      rw [Option.some_beq_some, h]
      constructor
      · exact .some
      · rintro ⟨same⟩
        exact same

end Lists

/-! ## Equality is related equality of values -/

lemma Binding.beq_iff (b c : Binding) : (b == c) = true ↔ b.Related Value.Equals c := by
  cases b with
  | single v =>
    cases c with
    | single w =>
      constructor
      · exact fun same => .single same
      · rintro ⟨same⟩
        exact same
    | list ws => exact ⟨nofun, nofun⟩
  | list vs =>
    cases c with
    | single w => exact ⟨nofun, nofun⟩
    | list ws =>
      have lists := list_beq_iff (fun v w : Value => Iff.rfl) vs ws
      constructor
      · exact fun same => .list (lists.1 same)
      · rintro (_ | same)
        exact lists.2 same

lemma Predicate.beq_iff (p q : Predicate) : (p == q) = true ↔ p.Related Value.Equals q := by
  have parts : (p == q) = (p.clause == q.clause && p.binding == q.binding) := rfl
  rw [parts, Bool.and_eq_true, beq_iff_eq, option_beq_iff Binding.beq_iff]
  constructor
  · rintro ⟨clause, binding⟩
    exact ⟨clause, binding⟩
  · rintro ⟨clause, binding⟩
    exact ⟨clause, binding⟩

lemma Predicates.beq_iff (ps qs : Predicates) : (ps == qs) = true ↔ ps.Related Value.Equals qs :=
  list_beq_iff Predicate.beq_iff ps.items qs.items

lemma Assignment.beq_iff (a b : Assignment) : (a == b) = true ↔ a.Related Value.Equals b := by
  have parts : (a == b) = (a.field == b.field && a.value == b.value) := rfl
  rw [parts, Bool.and_eq_true, beq_iff_eq]
  constructor
  · rintro ⟨field, value⟩
    exact ⟨field, value⟩
  · rintro ⟨field, value⟩
    exact ⟨field, value⟩

lemma Select.beq_iff (s t : Select) : (s == t) = true ↔ s.Related Value.Equals t := by
  have parts : (s == t) = (s.table == t.table && s.columns == t.columns &&
      s.predicates == t.predicates && s.order == t.order && s.limit == t.limit &&
      s.offset == t.offset) := rfl
  simp only [parts, Bool.and_eq_true, beq_iff_eq, Predicates.beq_iff]
  constructor
  · rintro ⟨⟨⟨⟨⟨table, columns⟩, predicates⟩, order⟩, limit⟩, offset⟩
    exact ⟨table, columns, predicates, order, limit, offset⟩
  · rintro ⟨table, columns, predicates, order, limit, offset⟩
    exact ⟨⟨⟨⟨⟨table, columns⟩, predicates⟩, order⟩, limit⟩, offset⟩

lemma Insert.beq_iff (s t : Insert) : (s == t) = true ↔ s.Related Value.Equals t := by
  have parts : (s == t) = (s.table == t.table && s.columns == t.columns && s.rows == t.rows) := rfl
  have rows := list_beq_iff (list_beq_iff fun v w : Value => Iff.rfl) s.rows t.rows
  simp only [parts, Bool.and_eq_true, beq_iff_eq, rows]
  constructor
  · rintro ⟨⟨table, columns⟩, rows⟩
    exact ⟨table, columns, rows⟩
  · rintro ⟨table, columns, rows⟩
    exact ⟨⟨table, columns⟩, rows⟩

lemma Update.beq_iff (s t : Update) : (s == t) = true ↔ s.Related Value.Equals t := by
  have parts : (s == t) = (s.table == t.table && s.assignments == t.assignments &&
      s.predicates == t.predicates) := rfl
  have assignments := list_beq_iff Assignment.beq_iff s.assignments t.assignments
  simp only [parts, Bool.and_eq_true, beq_iff_eq, assignments, Predicates.beq_iff]
  constructor
  · rintro ⟨⟨table, assignments⟩, predicates⟩
    exact ⟨table, assignments, predicates⟩
  · rintro ⟨table, assignments, predicates⟩
    exact ⟨⟨table, assignments⟩, predicates⟩

lemma Statement.related_of_beq {s t : Statement} (h : (s == t) = true) :
    s.Related Value.Equals t := by
  cases s with
  | select s =>
    cases t with
    | select t => exact .select ((Select.beq_iff s t).1 h)
    | _ => cases h
  | insert s =>
    cases t with
    | insert t => exact .insert ((Insert.beq_iff s t).1 h)
    | _ => cases h
  | update s =>
    cases t with
    | update t => exact .update ((Update.beq_iff s t).1 h)
    | _ => cases h

/-- Equality is symmetric and transitive, and only what has a NaN among its values differs from
itself. -/
structure EqualityLaws (α : Type) [BEq α] (values : α → List Value) : Prop where
  symm : ∀ a b : α, (a == b) = true → (b == a) = true
  trans : ∀ a b c : α, (a == b) = true → (b == c) = true → (a == c) = true
  self : ∀ a : α, (∀ v ∈ values a, v.WellFormed) →
    ((a == a) = false ↔ ∃ x, Value.float x ∈ values a ∧ x.isNaN = true)

lemma EqualityLaws.of_related {α : Type} [BEq α] {values : α → List Value} {P : α → α → Prop}
    (beq : ∀ a b : α, (a == b) = true ↔ P a b) (partialEquivalence : PartialEquivalence P)
    (self : ∀ a, P a a ↔ ∀ v ∈ values a, v.Equals v) : EqualityLaws α values where
  symm a b same := (beq b a).2 (partialEquivalence.symm ((beq a b).1 same))
  trans a b c same same' :=
    (beq a c).2 (partialEquivalence.trans ((beq a b).1 same) ((beq b c).1 same'))
  self a wf := by
    rw [← Bool.not_eq_true, beq, self]
    constructor
    · intro differ
      refine Classical.byContradiction fun none => differ fun v mem => ?_
      refine (Value.equals_self_iff (wf v mem)).2 ?_
      rintro x rfl
      exact Bool.not_eq_true _ ▸ fun nan => none ⟨x, mem, nan⟩
    · rintro ⟨x, mem, nan⟩ same
      have number := (Value.equals_self_iff (wf _ mem)).1 (same _ mem) x rfl
      rw [nan] at number
      cases number

/-- Equality is a partial equivalence at every level, and steps and builds respect it. -/
theorem equality_laws :
    EqualityLaws Value (fun v => [v]) ∧
    (∀ n m, (Value.int n == Value.uint m) = false ∧ (Value.uint m == Value.int n) = false) ∧
    (∀ x y, (Value.float x == Value.float y) = true ↔
      x.isNaN = false ∧ y.isNaN = false ∧ x.quantity = y.quantity) ∧
    (∀ r s : Raw, (Value.raw r == Value.raw s) = true ↔ r.storage = s.storage) ∧
    (∀ as bs : List (String × Json),
      (Value.json (.ofEntries as) == Value.json (.ofEntries bs)) = true ↔
        ∀ key, Option.Rel (fun a b => (a == b) = true)
          (as.reverse.lookup key) (bs.reverse.lookup key)) ∧
    EqualityLaws Predicate Predicate.values ∧ EqualityLaws Predicates Predicates.values ∧
    EqualityLaws Select Select.values ∧ EqualityLaws Insert Insert.values ∧
    EqualityLaws Update Update.values ∧
    (∀ s t : Select, (s == t) = true → ∀ steps steps',
      List.Forall₂ (Select.Step.Related Value.Equals) steps steps' →
        (s.run steps == t.run steps') = true) ∧
    (∀ s t : Insert, (s == t) = true → ∀ steps steps',
      List.Forall₂ (Insert.Step.Related Value.Equals) steps steps' →
        (s.run steps == t.run steps') = true) ∧
    (∀ s t : Update, (s == t) = true → ∀ steps steps',
      List.Forall₂ (Update.Step.Agree Value.Equals) steps steps' →
        SameOutcome (fun s t => (s == t) = true) (s.run steps) (t.run steps')) ∧
    ∀ s t : Statement, (s == t) = true →
      SameOutcome (Query.Related Value.Equals) s.toQuery t.toQuery := by
  have values := Value.partialEquivalence_equals
  refine ⟨?_, ?_, ?_, ?_, ?_, ?_, ?_, ?_, ?_, ?_, ?_, ?_, ?_, ?_⟩
  · exact .of_related (fun _ _ => Iff.rfl) values fun v =>
      (List.forall_mem_singleton (p := fun v : Value => v.Equals v)).symm
  · exact fun n m => ⟨rfl, rfl⟩
  · exact fun x y => Binary64.numericEq_iff_quantity
  · intro r s
    show (r.storage == s.storage) = true ↔ r.storage = s.storage
    exact beq_iff_eq
  · exact Json.ofEntries_beq_iff
  · exact .of_related Predicate.beq_iff values.predicate Predicate.related_self_iff
  · exact .of_related Predicates.beq_iff values.predicates Predicates.related_self_iff
  · exact .of_related Select.beq_iff values.select Select.related_self_iff
  · exact .of_related Insert.beq_iff values.insert Insert.related_self_iff
  · exact .of_related Update.beq_iff values.update Update.related_self_iff
  · intro s t same steps steps' related
    rw [Select.beq_iff] at same ⊢
    exact same.run related
  · intro s t same steps steps' related
    rw [Insert.beq_iff] at same ⊢
    exact same.run related
  · intro s t same steps steps' agree
    simp only [Update.beq_iff] at same ⊢
    exact same.run_agree agree
  · intro s t same
    exact (Statement.related_of_beq same).toQuery

/-- The two zeros are equal and stay different; a NaN differs from itself. -/
theorem equality_laws_zeros :
    let zero : Binary64 := ⟨0⟩
    let minusZero : Binary64 := ⟨0x8000000000000000⟩
    let nan : Binary64 := ⟨0x7FF8000000000000⟩
    let s (x : Binary64) : Update := (Update.ofTable "t").assign "a" (.float x)
    let steps (x : Binary64) : List Update.Step :=
      [.assignSerial "d" .unit, .filterIf true (.condition (.isIn "f" [.float x]))]
    (s zero == s minusZero) = true ∧ (s nan == s nan) = false ∧
      SameOutcome (fun s t => (s == t) = true)
        ((s zero).run (steps zero)) ((s minusZero).run (steps minusZero)) ∧
      ∃ q r, (Statement.update (s zero)).toQuery = .ok q ∧
        (Statement.update (s minusZero)).toQuery = .ok r ∧
        q.Related Value.Equals r ∧ q.params ≠ r.params := by
  intro zero minusZero nan s steps
  obtain ⟨-, -, -, -, -, -, -, -, -, update, -, -, ran, built⟩ := equality_laws
  have zeros : Value.Equals (.float zero) (.float minusZero) := by decide
  have same : (s zero == s minusZero) = true := by decide
  have same' : (Statement.update (s zero) == .update (s minusZero)) = true := same
  have agree : List.Forall₂ (Update.Step.Agree Value.Equals) (steps zero) (steps minusZero) := by
    refine .cons ⟨.assignSerial _ ?_, ?_⟩ (.cons ⟨?_, nofun⟩ .nil)
    · rintro v w ⟨⟩ ⟨⟩
      rfl
    · rintro x y ⟨⟩ ⟨⟩
      exact .ok rfl
    · exact .filterIf _ (.condition (.isIn _ (.cons zeros .nil)))
  refine ⟨same, ?_, ran _ _ same _ _ agree, _, _, rfl, rfl, ?_, ?_⟩
  · refine (update.self (s nan) ?_).2 ⟨nan, List.mem_cons_self, by decide⟩
    intro v mem
    cases List.mem_singleton.1 mem
    trivial
  · cases built _ _ same' with
    | ok related => exact related
  · intro identical
    injection identical with first
    injection first with number
    injection number with bits
    exact absurd bits (by decide)

end BoundSql
