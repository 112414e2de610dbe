import BoundSql.Script.Select
import BoundSql.Script.Update
import Mathlib.Tactic.Lemma

/-!
# What filters add

The predicate of each filter, written out as text and values. The definitions in use assemble
clauses from parts that they share and keep the values of bindings in one function; the lemmas say
that this comes to the same, and that each method that filters adds its predicate and changes
nothing else.
-/

namespace BoundSql

/-- The values of a clause in the order of its placeholders, by the shape of its binding. -/
def Predicate.arguments (p : Predicate) : List Value :=
  match p.binding with
  | none => []
  | some (.single v) => [v]
  | some (.list vs) => vs

/-- The clause of a condition in full, and its binding. -/
def Condition.written : Condition → Predicate
  | compare field .equal v => ⟨field ++ " = ?", some (.single v)⟩
  | compare field .notEqual v => ⟨field ++ " != ?", some (.single v)⟩
  | compare field .less v => ⟨field ++ " < ?", some (.single v)⟩
  | compare field .lessOrEqual v => ⟨field ++ " <= ?", some (.single v)⟩
  | compare field .greater v => ⟨field ++ " > ?", some (.single v)⟩
  | compare field .greaterOrEqual v => ⟨field ++ " >= ?", some (.single v)⟩
  | compare field .like v => ⟨field ++ " LIKE ?", some (.single v)⟩
  | isNull field => ⟨field ++ " IS NULL", none⟩
  | isNotNull field => ⟨field ++ " IS NOT NULL", none⟩
  | isIn field vs =>
    ⟨field ++ " IN (" ++ ",".intercalate (List.replicate vs.length "?") ++ ")", some (.list vs)⟩

/-- What a filter adds: the clause of a condition in full, or a predicate as it is. -/
def Filter.written : Filter → Predicate
  | condition c => c.written
  | custom p => p

lemma Predicate.values_eq_arguments (p : Predicate) : p.values = p.arguments := by
  obtain ⟨clause, binding⟩ := p
  cases binding with
  | none => rfl
  | some b => cases b <;> rfl

lemma Condition.toPredicate_eq_written (c : Condition) : c.toPredicate = c.written := by
  cases c with
  | compare field comparison v =>
    have spaced : field ++ " " ++ comparison.operator ++ " ?" =
        field ++ (" " ++ (comparison.operator ++ " ?")) := by
      rw [String.append_assoc, String.append_assoc]
    rw [toPredicate, spaced]
    cases comparison <;> rfl
  | isNull field => rfl
  | isNotNull field => rfl
  | isIn field vs => rw [toPredicate, written, List.map_const']

lemma Filter.toPredicate_eq_written : toPredicate = written := by
  funext f
  cases f with
  | condition c => exact c.toPredicate_eq_written
  | custom p => rfl

namespace Select.Step

/-- A step that filters adds its predicate behind the earlier ones and keeps everything else. -/
lemma apply_filter (f : Filter) (s : Select) :
    (FilterSteps.filter f : Step).apply s =
      { s with predicates := ⟨s.predicates.items ++ [f.written]⟩ } := by
  rw [← Filter.toPredicate_eq_written]
  rfl

/-- The twin of a step that filters adds the same predicate, or none. -/
lemma apply_filterIf (check : Bool) (f : Filter) (s : Select) :
    (FilterSteps.filterIf check f : Step).apply s =
      { s with predicates := ⟨s.predicates.items ++ if check then [f.written] else []⟩ } := by
  cases check with
  | false => simp [FilterSteps.filterIf, apply]
  | true => exact apply_filter f s

end Select.Step

namespace Update.Step

@[inherit_doc Select.Step.apply_filter]
lemma apply_filter (f : Filter) (s : Update) :
    (FilterSteps.filter f : Step).apply s =
      .ok { s with predicates := ⟨s.predicates.items ++ [f.written]⟩ } := by
  rw [← Filter.toPredicate_eq_written]
  rfl

@[inherit_doc Select.Step.apply_filterIf]
lemma apply_filterIf (check : Bool) (f : Filter) (s : Update) :
    (FilterSteps.filterIf check f : Step).apply s =
      .ok { s with predicates := ⟨s.predicates.items ++ if check then [f.written] else []⟩ } := by
  cases check with
  | false => simp [FilterSteps.filterIf, apply]
  | true => exact apply_filter f s

end Update.Step

namespace FilterSteps

/-- A step that adds one predicate to a statement and keeps everything else, and its twin, which does
so only if a check holds. -/
structure Adds (plain : ∀ {step : Type} [FilterSteps step], step)
    (twin : ∀ {step : Type} [FilterSteps step], Bool → step) (p : Predicate) : Prop where
  select (s : Select) :
    (plain : Select.Step).apply s = { s with predicates := ⟨s.predicates.items ++ [p]⟩ }
  selectIf (check : Bool) (s : Select) : (twin check : Select.Step).apply s =
    { s with predicates := ⟨s.predicates.items ++ if check then [p] else []⟩ }
  update (s : Update) :
    (plain : Update.Step).apply s = .ok { s with predicates := ⟨s.predicates.items ++ [p]⟩ }
  updateIf (check : Bool) (s : Update) : (twin check : Update.Step).apply s =
    .ok { s with predicates := ⟨s.predicates.items ++ if check then [p] else []⟩ }

lemma Adds.of_filter {plain : ∀ {step : Type} [FilterSteps step], step}
    {twin : ∀ {step : Type} [FilterSteps step], Bool → step} (f : Filter)
    (eq : ∀ {step : Type} [FilterSteps step], (plain : step) = filter f)
    (eqIf : ∀ {step : Type} [FilterSteps step] (check : Bool),
      (twin check : step) = filterIf check f) :
    Adds plain twin f.written where
  select s := by rw [eq, Select.Step.apply_filter]
  selectIf check s := by rw [eqIf, Select.Step.apply_filterIf]
  update s := by rw [eq, Update.Step.apply_filter]
  updateIf check s := by rw [eqIf, Update.Step.apply_filterIf]

/-- What each of the methods that filter adds. -/
lemma adds_written (p : Predicate) (field : String) (v : Value) (vs : List Value) :
    Adds (wherePredicate p) (wherePredicateIf p) p ∧
    Adds (whereIsEqual field v) (whereIsEqualIf field v) ⟨field ++ " = ?", some (.single v)⟩ ∧
    Adds (whereIsNotEqual field v) (whereIsNotEqualIf field v)
      ⟨field ++ " != ?", some (.single v)⟩ ∧
    Adds (whereIsLessThan field v) (whereIsLessThanIf field v)
      ⟨field ++ " < ?", some (.single v)⟩ ∧
    Adds (whereIsLessThanOrEqualTo field v) (whereIsLessThanOrEqualToIf field v)
      ⟨field ++ " <= ?", some (.single v)⟩ ∧
    Adds (whereIsGreaterThan field v) (whereIsGreaterThanIf field v)
      ⟨field ++ " > ?", some (.single v)⟩ ∧
    Adds (whereIsGreaterThanOrEqualTo field v) (whereIsGreaterThanOrEqualToIf field v)
      ⟨field ++ " >= ?", some (.single v)⟩ ∧
    Adds (whereIsLike field v) (whereIsLikeIf field v) ⟨field ++ " LIKE ?", some (.single v)⟩ ∧
    Adds (whereIsNull field) (whereIsNullIf field) ⟨field ++ " IS NULL", none⟩ ∧
    Adds (whereIsNotNull field) (whereIsNotNullIf field) ⟨field ++ " IS NOT NULL", none⟩ ∧
    Adds (whereIn field vs) (whereInIf field vs)
      ⟨field ++ " IN (" ++ ",".intercalate (List.replicate vs.length "?") ++ ")",
        some (.list vs)⟩ := by
  refine ⟨?_, ?_, ?_, ?_, ?_, ?_, ?_, ?_, ?_, ?_, ?_⟩
  · exact .of_filter (.custom p) rfl fun _ => rfl
  · exact .of_filter (.isEqual field v) rfl fun _ => rfl
  · exact .of_filter (.isNotEqual field v) rfl fun _ => rfl
  · exact .of_filter (.isLessThan field v) rfl fun _ => rfl
  · exact .of_filter (.isLessThanOrEqualTo field v) rfl fun _ => rfl
  · exact .of_filter (.isGreaterThan field v) rfl fun _ => rfl
  · exact .of_filter (.isGreaterThanOrEqualTo field v) rfl fun _ => rfl
  · exact .of_filter (.isLike field v) rfl fun _ => rfl
  · exact .of_filter (.isNull field) rfl fun _ => rfl
  · exact .of_filter (.isNotNull field) rfl fun _ => rfl
  · exact .of_filter (.isIn field vs) rfl fun _ => rfl

end FilterSteps

end BoundSql
