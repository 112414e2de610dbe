import BoundSql.Proofs.Relation.Basic
import BoundSql.Proofs.Script.Slots

/-!
# Related scripts end with related statements

Each step of a script takes related statements to related ones, so whole runs do. Where a value
comes from plays no part: an identifier of the start, an argument of a call, or serialised data.
-/

namespace BoundSql

variable {R : Value → Value → Prop}

lemma forall₂_concat {α β : Type} {P : α → β → Prop} {as : List α} {bs : List β} {a : α} {b : β}
    (h : List.Forall₂ P as bs) (last : P a b) : List.Forall₂ P (as ++ [a]) (bs ++ [b]) :=
  List.rel_append h (.cons last .nil)

/-- A list condition has a placeholder for each value, whatever the values are. -/
lemma Condition.Related.toPredicate {c d : Condition} (h : c.Related R d) :
    c.toPredicate.Related R d.toPredicate := by
  cases h with
  | compare field comparison h => exact ⟨rfl, .some (.single h)⟩
  | isNull field => exact ⟨rfl, .none⟩
  | isNotNull field => exact ⟨rfl, .none⟩
  | @isIn field vs ws h =>
    have marks : vs.map (fun _ => "?") = ws.map (fun _ => "?") := by
      rw [List.map_const', List.map_const', h.length_eq]
    exact ⟨by simp only [Condition.toPredicate, marks], .some (.list h)⟩

lemma Filter.Related.toPredicate {f g : Filter} (h : f.Related R g) :
    f.toPredicate.Related R g.toPredicate := by
  cases h with
  | condition h => exact h.toPredicate
  | custom h => exact h

lemma Predicates.Related.push {ps qs : Predicates} {p q : Predicate} (h : ps.Related R qs)
    (last : p.Related R q) : (ps.push p).Related R (qs.push q) :=
  forall₂_concat h last

namespace Select.Related

variable {s t : Select}

lemma withTable (h : s.Related R t) (name : String) :
    (s.withTable name).Related R (t.withTable name) :=
  { h with table := rfl }

lemma withColumns (h : s.Related R t) (names : List String) :
    (s.withColumns names).Related R (t.withColumns names) :=
  { h with columns := rfl }

lemma orderedBy (h : s.Related R t) (column : String) (descending : Bool) :
    (s.orderedBy column descending).Related R (t.orderedBy column descending) :=
  { h with order := rfl }

lemma withLimit (h : s.Related R t) (n : Nat) : (s.withLimit n).Related R (t.withLimit n) :=
  { h with limit := rfl }

lemma withOffset (h : s.Related R t) (n : Nat) : (s.withOffset n).Related R (t.withOffset n) :=
  { h with offset := rfl }

lemma filter (h : s.Related R t) {f g : Filter} (hf : f.Related R g) :
    (s.filter f).Related R (t.filter g) :=
  { h with predicates := h.predicates.push hf.toPredicate }

end Select.Related

namespace Select

lemma related_empty : Select.empty.Related R Select.empty := ⟨rfl, rfl, .nil, rfl, rfl, rfl⟩

lemma Call.Related.apply {c d : Call} {s t : Select} (h : c.Related R d) (hs : s.Related R t) :
    (c.apply s).Related R (d.apply t) := by
  cases h with
  | table name => exact hs.withTable name
  | columns names => exact hs.withColumns names
  | order column descending => exact hs.orderedBy column descending
  | limit n => exact hs.withLimit n
  | offset n => exact hs.withOffset n
  | filter h => exact hs.filter h

/-- A step takes related statements to related ones. -/
lemma Step.Related.apply {a b : Step} {s t : Select} (h : a.Related R b) (hs : s.Related R t) :
    (a.apply s).Related R (b.apply t) := by
  cases h with
  | always h => exact h.apply hs
  | onlyIf check h =>
    cases check with
    | false => exact hs
    | true => exact h.apply hs
  | limitIf check n =>
    cases n with
    | none => exact hs
    | some n =>
      cases check with
      | false => exact hs
      | true => exact hs.withLimit n
  | offsetIf check n =>
    cases n with
    | none => exact hs
    | some n =>
      cases check with
      | false => exact hs
      | true => exact hs.withOffset n

lemma Origin.Related.start {o p : Origin} (h : o.Related R p) : o.start.Related R p.start := by
  cases h with
  | empty => exact related_empty
  | ofColumns columns => exact related_empty.withColumns columns
  | table t => exact (related_empty.withColumns t.selectColumns).withTable t.name
  | tableById t h =>
    have start : t.select.Related R t.select :=
      (related_empty.withColumns t.selectColumns).withTable t.name
    exact start.filter (.condition (.compare t.idColumn .equal h))

/-- A run takes related statements to related ones. -/
lemma Related.run {s t : Select} {steps steps' : List Step} (hs : s.Related R t)
    (h : List.Forall₂ (Step.Related R) steps steps') : (s.run steps).Related R (t.run steps') :=
  List.rel_foldl (fun _ _ hs _ _ step => step.apply hs) hs h

end Select

namespace Insert

lemma related_empty : Insert.empty.Related R Insert.empty := ⟨rfl, rfl, .nil⟩

lemma Related.withTable {s t : Insert} (h : s.Related R t) (name : String) :
    (s.withTable name).Related R (t.withTable name) :=
  { h with table := rfl }

lemma Related.withColumns {s t : Insert} (h : s.Related R t) (names : List String) :
    (s.withColumns names).Related R (t.withColumns names) :=
  { h with columns := rfl }

lemma Related.addRow {s t : Insert} (h : s.Related R t) {vs ws : List Value}
    (row : List.Forall₂ R vs ws) : (s.addRow vs).Related R (t.addRow ws) :=
  { h with rows := forall₂_concat h.rows row }

lemma Call.Related.apply {c d : Call} {s t : Insert} (h : c.Related R d) (hs : s.Related R t) :
    (c.apply s).Related R (d.apply t) := by
  cases h with
  | table name => exact hs.withTable name
  | columns names => exact hs.withColumns names
  | row h => exact hs.addRow h

/-- A step takes related statements to related ones. -/
lemma Step.Related.apply {a b : Step} {s t : Insert} (h : a.Related R b) (hs : s.Related R t) :
    (a.apply s).Related R (b.apply t) := by
  cases h with
  | always h => exact h.apply hs
  | rowIf check h =>
    cases check with
    | false => exact hs
    | true => exact hs.addRow h

lemma Origin.related_start (origin : Origin) : origin.start.Related R origin.start := by
  cases origin with
  | empty => exact related_empty
  | ofTable name => exact related_empty.withTable name
  | table t =>
    show t.insert.Related R t.insert
    unfold Table.insert
    split
    · exact related_empty.withTable t.name
    · exact (related_empty.withTable t.name).withColumns t.insertColumns

/-- A run takes related statements to related ones. -/
lemma Related.run {s t : Insert} {steps steps' : List Step} (hs : s.Related R t)
    (h : List.Forall₂ (Step.Related R) steps steps') : (s.run steps).Related R (t.run steps') :=
  List.rel_foldl (fun _ _ hs _ _ step => step.apply hs) hs h

end Insert

namespace Update

lemma related_empty : Update.empty.Related R Update.empty := ⟨rfl, .nil, .nil⟩

lemma Related.withTable {s t : Update} (h : s.Related R t) (name : String) :
    (s.withTable name).Related R (t.withTable name) :=
  { h with table := rfl }

lemma Related.assign {s t : Update} (h : s.Related R t) (field : String) {v w : Value}
    (hv : R v w) : (s.assign field v).Related R (t.assign field w) :=
  { h with assignments := forall₂_concat h.assignments ⟨rfl, hv⟩ }

lemma Related.filter {s t : Update} (h : s.Related R t) {f g : Filter} (hf : f.Related R g) :
    (s.filter f).Related R (t.filter g) :=
  { h with predicates := h.predicates.push hf.toPredicate }

lemma Call.Related.apply {c d : Call} {s t : Update} (h : c.Related R d) (hs : s.Related R t) :
    (c.apply s).Related R (d.apply t) := by
  cases h with
  | table name => exact hs.withTable name
  | assign field h => exact hs.assign field h
  | filter h => exact hs.filter h

/-- A step that both sides can take takes related statements to related ones. -/
lemma Step.Related.apply {a b : Step} {s t s' t' : Update} (h : a.Related R b) (hs : s.Related R t)
    (taken : a.apply s = .ok s') (taken' : b.apply t = .ok t') : s'.Related R t' := by
  cases h with
  | always h =>
    cases taken
    cases taken'
    exact h.apply hs
  | assignIf check field h =>
    cases taken
    cases taken'
    cases check with
    | false => exact hs
    | true => exact hs.assign field h
  | filterIf check h =>
    cases taken
    cases taken'
    cases check with
    | false => exact hs
    | true => exact hs.filter h
  | assignOption field h =>
    cases h with
    | none =>
      cases taken
      cases taken'
      exact hs
    | some h =>
      cases taken
      cases taken'
      exact hs.assign field h
  | assignSerial field h =>
    obtain ⟨v, serialised, rfl⟩ := assignSerial_eq_ok taken
    obtain ⟨w, serialised', rfl⟩ := assignSerial_eq_ok taken'
    exact hs.assign field (h v w serialised serialised')

lemma Origin.Related.start {o p : Origin} (h : o.Related R p) : o.start.Related R p.start := by
  cases h with
  | empty => exact related_empty
  | ofTable name => exact related_empty.withTable name
  | table t => exact related_empty.withTable t.name
  | tableById t h =>
    exact (related_empty.withTable t.name).filter (.condition (.compare t.idColumn .equal h))

/-- A run that both sides complete takes related statements to related ones. -/
lemma Related.run {s t s' t' : Update} {steps steps' : List Step} (hs : s.Related R t)
    (h : List.Forall₂ (Step.Related R) steps steps') (run : s.run steps = .ok s')
    (run' : t.run steps' = .ok t') : s'.Related R t' := by
  -- the statements before the steps vary, their relation is the invariant
  induction h generalizing s t with
  | nil =>
    cases run
    cases run'
    exact hs
  | cons step _ ih =>
    rw [run_cons] at run run'
    obtain ⟨s₁, taken, rest⟩ := bind_eq_ok run
    obtain ⟨t₁, taken', rest'⟩ := bind_eq_ok run'
    exact ih (step.apply hs taken taken') rest rest'

end Update

/-- Related scripts end with related statements, if both end. -/
lemma Script.Related.statement {a b : Script} {s t : Statement} (h : a.Related R b)
    (reached : a.statement = .ok s) (reached' : b.statement = .ok t) : s.Related R t := by
  cases h with
  | select origin h =>
    cases reached
    cases reached'
    exact .select (origin.start.run h)
  | insert origin h =>
    cases reached
    cases reached'
    exact .insert (origin.related_start.run h)
  | update origin h =>
    obtain ⟨s', run, rfl⟩ := statement_update_eq_ok reached
    obtain ⟨t', run', rfl⟩ := statement_update_eq_ok reached'
    exact .update (origin.start.run h run run')

end BoundSql
