import BoundSql.Proofs.Script.Basic
import Mathlib.Data.List.Forall2

/-!
# Scripts that differ in their values

A relation of values is lifted to all that values occur in: statements and their parts, the scripts
that put them together, and the queries that they are built to. Whatever is not a value is the same
on both sides, and lists of values are related place by place.
-/

namespace BoundSql

variable (R : Value → Value → Prop)

/-- Bindings of one shape, of related values. -/
inductive Binding.Related : Binding → Binding → Prop
  | single {v w : Value} (h : R v w) : Related (single v) (single w)
  | list {vs ws : List Value} (h : List.Forall₂ R vs ws) : Related (list vs) (list ws)

/-- Predicates of one clause, bound to related values. -/
structure Predicate.Related (p q : Predicate) : Prop where
  clause : p.clause = q.clause
  binding : Option.Rel (Binding.Related R) p.binding q.binding

/-- Conditions of one kind on one field. -/
inductive Condition.Related : Condition → Condition → Prop
  | compare (field : String) (comparison : Comparison) {v w : Value} (h : R v w) :
    Related (compare field comparison v) (compare field comparison w)
  | isNull (field : String) : Related (isNull field) (isNull field)
  | isNotNull (field : String) : Related (isNotNull field) (isNotNull field)
  | isIn (field : String) {vs ws : List Value} (h : List.Forall₂ R vs ws) :
    Related (isIn field vs) (isIn field ws)

/-- Related conditions, or related predicates that are written by hand. -/
inductive Filter.Related : Filter → Filter → Prop
  | condition {c d : Condition} (h : c.Related R d) : Related (condition c) (condition d)
  | custom {p q : Predicate} (h : p.Related R q) : Related (custom p) (custom q)

/-- Lists of predicates that are related place by place. -/
def Predicates.Related (ps qs : Predicates) : Prop :=
  List.Forall₂ (Predicate.Related R) ps.items qs.items

/-- Assignments of related values to one field. -/
structure Assignment.Related (a b : Assignment) : Prop where
  field : a.field = b.field
  value : R a.value b.value

/-- One text with related values. -/
structure Query.Related (q r : Query) : Prop where
  sql : q.sql = r.sql
  params : List.Forall₂ R q.params r.params

/-- SELECT statements that differ in the values of their predicates. -/
structure Select.Related (s t : Select) : Prop where
  table : s.table = t.table
  columns : s.columns = t.columns
  predicates : s.predicates.Related R t.predicates
  order : s.order = t.order
  limit : s.limit = t.limit
  offset : s.offset = t.offset

/-- The same change, with related values. -/
inductive Select.Call.Related : Call → Call → Prop
  | table (name : String) : Related (table name) (table name)
  | columns (names : List String) : Related (columns names) (columns names)
  | order (column : String) (descending : Bool) :
    Related (order column descending) (order column descending)
  | limit (n : Nat) : Related (limit n) (limit n)
  | offset (n : Nat) : Related (offset n) (offset n)
  | filter {f g : Filter} (h : f.Related R g) : Related (filter f) (filter g)

/-- The same step on the same check, with related values. -/
inductive Select.Step.Related : Step → Step → Prop
  | always {c d : Call} (h : c.Related R d) : Related (always c) (always d)
  | onlyIf (check : Bool) {c d : Call} (h : c.Related R d) :
    Related (onlyIf check c) (onlyIf check d)
  | limitIf (check : Bool) (n : Option Nat) : Related (limitIf check n) (limitIf check n)
  | offsetIf (check : Bool) (n : Option Nat) : Related (offsetIf check n) (offsetIf check n)

/-- The same start, with related identifiers. -/
inductive Select.Origin.Related : Origin → Origin → Prop
  | empty : Related empty empty
  | ofColumns (columns : List String) : Related (ofColumns columns) (ofColumns columns)
  | table (t : Table) : Related (table t) (table t)
  | tableById (t : Table) {v w : Value} (h : R v w) : Related (tableById t v) (tableById t w)

/-- INSERT statements of rows of the same lengths, of related values. -/
structure Insert.Related (s t : Insert) : Prop where
  table : s.table = t.table
  columns : s.columns = t.columns
  rows : List.Forall₂ (List.Forall₂ R) s.rows t.rows

@[inherit_doc Select.Call.Related]
inductive Insert.Call.Related : Call → Call → Prop
  | table (name : String) : Related (table name) (table name)
  | columns (names : List String) : Related (columns names) (columns names)
  | row {vs ws : List Value} (h : List.Forall₂ R vs ws) : Related (row vs) (row ws)

@[inherit_doc Select.Step.Related]
inductive Insert.Step.Related : Step → Step → Prop
  | always {c d : Call} (h : c.Related R d) : Related (always c) (always d)
  | rowIf (check : Bool) {vs ws : List Value} (h : List.Forall₂ R vs ws) :
    Related (rowIf check vs) (rowIf check ws)

/-- UPDATE statements that differ in the values of their assignments and predicates. -/
structure Update.Related (s t : Update) : Prop where
  table : s.table = t.table
  assignments : List.Forall₂ (Assignment.Related R) s.assignments t.assignments
  predicates : s.predicates.Related R t.predicates

@[inherit_doc Select.Call.Related]
inductive Update.Call.Related : Call → Call → Prop
  | table (name : String) : Related (table name) (table name)
  | assign (field : String) {v w : Value} (h : R v w) : Related (assign field v) (assign field w)
  | filter {f g : Filter} (h : f.Related R g) : Related (filter f) (filter g)

/-- The same step on the same check, with related values; what serialised data becomes counts, if it
becomes anything. -/
inductive Update.Step.Related : Step → Step → Prop
  | always {c d : Call} (h : c.Related R d) : Related (always c) (always d)
  | assignIf (check : Bool) (field : String) {v w : Value} (h : R v w) :
    Related (assignIf check field v) (assignIf check field w)
  | filterIf (check : Bool) {f g : Filter} (h : f.Related R g) :
    Related (filterIf check f) (filterIf check g)
  | assignOption (field : String) {v w : Option Value} (h : Option.Rel R v w) :
    Related (assignOption field v) (assignOption field w)
  | assignSerial (field : String) {x y : Serial}
    (h : ∀ v w, Value.ofSerial x = .ok v → Value.ofSerial y = .ok w → R v w) :
    Related (assignSerial field x) (assignSerial field y)

@[inherit_doc Select.Origin.Related]
inductive Update.Origin.Related : Origin → Origin → Prop
  | empty : Related empty empty
  | ofTable (name : String) : Related (ofTable name) (ofTable name)
  | table (t : Table) : Related (table t) (table t)
  | tableById (t : Table) {v w : Value} (h : R v w) : Related (tableById t v) (tableById t w)

/-- Statements of one kind that differ in their values. -/
inductive Statement.Related : Statement → Statement → Prop
  | select {s t : Select} (h : s.Related R t) : Related (select s) (select t)
  | insert {s t : Insert} (h : s.Related R t) : Related (insert s) (insert t)
  | update {s t : Update} (h : s.Related R t) : Related (update s) (update t)

/-- Scripts that take the same steps with related values. -/
inductive Script.Related : Script → Script → Prop
  | select {o p : Select.Origin} {steps steps' : List Select.Step}
    (origin : o.Related R p) (h : List.Forall₂ (Select.Step.Related R) steps steps') :
    Related (select o steps) (select p steps')
  | insert (origin : Insert.Origin) {steps steps' : List Insert.Step}
    (h : List.Forall₂ (Insert.Step.Related R) steps steps') :
    Related (insert origin steps) (insert origin steps')
  | update {o p : Update.Origin} {steps steps' : List Update.Step}
    (origin : o.Related R p) (h : List.Forall₂ (Update.Step.Related R) steps steps') :
    Related (update o steps) (update p steps')

/-- Scripts that agree in everything but their values. -/
def Script.Alike : Script → Script → Prop := Related fun _ _ => True

end BoundSql
