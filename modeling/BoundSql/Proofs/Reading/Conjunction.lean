import BoundSql.Proofs.ById
import BoundSql.Proofs.Reading.Clause
import Mathlib.Data.List.Induction

/-!
# What the predicates of a statement say together

The clauses of predicates are joined by `AND` as they are. Their text is an expression that is true
where each clause is. It says no less than a clause does if no other clause has an `OR` outside of
parentheses, and so predicates without one are a conjunction, and a further predicate without one
takes rows away at most. An `OR` outside of parentheses reaches over the `AND` beside its clause: the
text can then be true where another clause is not.
-/

namespace BoundSql

variable {ι : Type} {bound : Predicate → List ι} {σ : List (Token ι) → Bool}

/-- The clause is an expression, and there is something for each of its question marks. -/
def Predicate.Readable (bound : Predicate → List ι) (l : Precedence) (p : Predicate) : Prop :=
  (bound p).length = marks p.clause ∧ ∃ e, ReadsAs l p.clause (bound p) e

lemma Predicate.Readable.disjunction {p : Predicate} (h : p.Readable bound .conjunction) :
    p.Readable bound .disjunction := by
  obtain ⟨fits, e, reads⟩ := h
  exact ⟨fits, e, reads.disjunction⟩

namespace Predicates

/-- A row for which these atoms are true is among those that the predicates let through. -/
def Match (bound : Predicate → List ι) (σ : List (Token ι) → Bool) (ps : Predicates) : Prop :=
  ps.items = [] ∨ Holds σ ps.toQuery.sql (ps.items.flatMap bound)

variable {ps : Predicates} {p : Predicate}

lemma sql_single (p : Predicate) : (⟨[p]⟩ : Predicates).toQuery.sql = p.clause := by
  simp [toQuery, Query.join, Predicate.toQuery]

/-- The clause of a further predicate stands behind `AND`. -/
lemma sql_push (ne : ps.items ≠ []) (p : Predicate) :
    (ps.push p).toQuery.sql = ps.toQuery.sql ++ " AND " ++ p.clause := by
  obtain ⟨q, others, e⟩ := List.exists_cons_of_ne_nil ne
  have whole : (ps.push p).toQuery = ps.toQuery ++ .text " AND " ++ p.toQuery := by
    unfold push toQuery
    simp only [e, List.cons_append, List.map_cons, List.map_append, List.map_nil, Query.join_cons,
      Query.joinRest_append, Query.joinRest, Query.append_assoc, Query.append_empty]
  rw [whole]
  rfl

lemma flatMap_push (bound : Predicate → List ι) (ps : Predicates) (p : Predicate) :
    (ps.push p).items.flatMap bound = ps.items.flatMap bound ++ bound p := by
  simp [push]

lemma push_ne_nil (ps : Predicates) (p : Predicate) : (ps.push p).items ≠ [] :=
  List.concat_ne_nil p ps.items

/-- Lists of predicates grow from a single one by further ones. -/
@[elab_as_elim]
lemma push_induction {motive : (ps : Predicates) → ps.items ≠ [] → Prop}
    (single : ∀ p, motive ⟨[p]⟩ (List.cons_ne_nil p []))
    (push : ∀ ps p ne, motive ps ne → motive (ps.push p) (push_ne_nil ps p)) (ps : Predicates)
    (ne : ps.items ≠ []) : motive ps ne := by
  obtain ⟨items⟩ := ps
  induction items using List.reverseRecOn with
  | nil => exact (ne rfl).elim
  | append_singleton items p ih =>
    by_cases first : items = []
    · subst first
      exact single p
    · exact push ⟨items⟩ p first (ih first)

lemma forall_push {P : Predicate → Prop} :
    (∀ q ∈ (ps.push p).items, P q) ↔ (∀ q ∈ ps.items, P q) ∧ P p := by
  simp [push, or_imp, forall_and]

/-- The question marks of all clauses stand for something if those of each clause do. -/
lemma length_flatMap_eq (ne : ps.items ≠ [])
    (fits : ∀ p ∈ ps.items, (bound p).length = marks p.clause) :
    (ps.items.flatMap bound).length = marks ps.toQuery.sql := by
  induction ps, ne using push_induction with
  | single p => simpa [sql_single] using fits
  | push ps p ne ih =>
    obtain ⟨earlier, last⟩ := forall_push.1 fits
    have separator : Unmarked " AND " := by decide
    rw [flatMap_push, List.length_append, ih earlier, last, sql_push ne, marks_append, marks_append,
      separator.marks_eq, Nat.add_zero]

/-- What `AND` in front of the clause of a further predicate makes of the clauses. -/
lemma exists_push {e f : Expr (List (Token ι))} (ne : ps.items ≠ [])
    (fits : ∀ q ∈ ps.items, (bound q).length = marks q.clause)
    (earlier : ReadsAs .disjunction ps.toQuery.sql (ps.items.flatMap bound) e)
    (last : ReadsAs .disjunction p.clause (bound p) f) :
    ∃ g, ReadsAs .disjunction (ps.push p).toQuery.sql ((ps.push p).items.flatMap bound) g ∧ ∀ σ,
      (e.holds σ = true → f.holds σ = true → g.holds σ = true) ∧
      (ReadsAs .conjunction p.clause (bound p) f → g.holds σ = true → e.holds σ = true) ∧
      (ReadsAs .conjunction ps.toQuery.sql (ps.items.flatMap bound) e →
        g.holds σ = true → f.holds σ = true) := by
  rw [flatMap_push, sql_push ne]
  exact earlier.exists_and (length_flatMap_eq ne fits) last

/-- The clauses are an expression, which is true where all of them are. -/
lemma exists_disjunction (ne : ps.items ≠ [])
    (readable : ∀ p ∈ ps.items, p.Readable bound .disjunction) :
    ∃ e, ReadsAs .disjunction ps.toQuery.sql (ps.items.flatMap bound) e ∧
      ∀ σ, (∀ p ∈ ps.items, Holds σ p.clause (bound p)) → e.holds σ = true := by
  induction ps, ne using push_induction with
  | single p =>
    obtain ⟨-, e, reads⟩ := readable p List.mem_cons_self
    refine ⟨e, by simpa [sql_single] using reads, fun σ all => ?_⟩
    exact (reads.holds_iff σ).1 (all p List.mem_cons_self)
  | push ps p ne ih =>
    obtain ⟨readable, -, f, last⟩ := forall_push.1 readable
    obtain ⟨e, earlier, holds⟩ := ih readable
    obtain ⟨g, reads, known⟩ := exists_push ne (fun q mem => (readable q mem).1) earlier last
    refine ⟨g, reads, fun σ all => ?_⟩
    obtain ⟨all, also⟩ := forall_push.1 all
    exact (known σ).1 (holds σ all) ((last.holds_iff σ).1 also)

lemma exists_conjunction (ne : ps.items ≠ [])
    (readable : ∀ p ∈ ps.items, p.Readable bound .conjunction) :
    ∃ e, ReadsAs .conjunction ps.toQuery.sql (ps.items.flatMap bound) e := by
  induction ps, ne using push_induction with
  | single p =>
    obtain ⟨-, e, reads⟩ := readable p List.mem_cons_self
    exact ⟨e, by simpa [sql_single] using reads⟩
  | push ps p ne ih =>
    obtain ⟨readable, -, f, last⟩ := forall_push.1 readable
    obtain ⟨e, earlier⟩ := ih readable
    rw [flatMap_push, sql_push ne]
    exact earlier.and_conjunction (length_flatMap_eq ne fun q mem => (readable q mem).1) last

/-- A further predicate without an `OR` outside of parentheses lets no other rows through. -/
lemma match_of_push (readable : ∀ q ∈ ps.items, q.Readable bound .disjunction)
    (further : p.Readable bound .conjunction) (h : (ps.push p).Match bound σ) :
    ps.Match bound σ := by
  by_cases ne : ps.items = []
  · exact .inl ne
  · obtain ⟨e, earlier, -⟩ := exists_disjunction ne readable
    obtain ⟨-, f, last⟩ := further
    obtain ⟨g, reads, known⟩ :=
      exists_push ne (fun q mem => (readable q mem).1) earlier last.disjunction
    have holds := (reads.holds_iff σ).1 (h.resolve_left (push_ne_nil ps p))
    exact .inr ((earlier.holds_iff σ).2 ((known σ).2.1 last holds))

/-- Neither do any number of further predicates. -/
lemma match_of_append {further : List Predicate}
    (readable : ∀ q ∈ ps.items, q.Readable bound .disjunction)
    (later : ∀ q ∈ further, q.Readable bound .conjunction)
    (h : Match bound σ ⟨ps.items ++ further⟩) : ps.Match bound σ := by
  induction further generalizing ps with
  | nil => simpa using h
  | cons p further ih =>
    obtain ⟨first, later⟩ := List.forall_mem_cons.1 later
    apply match_of_push readable first
    exact ih (forall_push.2 ⟨readable, first.disjunction⟩) later (by simpa [push] using h)

/-- The text is true where all clauses are. -/
lemma holds_of_forall (ne : ps.items ≠ [])
    (readable : ∀ p ∈ ps.items, p.Readable bound .disjunction)
    (all : ∀ p ∈ ps.items, Holds σ p.clause (bound p)) :
    Holds σ ps.toQuery.sql (ps.items.flatMap bound) := by
  obtain ⟨e, reads, holds⟩ := exists_disjunction ne readable
  exact (reads.holds_iff σ).2 (holds σ all)

/-- A clause is true where the text is, if no other clause has an `OR` outside of parentheses. -/
lemma clause_holds {before after : List Predicate} (items : ps.items = before ++ p :: after)
    (hp : p.Readable bound .disjunction)
    (apart : ∀ q ∈ before ++ after, q.Readable bound .conjunction)
    (h : Holds σ ps.toQuery.sql (ps.items.flatMap bound)) : Holds σ p.clause (bound p) := by
  obtain ⟨items'⟩ := ps
  obtain rfl : items' = before ++ p :: after := items
  obtain ⟨earlier, later⟩ := List.forall_mem_append.1 apart
  have readable : ∀ q ∈ (push ⟨before⟩ p).items, q.Readable bound .disjunction :=
    forall_push.2 ⟨fun q mem => (earlier q mem).disjunction, hp⟩
  -- what stands behind the clause takes truth away at most
  have upTo : (push ⟨before⟩ p).Match bound σ :=
    match_of_append readable later (.inr (by simpa [push] using h))
  have holds := upTo.resolve_left (push_ne_nil _ p)
  by_cases ne : before = []
  · simpa [ne, push, sql_single] using holds
  · obtain ⟨-, f, last⟩ := hp
    obtain ⟨e, conjunction⟩ := exists_conjunction (show (⟨before⟩ : Predicates).items ≠ [] from ne)
      earlier
    obtain ⟨g, reads, known⟩ :=
      exists_push ne (fun q mem => (earlier q mem).1) conjunction.disjunction last
    exact (last.holds_iff σ).2 ((known σ).2.2 conjunction ((reads.holds_iff σ).1 holds))

/-- The text says what the clauses say if none of them has an `OR` outside of parentheses. -/
lemma holds_iff_forall (ne : ps.items ≠ [])
    (apart : ∀ p ∈ ps.items, p.Readable bound .conjunction) :
    Holds σ ps.toQuery.sql (ps.items.flatMap bound) ↔
      ∀ p ∈ ps.items, Holds σ p.clause (bound p) := by
  have readable := fun p mem => (apart p mem).disjunction
  refine ⟨fun h p mem => ?_, holds_of_forall ne readable⟩
  obtain ⟨before, after, items⟩ := List.append_of_mem mem
  refine clause_holds items (readable p mem) (fun q other => apart q ?_) h
  rw [items]
  exact ((List.sublist_cons_self p after).append_left before).subset other

end Predicates

/-- The text of predicates has one reading, and is true where each clause is. Where it is true, a
clause is true beside clauses without an `OR` outside of parentheses, and all clauses are if none has
one. A statement to which filters without one are added matches no other rows; ready-made conditions
on operands have none. -/
theorem predicates_conjoin (bound : Predicate → List ι) :
    (∀ (ps : Predicates) (params : List Value), ps.items ≠ [] →
      (∀ p ∈ ps.items, p.Readable bound .disjunction) →
      (∃! e, ReadsAs .disjunction (ps.build params).sql (ps.items.flatMap bound) e) ∧
      ∀ σ, ((∀ p ∈ ps.items, Holds σ p.clause (bound p)) →
          Holds σ (ps.build params).sql (ps.items.flatMap bound)) ∧
        (∀ before p after, ps.items = before ++ p :: after →
          (∀ q ∈ before ++ after, q.Readable bound .conjunction) →
          Holds σ (ps.build params).sql (ps.items.flatMap bound) → Holds σ p.clause (bound p)) ∧
        ((∀ p ∈ ps.items, p.Readable bound .conjunction) →
          (Holds σ (ps.build params).sql (ps.items.flatMap bound) ↔
            ∀ p ∈ ps.items, Holds σ p.clause (bound p)))) ∧
    (∀ (s : Select) (cs : List Select.Call) (σ : List (Token ι) → Bool),
      (∀ p ∈ s.predicates.items, p.Readable bound .disjunction) →
      (∀ f ∈ cs.filterMap Select.Call.filter?, f.toPredicate.Readable bound .conjunction) →
      (s.calls cs).predicates.Match bound σ → s.predicates.Match bound σ) ∧
    (∀ (s : Update) (cs : List Update.Call) (σ : List (Token ι) → Bool),
      (∀ p ∈ s.predicates.items, p.Readable bound .disjunction) →
      (∀ f ∈ cs.filterMap Update.Call.filter?, f.toPredicate.Readable bound .conjunction) →
      (s.calls cs).predicates.Match bound σ → s.predicates.Match bound σ) ∧
    ∀ (c : Condition) (is js : List ι) (ts : List (Token ι)), bound c.toPredicate = is ++ js →
      tokens? c.field is = some ts → IsOperand ts → is.length = marks c.field →
      js.length = c.toPredicate.values.length →
      (∃ us, ReadsAs .factor c.toPredicate.clause (bound c.toPredicate) (.atom us)) ∧
        c.toPredicate.Readable bound .conjunction := by
  refine ⟨?_, ?_, ?_, ?_⟩
  · intro ps params ne readable
    obtain ⟨e, reads, -⟩ := Predicates.exists_disjunction ne readable
    refine ⟨⟨e, reads, fun f h => h.unique reads⟩, fun σ => ⟨?_, ?_, ?_⟩⟩
    · exact Predicates.holds_of_forall ne readable
    · intro before p after items apart h
      exact Predicates.clause_holds items (readable p (by simp [items])) apart h
    · exact Predicates.holds_iff_forall ne
  · intro s cs σ readable later h
    refine Predicates.match_of_append readable (List.forall_mem_map.2 later) ?_
    rwa [← Select.items_calls]
  · intro s cs σ readable later h
    refine Predicates.match_of_append readable (List.forall_mem_map.2 later) ?_
    rwa [← Update.items_calls]
  · intro c is js ts labels field operand fits fits'
    have values : c.toPredicate.values = c.operand.params := by
      have params := congrArg Query.params c.toQuery_eq
      simpa [Predicate.toQuery] using params
    obtain ⟨us, reads⟩ := c.reads_atom field operand fits (values ▸ fits')
    rw [← labels] at reads
    refine ⟨⟨us, reads⟩, ?_, _, reads.conjunction⟩
    have excess := c.excess_toPredicate
    rw [Predicate.excess] at excess
    rw [labels, List.length_append]
    omega

/-- The tokens of a comparison with what a question mark stands for. -/
def comparison (name : List Char) (i : ι) : List (Token ι) :=
  [.word name [], .word ['='] [], .word ['?'] [i]]

lemma isAtom_comparison (name : List Char) (i : ι) : IsAtom (comparison name i) :=
  isAtom_words (List.cons_ne_nil _ _) (by simp [comparison, Token.isWord])

/-- A negated choice keeps to itself behind the condition on an identifier, and a choice that does
not is still true where the text is. -/
theorem predicates_conjoin_negated :
    let id := (Condition.compare "id" .equal (.int 7)).toPredicate
    let choice : Predicate := ⟨"a = ? OR b = ?", some (.list [.int 1, .int 2])⟩
    let negated : Predicate := ⟨"NOT (a = ? OR b = ?)", some (.list [.int 1, .int 2])⟩
    let ps : Predicates := ⟨[id, negated]⟩
    let qs : Predicates := ⟨[id, choice]⟩
    let t := Table.named "t"
    (ps.build []).sql = "id = ? AND NOT (a = ? OR b = ?)" ∧
      (∃! e, ReadsAs .disjunction (ps.build []).sql (ps.items.flatMap Predicate.values) e) ∧
      (∀ σ, Holds σ (ps.build []).sql (ps.items.flatMap Predicate.values) ↔
        ∀ p ∈ ps.items, Holds σ p.clause p.values) ∧
      (∀ σ, Holds σ (qs.build []).sql (qs.items.flatMap Predicate.values) →
        Holds σ choice.clause choice.values) ∧
      (∀ σ, ((t.selectById (.int 7)).calls
          [.filter (.custom negated), .limit 3]).predicates.Match Predicate.values σ →
        (t.selectById (.int 7)).predicates.Match Predicate.values σ) ∧
      ∀ σ, ((t.updateById (.int 7)).calls
          [.table "u", .filter (.custom negated)]).predicates.Match Predicate.values σ →
        (t.updateById (.int 7)).predicates.Match Predicate.values σ := by
  intro id choice negated ps qs t
  obtain ⟨joined, select, update, condition⟩ := predicates_conjoin Predicate.values
  have a := isAtom_comparison ['a'] (Value.int 1)
  have b := isAtom_comparison ['b'] (Value.int 2)
  have name : IsOperand [Token.word ['i', 'd'] ([] : List Value)] :=
    (isAtom_words (List.cons_ne_nil _ _) (by simp [Token.isWord])).toIsOperand
  have hid : id.Readable Predicate.values .conjunction :=
    (condition (.compare "id" .equal (.int 7)) [] [.int 7] _ rfl rfl name rfl rfl).2
  have either := Reads.or (.conjunction (.factor (.atom a))) (.factor (.atom b))
  have tokens : tokens? "a = ? OR b = ?" [Value.int 1, .int 2] =
      some (comparison ['a'] (.int 1) ++ .or :: comparison ['b'] (.int 2)) := rfl
  have hchoice : choice.Readable Predicate.values .disjunction :=
    ⟨by decide, _, _, tokens, either⟩
  have tokens' : tokens? "NOT (a = ? OR b = ?)" [Value.int 1, .int 2] =
      some (.not :: .opening :: (comparison ['a'] (.int 1) ++ .or :: comparison ['b'] (.int 2) ++
        [.closing])) := rfl
  have hnegated : negated.Readable Predicate.values .conjunction :=
    ⟨by decide, _, _, tokens', .factor (.not (.group either))⟩
  have hps : ∀ p ∈ ps.items, p.Readable Predicate.values .conjunction :=
    List.forall_mem_cons.2 ⟨hid, List.forall_mem_singleton.2 hnegated⟩
  have hqs : ∀ p ∈ qs.items, p.Readable Predicate.values .disjunction :=
    List.forall_mem_cons.2 ⟨hid.disjunction, List.forall_mem_singleton.2 hchoice⟩
  have start : ∀ p ∈ [id], p.Readable Predicate.values .disjunction :=
    List.forall_mem_singleton.2 hid.disjunction
  have filters : ∀ f ∈ [Filter.custom negated],
      f.toPredicate.Readable Predicate.values .conjunction :=
    List.forall_mem_singleton.2 hnegated
  obtain ⟨reads, holds⟩ := joined ps [] (List.cons_ne_nil _ _) fun p mem => (hps p mem).disjunction
  obtain ⟨-, holds'⟩ := joined qs [] (List.cons_ne_nil _ _) hqs
  refine ⟨by decide, reads, fun σ => (holds σ).2.2 hps, fun σ => ?_, fun σ => ?_, fun σ => ?_⟩
  · exact (holds' σ).2.1 [id] choice [] rfl (List.forall_mem_singleton.2 hid)
  · exact select (t.selectById (.int 7)) [.filter (.custom negated), .limit 3] σ start filters
  · exact update (t.updateById (.int 7)) [.table "u", .filter (.custom negated)] σ start filters

/-- A choice that is not in parentheses lets rows through for which the condition on an identifier in
front of it is false. -/
theorem choice_beside_identifier :
    let id := (Condition.compare "id" .equal (.int 7)).toPredicate
    let choice : Predicate := ⟨"a = ? OR b = ?", some (.list [.int 1, .int 2])⟩
    let ps : Predicates := ⟨[id, choice]⟩
    let s := (Table.named "t").updateById (.int 7)
    (∀ p ∈ ps.items, p.Readable Predicate.values .disjunction) ∧
      (ps.build []).sql = "id = ? AND a = ? OR b = ?" ∧
      ∃ σ, Holds σ (ps.build []).sql (ps.items.flatMap Predicate.values) ∧
        ¬ Holds σ id.clause id.values ∧
        (s.filter (.custom choice)).predicates.Match Predicate.values σ ∧
        ¬ s.predicates.Match Predicate.values σ := by
  intro id choice ps s
  let i := comparison ['i', 'd'] (Value.int 7)
  let a := comparison ['a'] (Value.int 1)
  let b := comparison ['b'] (Value.int 2)
  have hi : Reads .conjunction i (.atom i) := .factor (.atom (isAtom_comparison _ _))
  have ha : Reads .factor a (.atom a) := .atom (isAtom_comparison _ _)
  have hb : Reads .conjunction b (.atom b) := .factor (.atom (isAtom_comparison _ _))
  have first : ReadsAs .disjunction "id = ?" [Value.int 7] (.atom i) := ⟨i, rfl, .conjunction hi⟩
  have second : ReadsAs .disjunction "a = ? OR b = ?" [Value.int 1, .int 2]
      (.or (.atom a) (.atom b)) :=
    ⟨a ++ .or :: b, rfl, .or (.conjunction (.factor ha)) hb⟩
  have both : ReadsAs .disjunction "id = ? AND a = ? OR b = ?" [Value.int 7, .int 1, .int 2]
      (.or (.and (.atom i) (.atom a)) (.atom b)) :=
    ⟨i ++ .and :: a ++ .or :: b, rfl, .or (.conjunction (.and hi ha)) hb⟩
  have clause : id.clause = "id = ?" := by decide
  have text : (ps.build []).sql = "id = ? AND a = ? OR b = ?" := by decide
  -- only what is said of `b` is true
  classical
  let σ (ts : List (Token Value)) : Bool := ts = b
  have holds : Holds σ (ps.build []).sql (ps.items.flatMap Predicate.values) := by
    rw [text]
    exact (both.holds_iff σ).2 (by simp [Expr.holds, σ])
  have fails : ¬ Holds σ id.clause id.values := by
    rw [clause]
    intro h
    have false := (first.holds_iff σ).1 h
    simp [Expr.holds, σ, i, b, comparison] at false
  refine ⟨?_, text, σ, holds, fails, .inr holds, ?_⟩
  · have hid : id.Readable Predicate.values .disjunction := ⟨by decide, _, clause ▸ first⟩
    exact List.forall_mem_cons.2 ⟨hid, List.forall_mem_singleton.2 ⟨by decide, _, second⟩⟩
  · have only : s.predicates.toQuery.sql = id.clause := by decide
    rintro (none | h)
    · cases none
    · rw [only] at h
      exact fails h

end BoundSql
