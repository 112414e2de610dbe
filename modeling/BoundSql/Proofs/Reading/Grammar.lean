import BoundSql.Proofs.Reading.Token

/-!
# Reading boolean expressions

Tokens are read as a boolean expression: `NOT` binds more tightly than `AND`, and `AND` more tightly
than `OR`. An atom is any run of tokens that no connective outside of parentheses takes apart; what
makes it true is left open. The `AND` of `BETWEEN` is not told from others. Tokens have at most one
reading, since a connective outside of parentheses is found by counting the parentheses in front of
it. An `AND` between two expressions joins them as a whole only where no `OR` of theirs is outside of
parentheses.
-/

namespace BoundSql

variable {ι : Type}

/-- How many more parentheses are open behind a token than in front of it. -/
def Token.rise : Token ι → Int
  | opening => 1
  | closing => -1
  | _ => 0

/-- How many more parentheses are open behind tokens than in front of them. -/
def depth : List (Token ι) → Int
  | [] => 0
  | t :: ts => t.rise + depth ts

/-- Where `d` parentheses are open, the tokens close none that is not open. -/
def Nests : Int → List (Token ι) → Prop
  | _, [] => True
  | d, t :: ts => 0 ≤ d + t.rise ∧ Nests (d + t.rise) ts

/-- Where `d` parentheses are open, a token occurs only in parentheses. -/
def Inner (x : Token ι) : Int → List (Token ι) → Prop
  | _, [] => True
  | d, t :: ts => (t = x → d ≠ 0) ∧ Inner x (d + t.rise) ts

/-- Each parenthesis has its counterpart. -/
structure Closed (ts : List (Token ι)) : Prop where
  nests : Nests 0 ts
  settled : depth ts = 0

/-- No connective outside of parentheses takes the tokens apart. -/
structure Solid (ts : List (Token ι)) : Prop where
  closed : Closed ts
  and_inner : Inner .and 0 ts
  or_inner : Inner .or 0 ts

/-- What can be compared, or stand by itself. -/
structure IsOperand (ts : List (Token ι)) : Prop extends Solid ts where
  nonempty : ts ≠ []
  affirmed : ∀ us, ts ≠ .not :: us

/-- An operand that is not in parentheses as a whole. -/
structure IsAtom (ts : List (Token ι)) : Prop extends IsOperand ts where
  ungrouped : ∀ us, Closed us → ts ≠ .opening :: (us ++ [.closing])

/-- Boolean expressions. -/
inductive Expr (α : Type) where
  | atom (a : α)
  | not (e : Expr α)
  | and (e f : Expr α)
  | or (e f : Expr α)

/-- Whether an expression is true, given which atoms are. -/
def Expr.holds {α : Type} (σ : α → Bool) : Expr α → Bool
  | atom a => σ a
  | not e => !e.holds σ
  | and e f => e.holds σ && f.holds σ
  | or e f => e.holds σ || f.holds σ

/-- How tightly the connectives outside of parentheses bind. -/
inductive Precedence where
  | factor
  | conjunction
  | disjunction

/-- The expression that tokens are read as. -/
inductive Reads : Precedence → List (Token ι) → Expr (List (Token ι)) → Prop where
  | atom {ts} (h : IsAtom ts) : Reads .factor ts (.atom ts)
  | not {ts e} (h : Reads .factor ts e) : Reads .factor (.not :: ts) (.not e)
  | group {ts e} (h : Reads .disjunction ts e) : Reads .factor (.opening :: (ts ++ [.closing])) e
  | factor {ts e} (h : Reads .factor ts e) : Reads .conjunction ts e
  | and {ts us e f} (h : Reads .conjunction ts e) (h' : Reads .factor us f) :
      Reads .conjunction (ts ++ .and :: us) (.and e f)
  | conjunction {ts e} (h : Reads .conjunction ts e) : Reads .disjunction ts e
  | or {ts us e f} (h : Reads .disjunction ts e) (h' : Reads .conjunction us f) :
      Reads .disjunction (ts ++ .or :: us) (.or e f)

variable {ts us vs ws : List (Token ι)} {x : Token ι} {d : Int}

@[simp] lemma depth_append (ts us : List (Token ι)) : depth (ts ++ us) = depth ts + depth us := by
  induction ts with
  | nil => simp [depth]
  | cons t ts ih => simp only [List.cons_append, depth, ih, Int.add_assoc]

lemma nests_append : Nests d (ts ++ us) ↔ Nests d ts ∧ Nests (d + depth ts) us := by
  induction ts generalizing d with
  | nil => simp [Nests, depth]
  | cons t ts ih => simp only [List.cons_append, Nests, depth, ih, and_assoc, Int.add_assoc]

lemma inner_append : Inner x d (ts ++ us) ↔ Inner x d ts ∧ Inner x (d + depth ts) us := by
  induction ts generalizing d with
  | nil => simp [Inner, depth]
  | cons t ts ih => simp only [List.cons_append, Inner, depth, ih, and_assoc, Int.add_assoc]

lemma Nests.mono {d' : Int} (h : Nests d ts) (le : d ≤ d') : Nests d' ts := by
  induction ts generalizing d d' with
  | nil => trivial
  | cons t ts ih =>
    obtain ⟨here, later⟩ := h
    exact ⟨by omega, ih later (by omega)⟩

lemma Nests.depth_nonneg (h : Nests d ts) (le : 0 ≤ d) : 0 ≤ d + depth ts := by
  induction ts generalizing d with
  | nil => simpa [depth] using le
  | cons t ts ih =>
    have := ih h.2 h.1
    rw [depth]
    omega

/-- With one more parenthesis open around them, tokens are all in parentheses. -/
lemma Nests.inner (h : Nests d ts) (le : 0 ≤ d) : Inner x (d + 1) ts := by
  induction ts generalizing d with
  | nil => trivial
  | cons t ts ih =>
    refine ⟨fun _ => by omega, ?_⟩
    have := ih h.2 h.1
    rwa [Int.add_right_comm] at this

namespace Closed

lemma append (ht : Closed ts) (hu : Closed us) : Closed (ts ++ us) where
  nests := nests_append.2 ⟨ht.nests, by simpa [ht.settled] using hu.nests⟩
  settled := by simp [ht.settled, hu.settled]

/-- A token that is no parenthesis changes nothing. -/
lemma cons (level : x.rise = 0) (h : Closed ts) : Closed (x :: ts) where
  nests := by simpa [Nests, level] using h.nests
  settled := by simp [depth, level, h.settled]

lemma group (h : Closed ts) : Closed (.opening :: (ts ++ [.closing])) where
  nests := by
    have : Nests 1 ts := h.nests.mono (by decide)
    simp [Nests, nests_append, Token.rise, h.settled, this]
  settled := by simp [depth, Token.rise, h.settled]

/-- Nothing in a group is outside of parentheses. -/
lemma inner_group (h : Closed ts) (level : x.rise = 0) :
    Inner x 0 (.opening :: (ts ++ [.closing])) := by
  have inside : Inner x 1 ts := h.nests.inner (Int.le_refl 0)
  have first : .opening ≠ x := by
    rintro rfl
    cases level
  simp [Inner, inner_append, Token.rise, h.settled, inside, first]

lemma inner_append (ht : Closed ts) (h : Inner x 0 ts) (h' : Inner x 0 us) :
    Inner x 0 (ts ++ us) :=
  BoundSql.inner_append.2 ⟨h, by simpa [ht.settled] using h'⟩

/-- A group is not over before its last parenthesis. -/
lemma append_ne_group (ht : Closed ts) (ne : ts ≠ []) (ne' : us ≠ []) (hv : Closed vs) :
    ts ++ us ≠ .opening :: (vs ++ [.closing]) := by
  intro e
  obtain ⟨us, u, rfl⟩ := us.eq_nil_or_concat.resolve_left ne'
  obtain ⟨t, ts, rfl⟩ := List.exists_cons_of_ne_nil ne
  simp only [List.concat_eq_append, ← List.append_assoc, List.cons_append, List.cons.injEq] at e
  obtain ⟨rfl, e⟩ := e
  obtain ⟨rfl, -⟩ := List.append_inj' e rfl
  have open' := (nests_append.1 hv.nests).1.depth_nonneg (Int.le_refl 0)
  have := ht.settled
  simp only [depth, Token.rise] at this
  omega

end Closed

namespace Solid

lemma nil : Solid ([] : List (Token ι)) := ⟨⟨trivial, rfl⟩, trivial, trivial⟩

lemma cons (level : x.rise = 0) (and : x ≠ .and) (or : x ≠ .or) (h : Solid ts) :
    Solid (x :: ts) where
  closed := h.closed.cons level
  and_inner := ⟨fun e => (and e).elim, by simpa [level] using h.and_inner⟩
  or_inner := ⟨fun e => (or e).elim, by simpa [level] using h.or_inner⟩

lemma append (ht : Solid ts) (hu : Solid us) : Solid (ts ++ us) where
  closed := ht.closed.append hu.closed
  and_inner := ht.closed.inner_append ht.and_inner hu.and_inner
  or_inner := ht.closed.inner_append ht.or_inner hu.or_inner

lemma group (h : Closed ts) : Solid (.opening :: (ts ++ [.closing])) where
  closed := h.group
  and_inner := h.inner_group rfl
  or_inner := h.inner_group rfl

lemma words (h : ∀ t ∈ ts, t.isWord) : Solid ts := by
  induction ts with
  | nil => exact nil
  | cons t ts ih =>
    obtain ⟨first, later⟩ := List.forall_mem_cons.1 h
    cases t with
    | word => exact (ih later).cons rfl nofun nofun
    | _ => cases first

end Solid

/-- What stands behind an operand makes an atom of it. -/
lemma IsOperand.isAtom_append (ht : IsOperand ts) (hu : Solid us) (ne : us ≠ []) :
    IsAtom (ts ++ us) where
  toSolid := ht.toSolid.append hu
  nonempty := List.append_ne_nil_of_left_ne_nil ht.nonempty us
  affirmed vs e := by
    obtain ⟨t, ts, rfl⟩ := List.exists_cons_of_ne_nil ht.nonempty
    exact ht.affirmed ts (by rw [(List.cons.inj e).1])
  ungrouped _ hv := ht.closed.append_ne_group ht.nonempty ne hv

lemma isAtom_words (ne : ts ≠ []) (h : ∀ t ∈ ts, t.isWord) : IsAtom ts where
  toSolid := .words h
  nonempty := ne
  affirmed _ e := nomatch h .not (e ▸ List.mem_cons_self)
  ungrouped _ _ e := nomatch h .opening (e ▸ List.mem_cons_self)

/-- A connective cannot be outside of parentheses where only such a one is left that is in them. -/
lemma Inner.false_of_append (h : Inner x 0 (ts ++ x :: us)) (settled : depth ts = 0) : False :=
  (inner_append.1 h).2.1 rfl (by omega)

/-- The last connective outside of parentheses is found again. -/
lemma split_unique (level : x.rise = 0) (hu : Inner x 0 us) (hw : Inner x 0 ws)
    (same : depth ts = depth vs) (e : ts ++ x :: us = vs ++ x :: ws) : ts = vs ∧ us = ws := by
  induction ts generalizing vs with
  | nil =>
    cases vs with
    | nil => exact ⟨rfl, (List.cons.inj e).2⟩
    | cons v vs =>
      obtain ⟨rfl, rfl⟩ := List.cons.inj e
      rw [depth, depth, level, Int.zero_add] at same
      exact (hu.false_of_append same.symm).elim
  | cons t ts ih =>
    cases vs with
    | nil =>
      obtain ⟨rfl, rfl⟩ := List.cons.inj e
      rw [depth, depth, level, Int.zero_add] at same
      exact (hw.false_of_append same).elim
    | cons v vs =>
      obtain ⟨rfl, rest⟩ := List.cons.inj e
      obtain ⟨rfl, rfl⟩ := ih (Int.add_left_cancel same) rest
      exact ⟨rfl, rfl⟩

namespace Reads

variable {l : Precedence} {e f : Expr (List (Token ι))}

lemma closed (h : Reads l ts e) : Closed ts := by
  induction h with
  | atom h => exact h.closed
  | not _ ih => exact ih.cons rfl
  | group _ ih => exact ih.group
  | factor _ ih => exact ih
  | and _ _ ih ih' => exact ih.append (ih'.cons rfl)
  | conjunction _ ih => exact ih
  | or _ _ ih ih' => exact ih.append (ih'.cons rfl)

/-- Connectives that bind too loosely are in parentheses. -/
lemma inner (h : Reads l ts e) :
    (l ≠ .disjunction → Inner .or 0 ts) ∧ (l = .factor → Inner .and 0 ts) := by
  induction h with
  | atom h => exact ⟨fun _ => h.or_inner, fun _ => h.and_inner⟩
  | not _ ih => exact ⟨fun _ => ⟨nofun, ih.1 nofun⟩, fun _ => ⟨nofun, ih.2 rfl⟩⟩
  | group h => exact ⟨fun _ => h.closed.inner_group rfl, fun _ => h.closed.inner_group rfl⟩
  | factor _ ih => exact ⟨fun _ => ih.1 nofun, nofun⟩
  | and h _ ih ih' =>
    exact ⟨fun _ => h.closed.inner_append (ih.1 nofun) ⟨nofun, ih'.1 nofun⟩, nofun⟩
  | conjunction => exact ⟨fun ne => (ne rfl).elim, nofun⟩
  | or => exact ⟨fun ne => (ne rfl).elim, nofun⟩

lemma or_inner (h : Reads .conjunction ts e) : Inner .or 0 ts := h.inner.1 nofun

lemma and_inner (h : Reads .factor ts e) : Inner .and 0 ts := h.inner.2 rfl

lemma factor_cases (h : Reads .factor ts e) :
    (IsAtom ts ∧ e = .atom ts) ∨
    (∃ us f, ts = .not :: us ∧ e = .not f ∧ Reads .factor us f) ∨
    ∃ us, ts = .opening :: (us ++ [.closing]) ∧ Reads .disjunction us e := by
  cases h with
  | atom h => exact .inl ⟨h, rfl⟩
  | not h => exact .inr (.inl ⟨_, _, rfl, rfl, h⟩)
  | group h => exact .inr (.inr ⟨_, rfl, h⟩)

lemma conjunction_cases (h : Reads .conjunction ts e) :
    Reads .factor ts e ∨
    ∃ us vs f g, ts = us ++ .and :: vs ∧ e = .and f g ∧ Reads .conjunction us f ∧
      Reads .factor vs g := by
  cases h with
  | factor h => exact .inl h
  | and h h' => exact .inr ⟨_, _, _, _, rfl, rfl, h, h'⟩

lemma disjunction_cases (h : Reads .disjunction ts e) :
    Reads .conjunction ts e ∨
    ∃ us vs f g, ts = us ++ .or :: vs ∧ e = .or f g ∧ Reads .disjunction us f ∧
      Reads .conjunction vs g := by
  cases h with
  | conjunction h => exact .inl h
  | or h h' => exact .inr ⟨_, _, _, _, rfl, rfl, h, h'⟩

/-- Tokens have at most one reading. -/
lemma unique (h : Reads l ts e) (h' : Reads l ts f) : e = f := by
  induction h generalizing f with
  | atom h =>
    obtain ⟨-, rfl⟩ | ⟨us, -, e, -⟩ | ⟨us, e, r⟩ := h'.factor_cases
    · rfl
    · exact (h.affirmed us e).elim
    · exact (h.ungrouped us r.closed e).elim
  | not h ih =>
    obtain ⟨h, -⟩ | ⟨us, f, e, rfl, r⟩ | ⟨us, e, r⟩ := h'.factor_cases
    · exact (h.affirmed _ rfl).elim
    · obtain ⟨-, rfl⟩ := List.cons.inj e
      rw [ih r]
    · cases e
  | group h ih =>
    obtain ⟨a, -⟩ | ⟨us, f, e, rfl, r⟩ | ⟨us, e, r⟩ := h'.factor_cases
    · exact (a.ungrouped _ h.closed rfl).elim
    · cases e
    · obtain rfl := List.append_cancel_right (List.cons.inj e).2
      exact ih r
  | factor h ih =>
    obtain r | ⟨us, vs, f, g, rfl, rfl, r, -⟩ := h'.conjunction_cases
    · exact ih r
    · exact (h.and_inner.false_of_append r.closed.settled).elim
  | and h i ih ih' =>
    obtain r | ⟨us, vs, f, g, e, rfl, r, r'⟩ := h'.conjunction_cases
    · exact (r.and_inner.false_of_append h.closed.settled).elim
    · have same := h.closed.settled.trans r.closed.settled.symm
      obtain ⟨rfl, rfl⟩ := split_unique rfl i.and_inner r'.and_inner same e
      rw [ih r, ih' r']
  | conjunction h ih =>
    obtain r | ⟨us, vs, f, g, rfl, rfl, r, -⟩ := h'.disjunction_cases
    · exact ih r
    · exact (h.or_inner.false_of_append r.closed.settled).elim
  | or h i ih ih' =>
    obtain r | ⟨us, vs, f, g, e, rfl, r, r'⟩ := h'.disjunction_cases
    · exact (r.or_inner.false_of_append h.closed.settled).elim
    · have same := h.closed.settled.trans r.closed.settled.symm
      obtain ⟨rfl, rfl⟩ := split_unique rfl i.or_inner r'.or_inner same e
      rw [ih r, ih' r']

/-- Where neither side has an `OR` outside of parentheses, `AND` joins all that the sides say. -/
lemma and_conjunction (h : Reads .conjunction ts e) (h' : Reads .conjunction us f) :
    ∃ g, Reads .conjunction (ts ++ .and :: us) g ∧
      ∀ σ, g.holds σ = (e.holds σ && f.holds σ) := by
  generalize level : Precedence.conjunction = l at h'
  induction h' with
  | factor h' => exact ⟨_, h.and h', fun σ => rfl⟩
  | @and us vs f f' _ h' ih =>
    -- `AND` is read from the left, so the first part of the right side is joined first
    obtain ⟨g, r, same⟩ := ih level
    refine ⟨g.and f', ?_, fun σ => by simp [Expr.holds, same, Bool.and_assoc]⟩
    simpa using r.and h'
  | _ => cases level

/-- `AND` between expressions is true where both are. Each of them is true where it is, unless an
`OR` outside of parentheses on the other side reaches over it. -/
lemma exists_and (h : Reads .disjunction ts e) (h' : Reads .disjunction us f) :
    ∃ g, Reads .disjunction (ts ++ .and :: us) g ∧ ∀ σ,
      (e.holds σ = true → f.holds σ = true → g.holds σ = true) ∧
      (Reads .conjunction us f → g.holds σ = true → e.holds σ = true) ∧
      (Reads .conjunction ts e → g.holds σ = true → f.holds σ = true) := by
  have taken_apart {vs ws : List (Token ι)} {e f : Expr (List (Token ι))}
      (h : Reads .disjunction vs f) (r : Reads .conjunction (vs ++ .or :: ws) e) : False :=
    r.or_inner.false_of_append h.closed.settled
  generalize level : Precedence.disjunction = l at h'
  induction h' with
  | conjunction h' =>
    obtain h | ⟨ts₁, ts₂, e₁, e₂, rfl, rfl, h₁, h₂⟩ := h.disjunction_cases
    · obtain ⟨g, r, same⟩ := h.and_conjunction h'
      refine ⟨g, r.conjunction, fun σ => ?_⟩
      rw [same, Bool.and_eq_true]
      exact ⟨And.intro, fun _ both => both.1, fun _ both => both.2⟩
    · -- only what stands behind the last `OR` is joined
      obtain ⟨g, r, same⟩ := h₂.and_conjunction h'
      refine ⟨e₁.or g, by simpa using h₁.or r, fun σ => ?_⟩
      simp only [Expr.holds, same, Bool.or_eq_true, Bool.and_eq_true]
      refine ⟨fun he hf => he.imp_right (⟨·, hf⟩), fun _ h => h.imp_right And.left, fun r => ?_⟩
      exact (taken_apart h₁ r).elim
  | @or us vs f f' h₁ h₂ ih =>
    -- only what stands in front of the first `OR` is joined
    obtain ⟨g, r, known⟩ := ih level
    refine ⟨g.or f', by simpa using r.or h₂, fun σ => ?_⟩
    obtain ⟨both, -, right⟩ := known σ
    simp only [Expr.holds, Bool.or_eq_true]
    refine ⟨fun he => Or.imp_left (both he), fun r => (taken_apart h₁ r).elim, fun r => ?_⟩
    exact Or.imp_left (right r)
  | _ => cases level

end Reads

end BoundSql
