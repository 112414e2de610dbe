import BoundSql.Proofs.Relation.Build

/-!
# Related outcomes

Where a step or a build can fail, related statements lead to related outcomes: both fail with one
error, or both succeed with related results. A step that serialises data needs data whose
serialisation has related outcomes.
-/

namespace BoundSql

/-- One error on both sides, or related results. -/
inductive SameOutcome {ε α β : Type} (P : α → β → Prop) : Except ε α → Except ε β → Prop
  | error (e : ε) : SameOutcome P (.error e) (.error e)
  | ok {a : α} {b : β} (h : P a b) : SameOutcome P (.ok a) (.ok b)

lemma SameOutcome.bind {ε α β γ δ : Type} {P : α → β → Prop} {Q : γ → δ → Prop} {x : Except ε α}
    {y : Except ε β} {f : α → Except ε γ} {g : β → Except ε δ} (h : SameOutcome P x y)
    (next : ∀ a b, P a b → SameOutcome Q (f a) (g b)) : SameOutcome Q (x >>= f) (y >>= g) := by
  cases h with
  | error e => exact .error e
  | ok h => exact next _ _ h

variable {R : Value → Value → Prop}

/-- Related steps whose data, if they serialise any, becomes related values or fails alike. -/
structure Update.Step.Agree (R : Value → Value → Prop) (a b : Step) : Prop where
  related : a.Related R b
  serialised : ∀ x y, a.serial? = some x → b.serial? = some y →
    SameOutcome R (Value.ofSerial x) (Value.ofSerial y)

namespace Update

variable {s t : Update}

lemma Step.Agree.apply {a b : Step} (h : a.Agree R b) (hs : s.Related R t) :
    SameOutcome (Update.Related R) (a.apply s) (b.apply t) := by
  obtain ⟨related, serialised⟩ := h
  cases related with
  | always h => exact .ok (h.apply hs)
  | assignIf check field h =>
    cases check with
    | false => exact .ok hs
    | true => exact .ok (hs.assign field h)
  | filterIf check h =>
    cases check with
    | false => exact .ok hs
    | true => exact .ok (hs.filter h)
  | assignOption field h =>
    cases h with
    | none => exact .ok hs
    | some h => exact .ok (hs.assign field h)
  | assignSerial field h =>
    exact (serialised _ _ rfl rfl).bind fun _ _ same => .ok (hs.assign field same)

lemma Related.run_agree {steps steps' : List Step} (hs : s.Related R t)
    (h : List.Forall₂ (Step.Agree R) steps steps') :
    SameOutcome (Update.Related R) (s.run steps) (t.run steps') := by
  induction h generalizing s t with
  | nil => exact .ok hs
  | cons step _ ih =>
    rw [run_cons, run_cons]
    exact (step.apply hs).bind fun _ _ related => ih related

end Update

/-- Related statements are built with related outcomes. -/
lemma Statement.Related.toQuery {s t : Statement} (h : s.Related R t) :
    SameOutcome (Query.Related R) s.toQuery t.toQuery := by
  obtain ⟨⟨e, failed, failed'⟩ | ⟨q, r, built, built', related⟩, -⟩ := h.build
  · rw [Statement.toQuery, Statement.toQuery, failed, failed']
    exact .error e
  · rw [Statement.toQuery, Statement.toQuery, built, built']
    exact .ok related

end BoundSql
