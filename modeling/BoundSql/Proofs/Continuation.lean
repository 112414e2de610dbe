import BoundSql.Proofs.Clauses

/-!
# Continuations of texts

What may follow a piece of SQL is known by how it begins. `Continues openings rest` says that there
is nothing more, or that the rest begins in one of several ways; a clause that may be absent is such
a continuation. Whether two beginnings can be told apart is decided on the beginnings alone.
-/

namespace BoundSql

/-- Text that is empty or begins in one of several ways. -/
def Continues (openings : List String) (rest : String) : Prop :=
  rest = "" ∨ ∃ opening ∈ openings, ∃ more, rest = opening ++ more

/-- Neither of two texts is the beginning of the other. -/
def Diverge (s t : String) : Prop := ¬ s.toList <+: t.toList ∧ ¬ t.toList <+: s.toList

instance (s t : String) : Decidable (Diverge s t) := inferInstanceAs (Decidable (_ ∧ _))

/-- Texts that diverge stay different whatever follows them. -/
lemma Diverge.append_ne {s t : String} (h : Diverge s t) (a b : String) : s ++ a ≠ t ++ b := by
  intro e
  have chars : s.toList ++ a.toList = t.toList ++ b.toList := by
    simpa using congrArg String.toList e
  have hs : s.toList <+: t.toList ++ b.toList := chars ▸ List.prefix_append ..
  rcases List.prefix_or_prefix_of_prefix hs (List.prefix_append ..) with st | ts
  · exact h.1 st
  · exact h.2 ts

namespace Continues

variable {openings openings' : List String} {a b : String}

lemma empty : Continues openings "" := .inl rfl

lemma of_mem {opening : String} (mem : opening ∈ openings) : Continues openings (opening ++ a) :=
  .inr ⟨opening, mem, a, rfl⟩

lemma append (ha : Continues openings a) (hb : Continues openings' b) :
    Continues (openings ++ openings') (a ++ b) := by
  rcases ha with rfl | ⟨opening, mem, more, rfl⟩
  · rcases hb with rfl | ⟨opening, mem, more, rfl⟩
    · exact .inl rfl
    · exact .inr ⟨opening, List.mem_append_right _ mem, more, by simp⟩
  · exact .inr ⟨opening, List.mem_append_left _ mem, more ++ b, String.append_assoc⟩

/-- Beginnings may be cut short. -/
lemma mono (h : ∀ o ∈ openings, ∃ p ∈ openings', p.toList <+: o.toList)
    (ha : Continues openings a) : Continues openings' a := by
  rcases ha with rfl | ⟨opening, mem, more, rfl⟩
  · exact .inl rfl
  · obtain ⟨p, hp, tail, e⟩ := h opening mem
    refine .inr ⟨p, hp, String.ofList tail ++ more, ?_⟩
    rw [← String.toList_inj]
    simp [← e]

/-- A text that diverges from all beginnings is at the beginning of none of the continuations. -/
lemma not_append {s : String} (ne : s ≠ "") (h : ∀ o ∈ openings, Diverge s o) :
    ¬ Continues openings (s ++ a) := by
  rintro (e | ⟨opening, mem, more, e⟩)
  · exact ne (String.append_eq_empty_iff.1 e).1
  · exact (h opening mem).append_ne a more e

end Continues

namespace Query

variable {openings openings' : List String} {a b : Query}

/-- The text of a query begins in one of several ways, or there is none. -/
def Before (openings : List String) (r : Query) : Prop := Continues openings r.sql

lemma before_empty : Before openings empty := .empty

lemma before_text_append {s : String} (mem : s ∈ openings) : Before openings (text s ++ a) :=
  Continues.of_mem mem

lemma not_before_text_append {s : String} (ne : s ≠ "") (h : ∀ o ∈ openings, Diverge s o) :
    ¬ Before openings (text s ++ a) :=
  Continues.not_append ne h

lemma Before.append (ha : Before openings a) (hb : Before openings' b) :
    Before (openings ++ openings') (a ++ b) :=
  Continues.append ha hb

lemma Before.mono (h : ∀ o ∈ openings, ∃ p ∈ openings', p.toList <+: o.toList)
    (ha : Before openings a) : Before openings' a :=
  Continues.mono h ha

lemma before_listed (keyword separator : String) (qs : List Query) :
    Before [keyword] (listed keyword separator qs) := by
  cases qs with
  | nil => exact before_empty
  | cons q rest => exact before_text_append List.mem_cons_self

lemma before_joinRest (separator : String) (qs : List Query) :
    Before [separator] (joinRest separator qs) := by
  cases qs with
  | nil => exact before_empty
  | cons q rest => exact before_text_append List.mem_cons_self

lemma before_optional {α : Type} (keyword : String) (render : α → Query) (o : Option α) :
    Before [keyword] (optional keyword render o) := by
  cases o with
  | none => exact before_empty
  | some a => exact before_text_append List.mem_cons_self

end Query

lemma Predicates.before_whereClause (ps : Predicates) : ps.whereClause.Before [" WHERE "] :=
  ps.whereClause_eq ▸ Query.before_listed ..

lemma Update.before_setClause (s : Update) : s.setClause.Before [" SET "] :=
  s.setClause_eq ▸ Query.before_listed ..

namespace Select

lemma before_orderClause (s : Select) : s.orderClause.Before [" ORDER BY "] :=
  s.orderClause_eq ▸ Query.before_optional ..

lemma before_countClause (keyword : String) (n : Option Nat) :
    (countClause keyword n).Before [" " ++ keyword ++ " "] :=
  countClause_eq keyword n ▸ Query.before_optional ..

/-- What stands behind the predicates of a SELECT statement. -/
lemma before_ending (s : Select) :
    (s.orderClause ++ (countClause "LIMIT" s.limit ++ countClause "OFFSET" s.offset)).Before
      [" ORDER BY ", " LIMIT ", " OFFSET "] :=
  s.before_orderClause.append
    ((before_countClause "LIMIT" s.limit).append (before_countClause "OFFSET" s.offset))

end Select

end BoundSql
