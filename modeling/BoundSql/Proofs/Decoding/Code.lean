import BoundSql.Proofs.Continuation

/-!
# Decodable renderings

A rendering is decodable before certain continuations when the whole, what was rendered and what
follows it, determines both. Names, placeholders, joined lists and optional clauses are decodable
before continuations that begin unlike their own content, so statements can be taken apart from left
to right.
-/

namespace BoundSql

/-- Text that is not empty and holds neither blanks nor commas. -/
def WellFormedName (name : String) : Prop := name ≠ "" ∧ ' ' ∉ name.toList ∧ ',' ∉ name.toList

instance (name : String) : Decidable (WellFormedName name) :=
  inferInstanceAs (Decidable (_ ∧ _ ∧ _))

namespace Query

/-- What is rendered and what follows it can be told from the whole. -/
def Decodable {α : Type} (render : α → Query) (Ok : α → Prop) (Stop : Query → Prop) : Prop :=
  ∀ ⦃a b r r'⦄, Ok a → Ok b → Stop r → Stop r' → render a ++ r = render b ++ r' → a = b ∧ r = r'

lemma text_append_cancel {s : String} {a b : Query} (h : text s ++ a = text s ++ b) : a = b := by
  have sql : s ++ a.sql = s ++ b.sql := congrArg Query.sql h
  have params : a.params = b.params := by simpa using congrArg Query.params h
  exact ext ((String.append_right_inj s).1 sql) params

lemma text_append_ne {s t : String} (h : Diverge s t) (a b : Query) : text s ++ a ≠ text t ++ b :=
  fun e => h.append_ne a.sql b.sql (congrArg sql e)

/-- Names that are followed by separators, if by anything, can be told from what follows. -/
lemma name_append_inj {name name' rest rest' : List Char}
    (free : ' ' ∉ name ∧ ',' ∉ name) (free' : ' ' ∉ name' ∧ ',' ∉ name')
    (stop : ∀ c more, rest = c :: more → c = ' ' ∨ c = ',')
    (stop' : ∀ c more, rest' = c :: more → c = ' ' ∨ c = ',')
    (h : name ++ rest = name' ++ rest') : name = name' ∧ rest = rest' := by
  -- if one of the names ended first, the other would hold the separator that follows it
  induction name generalizing name' with
  | nil =>
    cases name' with
    | nil => exact ⟨rfl, h⟩
    | cons c name' =>
      rcases stop c (name' ++ rest') h with rfl | rfl
      · exact absurd List.mem_cons_self free'.1
      · exact absurd List.mem_cons_self free'.2
  | cons c name ih =>
    cases name' with
    | nil =>
      rcases stop' c (name ++ rest) h.symm with rfl | rfl
      · exact absurd List.mem_cons_self free.1
      · exact absurd List.mem_cons_self free.2
    | cons d name' =>
      obtain ⟨rfl, tail⟩ := List.cons.inj h
      simp only [List.mem_cons, not_or] at free free'
      obtain ⟨rfl, e⟩ := ih ⟨free.1.2, free.2.2⟩ ⟨free'.1.2, free'.2.2⟩ tail
      exact ⟨rfl, e⟩

lemma Before.separator {r : Query} (h : Before [" ", ","] r) (c : Char) (more : List Char)
    (e : r.sql.toList = c :: more) : c = ' ' ∨ c = ',' := by
  rcases h with nothing | ⟨opening, mem, rest, start⟩
  · rw [nothing] at e
    cases e
  · rw [start, String.toList_append] at e
    simp only [List.mem_cons, List.not_mem_nil, or_false] at mem
    rcases mem with rfl | rfl
    · exact .inl (List.cons.inj e).1.symm
    · exact .inr (List.cons.inj e).1.symm

/-- A name ends where a separator follows. -/
lemma decodable_name : Decodable text WellFormedName (Before [" ", ","]) := by
  intro n m r r' hn hm hr hr' h
  have sql : n.toList ++ r.sql.toList = m.toList ++ r'.sql.toList := by
    simpa using congrArg (fun q => q.sql.toList) h
  have params : r.params = r'.params := by simpa using congrArg Query.params h
  obtain ⟨name, rest⟩ := name_append_inj hn.2 hm.2 hr.separator hr'.separator sql
  exact ⟨String.toList_inj.1 name, ext (String.toList_inj.1 rest) params⟩

lemma not_before_name {name : String} (h : WellFormedName name) (r : Query) :
    ¬ Before [" ", ","] (text name ++ r) := by
  intro before
  cases e : name.toList with
  | nil => exact h.1 (String.toList_inj.1 e)
  | cons c more =>
    have start : (text name ++ r).sql.toList = c :: (more ++ r.sql.toList) := by simp [e]
    obtain ⟨-, blank, comma⟩ := h
    rw [e] at blank comma
    rcases before.separator c _ start with rfl | rfl
    · exact blank List.mem_cons_self
    · exact comma List.mem_cons_self

/-- A placeholder takes one value. -/
lemma decodable_placeholder : Decodable placeholder (fun _ => True) (fun _ => True) := by
  intro v w r r' _ _ _ _ h
  have params : v :: r.params = w :: r'.params := congrArg Query.params h
  have sql : "?" ++ r.sql = "?" ++ r'.sql := congrArg Query.sql h
  obtain ⟨rfl, rest⟩ := List.cons.inj params
  exact ⟨rfl, ext ((String.append_right_inj "?").1 sql) rest⟩

section Combinators
variable {α : Type} {render : α → Query} {Ok : α → Prop} {Stop : Query → Prop}

lemma Decodable.mono {Stop' : Query → Prop} (h : Decodable render Ok Stop)
    (stop : ∀ r, Stop' r → Stop r) : Decodable render Ok Stop' :=
  fun _ _ r r' ha hb hr hr' => h ha hb (stop r hr) (stop r' hr')

/-- What follows an element is a separator or follows the whole list. -/
lemma stop_joinRest {Stop' : Query → Prop} {separator : String}
    (separated : ∀ r, Stop (text separator ++ r)) (last : ∀ r, Stop' r → Stop r)
    (as : List α) {r : Query} (hr : Stop' r) : Stop (joinRest separator (as.map render) ++ r) := by
  cases as with
  | nil => simpa [joinRest] using last r hr
  | cons a as => exact append_assoc .. ▸ separated _

/-- Elements behind separators are told apart one by one. -/
lemma Decodable.joinRest {Stop' : Query → Prop} {separator : String} (h : Decodable render Ok Stop)
    (separated : ∀ r, Stop (text separator ++ r)) (last : ∀ r, Stop' r → Stop r)
    (further : ∀ r, ¬ Stop' (text separator ++ r)) :
    Decodable (fun as : List α => joinRest separator (as.map render)) (fun as => ∀ a ∈ as, Ok a)
      Stop' := by
  intro as bs r r' oks oks' hr hr' e
  -- both lists at once; a list that ends first is followed by no separator
  induction as generalizing bs with
  | nil =>
    cases bs with
    | nil => exact ⟨rfl, by simpa [Query.joinRest] using e⟩
    | cons b bs =>
      simp only [List.map_nil, List.map_cons, Query.joinRest, empty_append, append_assoc] at e
      exact absurd (e ▸ hr) (further _)
  | cons a as ih =>
    cases bs with
    | nil =>
      simp only [List.map_nil, List.map_cons, Query.joinRest, empty_append, append_assoc] at e
      exact absurd (e ▸ hr') (further _)
    | cons b bs =>
      simp only [List.map_cons, Query.joinRest, append_assoc] at e
      obtain ⟨rfl, rest⟩ := h (oks a List.mem_cons_self) (oks' b List.mem_cons_self)
        (stop_joinRest separated last as hr) (stop_joinRest separated last bs hr')
        (text_append_cancel e)
      obtain ⟨rfl, tail⟩ := ih (fun x hx => oks x (List.mem_cons_of_mem a hx))
        (fun x hx => oks' x (List.mem_cons_of_mem a hx)) rest
      exact ⟨rfl, tail⟩

/-- A clause that lists elements is decodable when its keyword and the separators look neither like
elements nor like what may follow the clause. -/
lemma Decodable.listed {Stop' : Query → Prop} {keyword separator : String}
    (h : Decodable render Ok Stop) (separated : ∀ r, Stop (text separator ++ r))
    (last : ∀ r, Stop' r → Stop r) (further : ∀ r, ¬ Stop' (text separator ++ r))
    (absent : ∀ a r, Ok a → Stop r → ¬ Stop' (text keyword ++ (render a ++ r))) :
    Decodable (fun as : List α => listed keyword separator (as.map render))
      (fun as => ∀ a ∈ as, Ok a) Stop' := by
  intro as bs r r' oks oks' hr hr' e
  cases as with
  | nil =>
    cases bs with
    | nil => exact ⟨rfl, by simpa [Query.listed] using e⟩
    | cons b bs =>
      simp only [List.map_nil, List.map_cons, Query.listed, empty_append, append_assoc] at e
      exact absurd (e ▸ hr)
        (absent b _ (oks' b List.mem_cons_self) (stop_joinRest separated last bs hr'))
  | cons a as =>
    cases bs with
    | nil =>
      simp only [List.map_nil, List.map_cons, Query.listed, empty_append, append_assoc] at e
      exact absurd (e ▸ hr')
        (absent a _ (oks a List.mem_cons_self) (stop_joinRest separated last as hr))
    | cons b bs =>
      simp only [List.map_cons, Query.listed, append_assoc] at e
      obtain ⟨rfl, rest⟩ := h (oks a List.mem_cons_self) (oks' b List.mem_cons_self)
        (stop_joinRest separated last as hr) (stop_joinRest separated last bs hr')
        (text_append_cancel e)
      obtain ⟨rfl, tail⟩ := h.joinRest separated last further
        (fun x hx => oks x (List.mem_cons_of_mem a hx))
        (fun x hx => oks' x (List.mem_cons_of_mem a hx)) hr hr' rest
      exact ⟨rfl, tail⟩

/-- `Decodable.listed` for a list without a keyword. -/
lemma Decodable.join {Stop' : Query → Prop} {separator : String} (h : Decodable render Ok Stop)
    (separated : ∀ r, Stop (text separator ++ r)) (last : ∀ r, Stop' r → Stop r)
    (further : ∀ r, ¬ Stop' (text separator ++ r))
    (absent : ∀ a r, Ok a → Stop r → ¬ Stop' (render a ++ r)) :
    Decodable (fun as : List α => join separator (as.map render)) (fun as => ∀ a ∈ as, Ok a)
      Stop' := by
  simp only [join_eq_listed]
  exact h.listed separated last further absent

/-- A clause of one thing is there exactly when its keyword is. -/
lemma Decodable.optional {keyword : String} (h : Decodable render Ok Stop)
    (absent : ∀ r, ¬ Stop (text keyword ++ r)) :
    Decodable (optional keyword render) (fun o => ∀ a ∈ o, Ok a) Stop := by
  intro o o' r r' ok ok' hr hr' e
  cases o with
  | none =>
    cases o' with
    | none => exact ⟨rfl, by simpa [Query.optional] using e⟩
    | some b =>
      simp only [Query.optional, empty_append, append_assoc] at e
      exact absurd (e ▸ hr) (absent _)
  | some a =>
    cases o' with
    | none =>
      simp only [Query.optional, empty_append, append_assoc] at e
      exact absurd (e ▸ hr') (absent _)
    | some b =>
      simp only [Query.optional, append_assoc] at e
      obtain ⟨rfl, rest⟩ := h (ok a rfl) (ok' b rfl) hr hr' (text_append_cancel e)
      exact ⟨rfl, rest⟩

end Combinators

end Query

end BoundSql
