import BoundSql.Proofs.Reading.Grammar

/-!
# Reading clauses

The text of a clause is read as the expression that its tokens are read as, and whether it is true
depends on which atoms are. Two clauses with `AND` between them are read by joining their tokens. A
ready-made condition on an operand is a single atom: the keyword and the values behind the field
bring no connective with them that stands outside of parentheses.
-/

namespace BoundSql

variable {ι : Type} {l l' : Precedence} {a b : String} {is js : List ι}
  {e f : Expr (List (Token ι))}

/-- The expression that a text is read as; `bound` holds what its question marks stand for. -/
def ReadsAs (l : Precedence) (text : String) (bound : List ι) (e : Expr (List (Token ι))) : Prop :=
  ∃ ts, tokens? text bound = some ts ∧ Reads l ts e

/-- A text is read as an expression that is true, given which atoms are. -/
def Holds (σ : List (Token ι) → Bool) (text : String) (bound : List ι) : Prop :=
  ∃ e, ReadsAs .disjunction text bound e ∧ e.holds σ = true

namespace ReadsAs

lemma reads {ts : List (Token ι)} (h : ReadsAs l a is e) (tokens : tokens? a is = some ts) :
    Reads l ts e := by
  obtain ⟨us, tokens', r⟩ := h
  obtain rfl := Option.some.inj (tokens.symm.trans tokens')
  exact r

/-- A text has at most one reading. -/
lemma unique (h : ReadsAs l a is e) (h' : ReadsAs l a is f) : e = f := by
  obtain ⟨ts, tokens, r⟩ := h
  exact r.unique (h'.reads tokens)

lemma imp (h : ReadsAs l a is e) (weaker : ∀ {ts}, Reads l ts e → Reads l' ts e) :
    ReadsAs l' a is e := by
  obtain ⟨ts, tokens, r⟩ := h
  exact ⟨ts, tokens, weaker r⟩

lemma conjunction (h : ReadsAs .factor a is e) : ReadsAs .conjunction a is e := h.imp .factor

lemma disjunction (h : ReadsAs .conjunction a is e) : ReadsAs .disjunction a is e :=
  h.imp .conjunction

lemma holds_iff (h : ReadsAs .disjunction a is e) (σ : List (Token ι) → Bool) :
    Holds σ a is ↔ e.holds σ = true := by
  constructor
  · rintro ⟨f, h', holds⟩
    rwa [h.unique h']
  · intro holds
    exact ⟨e, h, holds⟩

lemma and_conjunction (ha : ReadsAs .conjunction a is e) (fits : is.length = marks a)
    (hb : ReadsAs .conjunction b js f) :
    ∃ g, ReadsAs .conjunction (a ++ " AND " ++ b) (is ++ js) g := by
  obtain ⟨ts, tokens, r⟩ := ha
  obtain ⟨us, tokens', r'⟩ := hb
  obtain ⟨g, reads, -⟩ := r.and_conjunction r'
  exact ⟨g, _, tokens?_and tokens fits tokens', reads⟩

/-- `Reads.exists_and` for texts with `AND` between them. -/
lemma exists_and (ha : ReadsAs .disjunction a is e) (fits : is.length = marks a)
    (hb : ReadsAs .disjunction b js f) :
    ∃ g, ReadsAs .disjunction (a ++ " AND " ++ b) (is ++ js) g ∧ ∀ σ,
      (e.holds σ = true → f.holds σ = true → g.holds σ = true) ∧
      (ReadsAs .conjunction b js f → g.holds σ = true → e.holds σ = true) ∧
      (ReadsAs .conjunction a is e → g.holds σ = true → f.holds σ = true) := by
  obtain ⟨ts, tokens, r⟩ := ha
  obtain ⟨us, tokens', r'⟩ := hb
  obtain ⟨g, reads, known⟩ := r.exists_and r'
  refine ⟨g, ⟨_, tokens?_and tokens fits tokens', reads⟩, fun σ => ?_⟩
  obtain ⟨both, left, right⟩ := known σ
  exact ⟨both, fun h => left (h.reads tokens'), fun h => right (h.reads tokens)⟩

end ReadsAs

namespace Condition

lemma tokens?_keyword (c : Condition) :
    ∃ us : List (Token ι), tokens? c.keyword [] = some us ∧ Solid us ∧ us ≠ [] := by
  have words {s : String} {us : List (Token ι)} (tokens : tokens? s [] = some us)
      (all : us.all Token.isWord = true) (some : us.isEmpty = false) :
      ∃ us : List (Token ι), tokens? s [] = .some us ∧ Solid us ∧ us ≠ [] :=
    ⟨us, tokens, .words (List.all_eq_true.1 all), List.isEmpty_eq_false_iff.1 some⟩
  cases c with
  | compare field comparison v =>
    cases comparison <;> simp only [keyword, Comparison.operator] <;> exact words rfl rfl rfl
  | isNull field => exact words (show tokens? "IS" [] = _ from rfl) rfl rfl
  | isNotNull field => exact words (show tokens? "IS" [] = _ from rfl) rfl rfl
  | isIn field vs => exact words (show tokens? "IN" [] = _ from rfl) rfl rfl

/-- The placeholders of a list are symbols in parentheses. -/
lemma tokens?_placeholders (vs : List Value) (js : List ι) :
    ∃ us, tokens? ("(" ++ ((Query.join "," (vs.map .placeholder)).sql ++ ")")) js = some us ∧
      Solid us := by
  have symbols : ∀ c ∈ (Query.join "," (vs.map .placeholder)).sql.toList, Reader.IsSymbol c := by
    intro c mem
    by_contra other
    have absent {d : Char} (symbol : Reader.IsSymbol d) : c ∉ [d] :=
      fun mem => other (List.mem_singleton.1 mem ▸ symbol)
    have comma : c ∉ ",".toList := absent (d := ',') (by decide)
    have mark : c ∉ "?".toList := absent (d := '?') (by decide)
    rw [Query.sql_join_placeholder] at mem
    refine notMem_intercalate comma (fun s mem => ?_) mem
    obtain ⟨v, -, rfl⟩ := List.mem_map.1 mem
    exact mark
  obtain ⟨ts, words, read⟩ := Reader.run_symbols symbols js
  refine ⟨.opening :: (ts ++ [.closing]), ?_, .group (Solid.words words).closed⟩
  have opens : Reader.step {} ('(', none) = ([.opening], ({} : Reader ι)) := rfl
  have labels : label ("(" ++ ((Query.join "," (vs.map .placeholder)).sql ++ ")")).toList js =
      ('(', none) :: label ((Query.join "," (vs.map .placeholder)).sql.toList ++ [')']) js := by
    simp [label]
  unfold tokens?
  rw [labels, Reader.run, opens, read]
  simp [Reader.finish]

lemma tokens?_null : tokens? "NULL" ([] : List ι) = some [.word "NULL".toList []] := rfl

/-- What stands behind the keyword of a condition brings no connective with it. -/
lemma tokens?_operand (c : Condition) {js : List ι}
    (fits : js.length = c.operand.params.length) :
    ∃ us, tokens? c.operand.sql js = some us ∧ Solid us := by
  have null : Solid [.word "NULL".toList ([] : List ι)] := .words (by simp [Token.isWord])
  cases c with
  | compare field comparison v =>
    obtain ⟨i, rfl⟩ := List.length_eq_one_iff.1 fits
    have tokens : tokens? "?" [i] = some [.word ['?'] [i]] := rfl
    exact ⟨_, tokens, .words (by simp [Token.isWord])⟩
  | isNull field =>
    obtain rfl := List.eq_nil_of_length_eq_zero fits
    exact ⟨_, tokens?_null, null⟩
  | isNotNull field =>
    obtain rfl := List.eq_nil_of_length_eq_zero fits
    have not : tokens? "NOT" ([] : List ι) = some [.not] := rfl
    have text : "NOT" ++ " " ++ "NULL" = "NOT NULL" := by decide
    have tokens := tokens?_append not rfl tokens?_null
    rw [text] at tokens
    exact ⟨_, tokens, null.cons rfl nofun nofun⟩
  | isIn field vs =>
    exact tokens?_placeholders vs js

/-- A ready-made condition on an operand is a single atom. -/
lemma reads_atom (c : Condition) {is js : List ι} {ts : List (Token ι)}
    (field : tokens? c.field is = some ts) (operand : IsOperand ts)
    (fits : is.length = marks c.field) (fits' : js.length = c.operand.params.length) :
    ∃ us, ReadsAs .factor c.toPredicate.clause (is ++ js) (.atom us) := by
  obtain ⟨us, tokens, solid⟩ := c.tokens?_operand fits'
  have clause : c.toPredicate.clause =
      c.field ++ " " ++ (c.keyword ++ " " ++ c.operand.sql) := by
    have sql := congrArg Query.sql c.toQuery_eq
    simpa [Predicate.toQuery, String.append_assoc] using sql
  obtain ⟨ks, keyword, solid', ne⟩ := c.tokens?_keyword (ι := ι)
  have behind := tokens?_append keyword c.unmarked_keyword.marks_eq.symm tokens
  have whole := tokens?_append field fits behind
  rw [← clause] at whole
  have atom := operand.isAtom_append (solid'.append solid) (List.append_ne_nil_of_left_ne_nil ne us)
  exact ⟨_, _, whole, .atom atom⟩

end Condition

end BoundSql
