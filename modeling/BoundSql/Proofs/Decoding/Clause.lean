import BoundSql.Proofs.Decoding.Code

/-!
# Decodable clauses

The clauses of SELECT and UPDATE statements on well-formed names are decodable before what can
follow them in a statement. A condition is told from others by its keyword and then by the beginning
of its operand, so nothing need be known about what follows it.
-/

namespace BoundSql

lemma Comparison.operator_injective {a b : Comparison} (h : a.operator = b.operator) : a = b := by
  cases a <;> cases b <;> first | rfl | exact absurd h (by decide)

lemma Comparison.operator_ne (comparison : Comparison) :
    comparison.operator ≠ "IS" ∧ comparison.operator ≠ "IN" := by
  cases comparison <;> decide

namespace Condition

lemma wellFormed_keyword (c : Condition) : WellFormedName c.keyword := by
  cases c with
  | compare field comparison v =>
    show WellFormedName comparison.operator
    cases comparison <;> decide
  | isNull field => exact (by decide : WellFormedName "IS")
  | isNotNull field => exact (by decide : WellFormedName "IS")
  | isIn field vs => exact (by decide : WellFormedName "IN")

lemma decodable_placeholders :
    Query.Decodable (fun vs : List Value => .join "," (vs.map .placeholder))
      (fun vs => ∀ v ∈ vs, True) (Query.Before [")"]) := by
  apply Query.decodable_placeholder.join
  · exact fun _ => trivial
  · exact fun _ _ => trivial
  · exact fun _ => Query.not_before_text_append (by decide) (by decide)
  · exact fun v r _ _ => Continues.not_append (s := "?") (a := r.sql) (by decide) (by decide)

/-- Fields and keywords leave only the operands to be told apart. -/
lemma eq_of_operand {c d : Condition} {r r' : Query} (field : c.field = d.field)
    (keyword : c.keyword = d.keyword) (e : c.operand ++ r = d.operand ++ r') : c = d ∧ r = r' := by
  -- only `NULL` and `NOT NULL` share a keyword, and these are told apart by their operands
  cases c with
  | compare f k v =>
    cases d with
    | compare f' k' v' =>
      cases field
      cases Comparison.operator_injective keyword
      obtain ⟨rfl, rest⟩ := Query.decodable_placeholder trivial trivial trivial trivial e
      exact ⟨rfl, rest⟩
    | isNull f' => exact absurd keyword k.operator_ne.1
    | isNotNull f' => exact absurd keyword k.operator_ne.1
    | isIn f' vs' => exact absurd keyword k.operator_ne.2
  | isNull f =>
    cases d with
    | compare f' k' v' => exact absurd keyword.symm k'.operator_ne.1
    | isNull f' =>
      cases field
      exact ⟨rfl, Query.text_append_cancel e⟩
    | isNotNull f' => exact (Query.text_append_ne (by decide) _ _ e).elim
    | isIn f' vs' => exact absurd keyword (by decide : "IS" ≠ "IN")
  | isNotNull f =>
    cases d with
    | compare f' k' v' => exact absurd keyword.symm k'.operator_ne.1
    | isNull f' => exact (Query.text_append_ne (by decide) _ _ e).elim
    | isNotNull f' =>
      cases field
      exact ⟨rfl, Query.text_append_cancel e⟩
    | isIn f' vs' => exact absurd keyword (by decide : "IS" ≠ "IN")
  | isIn f vs =>
    cases d with
    | compare f' k' v' => exact absurd keyword.symm k'.operator_ne.2
    | isNull f' => exact absurd keyword (by decide : "IN" ≠ "IS")
    | isNotNull f' => exact absurd keyword (by decide : "IN" ≠ "IS")
    | isIn f' vs' =>
      cases field
      simp only [operand, Query.append_assoc] at e
      obtain ⟨rfl, rest⟩ := decodable_placeholders (fun _ _ => trivial) (fun _ _ => trivial)
        (Query.before_text_append List.mem_cons_self) (Query.before_text_append List.mem_cons_self)
        (Query.text_append_cancel e)
      exact ⟨rfl, Query.text_append_cancel rest⟩

/-- A condition on a well-formed field is told from what follows, whatever that is. -/
lemma decodable_toQuery :
    Query.Decodable (fun c : Condition => c.toPredicate.toQuery) (fun c => WellFormedName c.field)
      (fun _ => True) := by
  intro c d r r' hc hd _ _ e
  -- the field ends at the first blank, even if it is a keyword itself
  simp only [toQuery_eq, Query.append_assoc] at e
  obtain ⟨field, e⟩ := Query.decodable_name hc hd
    (Query.before_text_append List.mem_cons_self) (Query.before_text_append List.mem_cons_self) e
  obtain ⟨keyword, e⟩ := Query.decodable_name c.wellFormed_keyword d.wellFormed_keyword
    (Query.before_text_append List.mem_cons_self) (Query.before_text_append List.mem_cons_self)
    (Query.text_append_cancel e)
  exact eq_of_operand field keyword (Query.text_append_cancel e)

/-- The conditions behind `WHERE` end where the rest of a SELECT statement begins. -/
lemma decodable_whereClause :
    Query.Decodable
      (fun cs : List Condition => .listed " WHERE " " AND " (cs.map fun c => c.toPredicate.toQuery))
      (fun cs => ∀ c ∈ cs, WellFormedName c.field)
      (Query.Before [" ORDER BY ", " LIMIT ", " OFFSET "]) := by
  apply decodable_toQuery.listed
  · exact fun _ => trivial
  · exact fun _ _ => trivial
  · exact fun _ => Query.not_before_text_append (by decide) (by decide)
  · exact fun _ _ _ _ => Query.not_before_text_append (by decide) (by decide)

end Condition

namespace Assignment

/-- An assignment to a well-formed field ends with its placeholder. -/
lemma decodable_toQuery :
    Query.Decodable toQuery (fun a => WellFormedName a.field) (fun _ => True) := by
  intro a b r r' ha hb _ _ e
  simp only [toQuery, Query.text_append, Query.append_assoc] at e
  obtain ⟨field, e⟩ := Query.decodable_name ha hb
    (.mono (by decide) (Query.before_text_append (List.mem_singleton_self " = ")))
    (.mono (by decide) (Query.before_text_append (List.mem_singleton_self " = "))) e
  obtain ⟨value, rest⟩ := Query.decodable_placeholder trivial trivial trivial trivial
    (Query.text_append_cancel e)
  cases a
  cases b
  cases field
  cases value
  exact ⟨rfl, rest⟩

/-- The assignments behind `SET` end where the predicates begin. -/
lemma decodable_setClause :
    Query.Decodable (fun as : List Assignment => .listed " SET " ", " (as.map toQuery))
      (fun as => ∀ a ∈ as, WellFormedName a.field) (Query.Before [" WHERE "]) := by
  apply decodable_toQuery.listed
  · exact fun _ => trivial
  · exact fun _ _ => trivial
  · exact fun _ => Query.not_before_text_append (by decide) (by decide)
  · exact fun _ _ _ _ => Query.not_before_text_append (by decide) (by decide)

end Assignment

namespace Query

/-- The columns of a SELECT statement end where its table is announced. -/
lemma decodable_columns :
    Decodable (fun names : List String => join ", " (names.map text))
      (fun names => ∀ name ∈ names, WellFormedName name) (Before [" FROM "]) := by
  apply decodable_name.join
  · exact fun r => .mono (by decide) (before_text_append (List.mem_singleton_self ", "))
  · exact fun r hr => hr.mono (by decide)
  · exact fun r => not_before_text_append (by decide) (by decide)
  · exact fun name r h _ before => not_before_name h r (before.mono (by decide))

end Query

/-- A column is told from the direction behind it. -/
lemma OrderBy.decodable_toQuery :
    Query.Decodable toQuery (fun o => WellFormedName o.column) (fun _ => True) := by
  intro o p r r' ho hp _ _ e
  have direction (b : Bool) (r : Query) :
      Query.Before [" ", ","] (.text (if b then " DESC" else " ASC") ++ r) := by
    cases b
    · exact .mono (by decide) (Query.before_text_append (List.mem_singleton_self " ASC"))
    · exact .mono (by decide) (Query.before_text_append (List.mem_singleton_self " DESC"))
  obtain ⟨c, b⟩ := o
  obtain ⟨c', b'⟩ := p
  simp only [toQuery, Query.append_assoc] at e
  obtain ⟨rfl, rest⟩ := Query.decodable_name ho hp (direction b r) (direction b' r') e
  cases b with
  | false =>
    cases b' with
    | false => exact ⟨rfl, Query.text_append_cancel rest⟩
    | true => exact (Query.text_append_ne (by decide) _ _ rest).elim
  | true =>
    cases b' with
    | false => exact (Query.text_append_ne (by decide) _ _ rest).elim
    | true => exact ⟨rfl, Query.text_append_cancel rest⟩

namespace Select

lemma decodable_orderClause :
    Query.Decodable (.optional " ORDER BY " OrderBy.toQuery)
      (fun o => ∀ a ∈ o, WellFormedName a.column) (Query.Before [" LIMIT ", " OFFSET "]) := by
  apply Query.Decodable.optional
  · exact OrderBy.decodable_toQuery.mono fun _ _ => trivial
  · exact fun _ => Query.not_before_text_append (by decide) (by decide)

end Select

lemma wellFormed_repr (n : Nat) : WellFormedName n.repr := by
  refine ⟨Nat.repr_ne_empty, ?_, ?_⟩ <;>
  · intro h
    rw [Nat.toList_repr] at h
    have digit := Nat.isDigit_of_mem_toDigits (by decide) (by decide) h
    exact absurd digit (by decide)

lemma repr_injective {m n : Nat} (h : m.repr = n.repr) : m = n := by
  have digits : Nat.toDigits 10 m = Nat.toDigits 10 n := by
    rw [← Nat.toList_repr, ← Nat.toList_repr, h]
  rw [← Nat.ofDigitChars_ten_toDigits (n := m), digits, Nat.ofDigitChars_ten_toDigits]

/-- The digits of a number end where a separator follows. -/
lemma Query.decodable_repr :
    Decodable (fun n : Nat => text n.repr) (fun _ => True) (Before [" ", ","]) := by
  intro m n r r' _ _ hr hr' e
  obtain ⟨digits, rest⟩ := decodable_name (wellFormed_repr m) (wellFormed_repr n) hr hr' e
  exact ⟨repr_injective digits, rest⟩

lemma Select.decodable_limitClause :
    Query.Decodable (.optional " LIMIT " fun n : Nat => .text n.repr) (fun o => ∀ n ∈ o, True)
      (Query.Before [" OFFSET "]) := by
  apply Query.Decodable.optional
  · exact Query.decodable_repr.mono fun r hr => hr.mono (by decide)
  · exact fun _ => Query.not_before_text_append (by decide) (by decide)

lemma Select.decodable_offsetClause :
    Query.Decodable (.optional " OFFSET " fun n : Nat => .text n.repr) (fun o => ∀ n ∈ o, True)
      (Query.Before []) := by
  apply Query.Decodable.optional
  · exact Query.decodable_repr.mono fun r hr => hr.mono (by decide)
  · exact fun _ => Query.not_before_text_append (by decide) (by decide)

end BoundSql
