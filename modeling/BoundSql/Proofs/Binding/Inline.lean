import BoundSql.Proofs.Binding.Fill
import BoundSql.Proofs.Build
import BoundSql.Proofs.Clauses
import BoundSql.Proofs.Filter
import BoundSql.Proofs.Script.Slots

/-!
# Inline statements

The plain way to write a statement out is to put the text of each value where it belongs: behind the
field that it is assigned to, into its row, into the clause of its own predicate. Queries are
written with placeholders and a separate list of values instead. The two agree: binding the values
of a query by position gives the inline statement, whatever mix of fragments with no, one or many
values it is made of.
-/

namespace BoundSql

variable (tok : Value → String)

/-- A condition with the texts of its values in it. -/
def Condition.inline : Condition → String
  | compare field .equal v => field ++ " = " ++ tok v
  | compare field .notEqual v => field ++ " != " ++ tok v
  | compare field .less v => field ++ " < " ++ tok v
  | compare field .lessOrEqual v => field ++ " <= " ++ tok v
  | compare field .greater v => field ++ " > " ++ tok v
  | compare field .greaterOrEqual v => field ++ " >= " ++ tok v
  | compare field .like v => field ++ " LIKE " ++ tok v
  | isNull field => field ++ " IS NULL"
  | isNotNull field => field ++ " IS NOT NULL"
  | isIn field vs => field ++ " IN (" ++ ",".intercalate (vs.map tok) ++ ")"

/-- The clause of a predicate in which its own question marks have given way to its own values. -/
def Predicate.inline (p : Predicate) : String :=
  ((⟨p.clause, p.arguments⟩ : Query).bind tok).getD p.clause

/-- A filter with the texts of its values in it. -/
def Filter.inline : Filter → String
  | condition c => c.inline tok
  | custom p => p.inline tok

/-- The part of an inline statement that begins with `WHERE`. -/
def Predicates.inline (ps : Predicates) : String :=
  if ps.items.isEmpty then "" else " WHERE " ++ " AND ".intercalate (ps.items.map (·.inline tok))

/-- The part of an inline SELECT statement that says how rows are sorted. -/
def Select.inlineOrder (s : Select) : String :=
  match s.order with
  | none => ""
  | some ⟨column, false⟩ => " ORDER BY " ++ column ++ " ASC"
  | some ⟨column, true⟩ => " ORDER BY " ++ column ++ " DESC"

/-- The part of an inline SELECT statement with the largest number of rows, which is not zero. -/
def Select.inlineLimit (s : Select) : String :=
  match s.limit with
  | none | some 0 => ""
  | some n => " LIMIT " ++ n.repr

/-- The part of an inline SELECT statement with the number of rows that are skipped, if any are. -/
def Select.inlineOffset (s : Select) : String :=
  match s.offset with
  | none | some 0 => ""
  | some n => " OFFSET " ++ n.repr

/-- An inline SELECT statement. -/
def Select.inline (s : Select) (table : String) : String :=
  "SELECT " ++ ", ".intercalate s.columns ++ " FROM " ++ table ++ s.predicates.inline tok ++
    s.inlineOrder ++ s.inlineLimit ++ s.inlineOffset

/-- An inline INSERT statement. -/
def Insert.inline (s : Insert) (table : String) : String :=
  "INSERT INTO " ++ table ++ " (" ++ ", ".intercalate s.columns ++ ") VALUES " ++
    ", ".intercalate (s.rows.map fun row => "(" ++ ", ".intercalate (row.map tok) ++ ")")

/-- The part of an inline UPDATE statement that begins with `SET`. -/
def Update.inlineSet (s : Update) : String :=
  if s.assignments.isEmpty then ""
  else " SET " ++ ", ".intercalate (s.assignments.map fun a => a.field ++ " = " ++ tok a.value)

/-- An inline UPDATE statement. -/
def Update.inline (s : Update) (table : String) : String :=
  "UPDATE " ++ table ++ s.inlineSet tok ++ s.predicates.inline tok

/-- An inline statement of any kind. -/
def Statement.inline : Statement → String → String
  | select s => s.inline tok
  | insert s => s.inline tok
  | update s => s.inline tok

/-- A filter whose placeholders and values pair off: the field of a ready-made condition holds no
question mark, and a clause that is written by hand has one for each value. -/
def Filter.Balanced : Filter → Prop
  | condition c => Unmarked c.field
  | custom p => p.clause.toList.count '?' = p.arguments.length

instance (f : Filter) : Decidable f.Balanced :=
  match f with
  | .condition c => inferInstanceAs (Decidable (Unmarked c.field))
  | .custom p => inferInstanceAs (Decidable (p.clause.toList.count '?' = p.arguments.length))

variable {tok}

lemma Predicate.toQuery_eq_arguments (p : Predicate) : p.toQuery = ⟨p.clause, p.arguments⟩ := by
  rw [toQuery, p.values_eq_arguments]

/-- A placeholder behind unmarked text is bound to the text of its value. -/
lemma Query.bind_operand {field operator : String} (h : Unmarked field) (h' : Unmarked operator)
    (v : Value) :
    (⟨field ++ (operator ++ "?"), [v]⟩ : Query).bind tok = some (field ++ operator ++ tok v) := by
  have bound : (text (field ++ operator) ++ placeholder v).bind tok =
      some (field ++ operator ++ tok v) :=
    bind_append (bind_text (h.append h')) (bind_placeholder v)
  rwa [text_append, append_assoc] at bound

/-- A condition on an unmarked field is bound to its inline form. -/
lemma Condition.bind_toPredicate {c : Condition} (h : Unmarked c.field) :
    c.toPredicate.toQuery.bind tok = some (c.inline tok) := by
  cases c with
  | compare field comparison v =>
    rw [toPredicate_eq_written]
    cases comparison with
    | equal => exact Query.bind_operand h (show Unmarked " = " by decide) v
    | notEqual => exact Query.bind_operand h (show Unmarked " != " by decide) v
    | less => exact Query.bind_operand h (show Unmarked " < " by decide) v
    | lessOrEqual => exact Query.bind_operand h (show Unmarked " <= " by decide) v
    | greater => exact Query.bind_operand h (show Unmarked " > " by decide) v
    | greaterOrEqual => exact Query.bind_operand h (show Unmarked " >= " by decide) v
    | like => exact Query.bind_operand h (show Unmarked " LIKE " by decide) v
  | isNull field => exact Query.bind_text (h.append (by decide))
  | isNotNull field => exact Query.bind_text (h.append (by decide))
  | isIn field vs =>
    have front : Unmarked (field ++ " IN (") := h.append (by decide)
    have list : (Query.join "," (vs.map .placeholder)).bind tok =
        some (",".intercalate (vs.map tok)) :=
      Query.bind_join (by decide) vs fun v _ => Query.bind_placeholder v
    rw [toQuery_isIn]
    exact Query.bind_append (Query.bind_append (Query.bind_text front) list)
      (Query.bind_text (by decide))

/-- A balanced filter is bound to its inline form. -/
lemma Filter.bind_toPredicate {f : Filter} (h : f.Balanced) :
    f.toPredicate.toQuery.bind tok = some (f.inline tok) := by
  cases f with
  | condition c => exact Condition.bind_toPredicate h
  | custom p =>
    obtain ⟨s, bound⟩ := Query.exists_bind (q := ⟨p.clause, p.arguments⟩) tok h
    show p.toQuery.bind tok = some (p.inline tok)
    rw [Predicate.inline, p.toQuery_eq_arguments, bound]
    rfl

/-- The predicate of a balanced filter has the inline form of the filter. -/
lemma Filter.inline_toPredicate {f : Filter} (h : f.Balanced) :
    f.toPredicate.inline tok = f.inline tok := by
  rw [Predicate.inline, ← Predicate.toQuery_eq_arguments, bind_toPredicate h]
  rfl

lemma Predicates.bind_whereClause {ps : Predicates}
    (h : ∀ p ∈ ps.items, p.toQuery.bind tok = some (p.inline tok)) :
    ps.whereClause.bind tok = some (ps.inline tok) := by
  unfold whereClause Predicates.inline isEmpty
  split
  · exact Query.bind_empty
  · exact Query.bind_append (Query.bind_text (by decide))
      (Query.bind_join (by decide) ps.items h)

lemma Select.bind_orderClause {s : Select} (h : ∀ o ∈ s.order, Unmarked o.column) :
    s.orderClause.bind tok = some s.inlineOrder := by
  unfold orderClause inlineOrder
  cases e : s.order with
  | none => exact Query.bind_empty
  | some o =>
    obtain ⟨column, descending⟩ := o
    have front : Unmarked (" ORDER BY " ++ column) := Unmarked.append (by decide) (h _ e)
    cases descending with
    | false => exact Query.bind_text (front.append (show Unmarked " ASC" by decide))
    | true => exact Query.bind_text (front.append (show Unmarked " DESC" by decide))

/-- A number of rows that is not zero stands behind its keyword. -/
lemma Select.bind_countClause {keyword : String} (h : Unmarked keyword) (n : Option Nat) :
    (countClause keyword n).bind tok =
      some (match n with
        | none | some 0 => ""
        | some n => " " ++ keyword ++ " " ++ n.repr) := by
  have blank : Unmarked " " := by decide
  have front : Unmarked (" " ++ keyword ++ " ") := (blank.append h).append blank
  cases n with
  | none => exact Query.bind_empty
  | some n =>
    cases n with
    | zero => exact Query.bind_empty
    | succ k => exact Query.bind_text (front.append (unmarked_repr (k + 1)))

lemma Select.bind_limit (s : Select) :
    (countClause "LIMIT" s.limit).bind tok = some s.inlineLimit :=
  bind_countClause (by decide) s.limit

lemma Select.bind_offset (s : Select) :
    (countClause "OFFSET" s.offset).bind tok = some s.inlineOffset :=
  bind_countClause (by decide) s.offset

lemma unmarked_columns {columns : List String} (h : ∀ name ∈ columns, Unmarked name) :
    Unmarked (", ".intercalate columns) :=
  Unmarked.intercalate (by decide) h

lemma Select.bind_render {s : Select} {table : String} (ht : s.table = some table)
    (names : ∀ name ∈ s.names, Unmarked name)
    (filters : ∀ p ∈ s.predicates.items, p.toQuery.bind tok = some (p.inline tok)) :
    (s.render table).bind tok = some (s.inline tok table) := by
  have columns : Unmarked (", ".intercalate s.columns) :=
    unmarked_columns fun name h => names name (column_mem_names h)
  have unmarked : Unmarked table := names table (table_mem_names ht)
  have front : Unmarked ("SELECT " ++ ", ".intercalate s.columns ++ " FROM " ++ table) :=
    ((Unmarked.append (by decide) columns).append (by decide)).append unmarked
  have order : ∀ o ∈ s.order, Unmarked o.column :=
    fun o ho => names o.column (order_mem_names ho)
  apply Query.bind_append
  · apply Query.bind_append
    · apply Query.bind_append
      · exact Query.bind_append (Query.bind_text front) (Predicates.bind_whereClause filters)
      · exact Select.bind_orderClause order
    · exact s.bind_limit
  · exact s.bind_offset

lemma Insert.bind_rowQuery (row : List Value) :
    (rowQuery row).bind tok = some ("(" ++ ", ".intercalate (row.map tok) ++ ")") := by
  apply Query.bind_append
  · apply Query.bind_append (Query.bind_text (by decide))
    exact Query.bind_join (by decide) row fun v _ => Query.bind_placeholder v
  · exact Query.bind_text (by decide)

lemma Insert.bind_render {s : Insert} {table : String} (ht : s.table = some table)
    (names : ∀ name ∈ s.names, Unmarked name) :
    (s.render table).bind tok = some (s.inline tok table) := by
  have columns : Unmarked (", ".intercalate s.columns) :=
    unmarked_columns fun name h => names name (column_mem_names h)
  have unmarked : Unmarked table := names table (table_mem_names ht)
  have front :
      Unmarked ("INSERT INTO " ++ table ++ " (" ++ ", ".intercalate s.columns ++ ") VALUES ") :=
    (((Unmarked.append (by decide) unmarked).append (by decide)).append columns).append (by decide)
  apply Query.bind_append (Query.bind_text front)
  exact Query.bind_join (by decide) s.rows fun row _ => Insert.bind_rowQuery row

lemma Assignment.bind_toQuery {a : Assignment} (h : Unmarked a.field) :
    a.toQuery.bind tok = some (a.field ++ " = " ++ tok a.value) :=
  Query.bind_append (Query.bind_text (h.append (by decide))) (Query.bind_placeholder a.value)

lemma Update.bind_setClause {s : Update} (h : ∀ a ∈ s.assignments, Unmarked a.field) :
    s.setClause.bind tok = some (s.inlineSet tok) := by
  unfold setClause inlineSet
  split
  · exact Query.bind_empty
  · apply Query.bind_append (Query.bind_text (by decide))
    exact Query.bind_join (by decide) s.assignments fun a ha => Assignment.bind_toQuery (h a ha)

lemma Update.bind_render {s : Update} {table : String} (ht : s.table = some table)
    (names : ∀ name ∈ s.names, Unmarked name)
    (filters : ∀ p ∈ s.predicates.items, p.toQuery.bind tok = some (p.inline tok)) :
    (s.render table).bind tok = some (s.inline tok table) := by
  have unmarked : Unmarked table := names table (table_mem_names ht)
  have front : Unmarked ("UPDATE " ++ table) := Unmarked.append (by decide) unmarked
  have fields : ∀ a ∈ s.assignments, Unmarked a.field :=
    fun a ha => names a.field (field_mem_names ha)
  apply Query.bind_append
  · exact Query.bind_append (Query.bind_text front) (Update.bind_setClause fields)
  · exact Predicates.bind_whereClause filters

/-- A statement of any kind is bound to its inline form. -/
lemma Statement.bind_render {s : Statement} {table : String} (ht : s.table? = some table)
    (names : ∀ name ∈ s.names, Unmarked name)
    (filters : ∀ p ∈ s.predicates.items, p.toQuery.bind tok = some (p.inline tok)) :
    (s.render table).bind tok = some (s.inline tok table) := by
  cases s with
  | select s => exact Select.bind_render ht names filters
  | insert s => exact Insert.bind_render ht names
  | update s => exact Update.bind_render ht names filters

/-- Binding the values of a statement by position puts each of them where it belongs, and those of
a filter into the text of this filter. -/
theorem Script.bind_eq_inline (tok : Value → String) {script : Script} {s : Statement} {q : Query}
    (reached : script.statement = .ok s) (built : s.toQuery = .ok q)
    (names : ∀ name ∈ s.names, Unmarked name) (filters : ∀ f ∈ script.filters, f.Balanced) :
    ∃ table, s.table? = some table ∧ q.bind tok = some (s.inline tok table) ∧
      s.predicates.items.map (·.inline tok) = script.filters.map (·.inline tok) := by
  obtain ⟨table, named, -, -, rfl⟩ := Statement.toQuery_eq_ok_iff.1 built
  -- each predicate was put there by a filter of the script, and these are balanced
  have items : s.predicates.items = script.filters.map Filter.toPredicate :=
    Script.items_statement reached
  have inlined : ∀ f ∈ script.filters, f.toPredicate.inline tok = f.inline tok :=
    fun f hf => Filter.inline_toPredicate (filters f hf)
  refine ⟨table, named, Statement.bind_render named names ?_, ?_⟩
  · intro p hp
    rw [items, List.mem_map] at hp
    obtain ⟨f, hf, rfl⟩ := hp
    rw [inlined f hf]
    exact Filter.bind_toPredicate (filters f hf)
  · rw [items, List.map_map]
    exact List.map_congr_left inlined

/-- Assignments come before predicates, and lists and clauses with several values take theirs. -/
theorem Script.bind_eq_inline_mixed :
    let tok : Value → String := fun v => match v with
      | .text s => "<" ++ s ++ ">"
      | _ => "-"
    let steps : List Update.Step :=
      [.filterIf true (.isIn "r" [.text "x", .null]), .always (.assign "a" (.text "?")),
        .always (.filter (.custom ⟨"b = ? OR ? < c AND d = ?",
          some (.list [.text "y", .text "z", .null])⟩))]
    ∃ s q, (Script.update (.tableById (.named "t") (.text "7")) steps).statement = .ok s ∧
      s.toQuery = .ok q ∧
      q.sql = "UPDATE t SET a = ? WHERE id = ? AND r IN (?,?) AND b = ? OR ? < c AND d = ?" ∧
      q.bind tok = some
        "UPDATE t SET a = <?> WHERE id = <7> AND r IN (<x>,-) AND b = <y> OR <z> < c AND d = -" ∧
      s.predicates.items.map (·.inline tok) =
        ["id = <7>", "r IN (<x>,-)", "b = <y> OR <z> < c AND d = -"] := by
  intro tok steps
  refine ⟨_, _, rfl, rfl, by decide, ?_⟩
  have reached : (Script.update (.tableById (.named "t") (.text "7")) steps).statement = .ok _ :=
    rfl
  obtain ⟨table, named, bound, inlined⟩ := bind_eq_inline tok reached rfl (by decide) (by decide)
  cases named
  exact ⟨bound.trans (by decide), inlined.trans (by decide)⟩

end BoundSql
