import BoundSql.Query
import Mathlib.Tactic.Lemma

/-!
# Filling in placeholders

`Query.bind` puts the texts of values in place of the question marks of a query, from left to right
and without looking at the inserted text again. It fails as soon as the two do not pair off. Binding
goes through the pieces that a query is made of: pieces that pair off by themselves do so together,
and what they become stands side by side.
-/

namespace BoundSql

/-- Text in which no question mark stands. -/
def Unmarked (s : String) : Prop := '?' ∉ s.toList

instance (s : String) : Decidable (Unmarked s) := inferInstanceAs (Decidable (_ ∉ _))

namespace Query

/-- Each question mark gives way to the text of the next value; none of either may be left over. -/
def fill (tok : Value → String) : List Char → List Value → Option (List Char)
  | [], [] => some []
  | [], _ :: _ => none
  | c :: cs, vs =>
    if c = '?' then
      match vs with
      | [] => none
      | v :: vs => (fill tok cs vs).map ((tok v).toList ++ ·)
    else (fill tok cs vs).map (c :: ·)

/-- The text of a query with the texts of its values in place of the placeholders. -/
def bind (tok : Value → String) (q : Query) : Option String :=
  (fill tok q.sql.toList q.params).map String.ofList

variable {tok : Value → String}

/-- Characters without a question mark stay as they are. -/
lemma fill_unmarked {cs : List Char} (h : '?' ∉ cs) : fill tok cs [] = some cs := by
  induction cs with
  | nil => rfl
  | cons c cs ih =>
    rw [List.mem_cons, not_or] at h
    rw [fill, if_neg (Ne.symm h.1), ih h.2]
    rfl

/-- Filling goes through concatenation. -/
lemma fill_append {cs ds out out' : List Char} {vs ws : List Value}
    (hc : fill tok cs vs = some out) (hd : fill tok ds ws = some out') :
    fill tok (cs ++ ds) (vs ++ ws) = some (out ++ out') := by
  -- along the first text; a value goes only where a question mark does
  induction cs generalizing vs out with
  | nil =>
    cases vs with
    | nil => cases hc; exact hd
    | cons v vs => cases hc
  | cons c cs ih =>
    rw [List.cons_append]
    by_cases mark : c = '?'
    · cases vs with
      | nil => simp [fill, mark] at hc
      | cons v vs =>
        simp only [fill, mark, if_true, Option.map_eq_some_iff] at hc
        obtain ⟨rest, h, rfl⟩ := hc
        simp [fill, mark, ih h]
    · simp only [fill, mark, if_false, Option.map_eq_some_iff] at hc
      obtain ⟨rest, h, rfl⟩ := hc
      simp [fill, mark, ih h]

/-- Question marks and values pair off when there are as many of the ones as of the others. -/
lemma exists_fill (tok : Value → String) {cs : List Char} {vs : List Value}
    (h : cs.count '?' = vs.length) : ∃ out, fill tok cs vs = some out := by
  induction cs generalizing vs with
  | nil =>
    rw [List.count_nil] at h
    rw [List.eq_nil_of_length_eq_zero h.symm]
    exact ⟨[], rfl⟩
  | cons c cs ih =>
    by_cases mark : c = '?'
    · cases vs with
      | nil => simp [mark] at h
      | cons v vs =>
        rw [mark, List.count_cons_self, List.length_cons, Nat.add_right_cancel_iff] at h
        obtain ⟨out, e⟩ := ih h
        exact ⟨(tok v).toList ++ out, by simp [fill, mark, e]⟩
    · rw [List.count_cons_of_ne mark] at h
      obtain ⟨out, e⟩ := ih h
      exact ⟨c :: out, by simp [fill, mark, e]⟩

lemma bind_text {s : String} (h : Unmarked s) : (text s).bind tok = some s := by
  simp [bind, text, fill_unmarked h]

lemma bind_placeholder (v : Value) : (placeholder v).bind tok = some (tok v) := by
  simp [bind, placeholder, fill]

lemma bind_empty : empty.bind tok = some "" := rfl

/-- Binding goes through putting queries one behind the other. -/
lemma bind_append {a b : Query} {s t : String}
    (ha : a.bind tok = some s) (hb : b.bind tok = some t) :
    (a ++ b).bind tok = some (s ++ t) := by
  simp only [bind, Option.map_eq_some_iff] at ha hb
  obtain ⟨cs, ea, rfl⟩ := ha
  obtain ⟨ds, eb, rfl⟩ := hb
  simp [bind, fill_append ea eb]

/-- Binding goes through joining when the separator holds no question mark. -/
lemma bind_join {α : Type} {separator : String} {part : α → Query} {become : α → String}
    (hs : Unmarked separator) (xs : List α)
    (h : ∀ x ∈ xs, (part x).bind tok = some (become x)) :
    (join separator (xs.map part)).bind tok = some (separator.intercalate (xs.map become)) := by
  induction xs with
  | nil => rfl
  | cons x xs ih =>
    have head := h x List.mem_cons_self
    have tail := ih fun y hy => h y (List.mem_cons_of_mem x hy)
    cases xs with
    | nil => simpa [join, text] using head
    | cons y ys =>
      have joined := bind_append (bind_append head (bind_text hs)) tail
      simpa only [List.map_cons, join_cons_cons, String.intercalate_cons_cons] using joined

lemma exists_bind (tok : Value → String) {q : Query} (h : q.placeholderCount = q.params.length) :
    ∃ s, q.bind tok = some s := by
  obtain ⟨out, e⟩ := exists_fill tok h
  exact ⟨String.ofList out, by rw [bind, e]; rfl⟩

end Query

lemma Unmarked.append {s t : String} (hs : Unmarked s) (ht : Unmarked t) : Unmarked (s ++ t) := by
  unfold Unmarked at *
  simp [hs, ht]

/-- A character that stands neither in a separator nor in any of the joined texts. -/
lemma notMem_intercalate {c : Char} {separator : String} {texts : List String}
    (hs : c ∉ separator.toList) (h : ∀ s ∈ texts, c ∉ s.toList) :
    c ∉ (separator.intercalate texts).toList := by
  induction texts with
  | nil => simp
  | cons s texts ih =>
    have head := h s List.mem_cons_self
    have tail := ih fun x hx => h x (List.mem_cons_of_mem s hx)
    cases texts with
    | nil => simpa using head
    | cons next rest =>
      simp only [String.intercalate_cons_cons, String.toList_append, List.mem_append, not_or]
      exact ⟨⟨head, hs⟩, tail⟩

lemma Unmarked.intercalate {separator : String} {names : List String}
    (hs : Unmarked separator) (h : ∀ name ∈ names, Unmarked name) :
    Unmarked (separator.intercalate names) :=
  notMem_intercalate hs h

lemma unmarked_repr (n : Nat) : Unmarked n.repr := by
  intro h
  rw [Nat.toList_repr] at h
  have digit := Nat.isDigit_of_mem_toDigits (by decide) (by decide) h
  exact absurd digit (by decide)

end BoundSql
