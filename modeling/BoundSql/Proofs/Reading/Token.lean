import BoundSql.Proofs.Placeholders

/-!
# The tokens of clauses

A clause is read token by token. Words are made of letters and digits and of what names are written
with. Parentheses and other symbols stand by themselves, whether or not there are blanks around them,
and what is quoted is a single token whatever it holds. The words that connect conditions are set
apart from the others. A question mark stands for something, such as the value that is bound to it,
and its token keeps what that is. Comments are not known.
-/

namespace BoundSql

variable {ι : Type}

/-- What clauses are made of; `ι` holds what question marks can stand for. -/
inductive Token (ι : Type) where
  | opening
  | closing
  | and
  | or
  | not
  /-- Any other word, a symbol, or what is quoted. -/
  | word (text : List Char) (bound : List ι)

/-- The token is neither a parenthesis nor a connective. -/
def Token.isWord : Token ι → Bool
  | word _ _ => true
  | _ => false

/-- The token of a word; connectives need not be written in capital letters. -/
def Token.ofWord (text : List Char) (bound : List ι) : Token ι :=
  match text.map Char.toUpper with
  | ['A', 'N', 'D'] => .and
  | ['O', 'R'] => .or
  | ['N', 'O', 'T'] => .not
  | _ => .word text bound

/-- Puts to each question mark what it stands for, from left to right. -/
def label : List Char → List ι → List (Char × Option ι)
  | [], _ => []
  | c :: cs, is => if c = '?' then (c, is.head?) :: label cs is.tail else (c, none) :: label cs is

lemma label_append {cs : List Char} {is : List ι} (h : is.length = cs.count '?') (ds : List Char)
    (js : List ι) : label (cs ++ ds) (is ++ js) = label cs is ++ label ds js := by
  induction cs generalizing is with
  | nil =>
    cases List.eq_nil_of_length_eq_zero h
    rfl
  | cons c cs ih =>
    by_cases mark : c = '?'
    · cases is with
      | nil => simp [mark] at h
      | cons i is =>
        rw [mark, List.count_cons_self, List.length_cons, Nat.add_right_cancel_iff] at h
        simp [label, mark, ih h]
    · rw [List.count_cons_of_ne mark] at h
      simp [label, mark, ih h]

/-- Names and numbers are written with this character. -/
def isWordChar (c : Char) : Bool :=
  c.isAlphanum || c ∈ ['_', '$', '@', '#', '.'] || 128 ≤ c.toNat

/-- How far a clause has been read: the quotation mark that is still open, and the token that is not
over yet. -/
structure Reader (ι : Type) where
  quote : Option Char := none
  text : List Char := []
  bound : List ι := []

namespace Reader

/-- The word, now that it is over; there is none between two blanks. -/
def finish (r : Reader ι) : List (Token ι) :=
  if r.text.isEmpty then [] else [.ofWord r.text r.bound]

/-- Adds a character to the token. -/
def extend (r : Reader ι) (c : Char × Option ι) : Reader ι :=
  { r with text := r.text ++ [c.1], bound := r.bound ++ c.2.toList }

/-- Reads a character. -/
def step (r : Reader ι) (c : Char × Option ι) : List (Token ι) × Reader ι :=
  match r.quote with
  | some q =>
    let r := r.extend c
    if c.1 = q then ([.word r.text r.bound], {}) else ([], r)
  | none =>
    if c.1.isWhitespace then (r.finish, {})
    else if c.1 = '(' then (r.finish ++ [.opening], {})
    else if c.1 = ')' then (r.finish ++ [.closing], {})
    else if c.1 = '\x27' ∨ c.1 = '\x22' then (r.finish, ⟨some c.1, [c.1], c.2.toList⟩)
    else if isWordChar c.1 then ([], r.extend c)
    else (r.finish ++ [.word [c.1] c.2.toList], {})

/-- Reads characters from left to right. -/
def run (r : Reader ι) : List (Char × Option ι) → List (Token ι) × Reader ι
  | [] => ([], r)
  | c :: cs =>
    let first := r.step c
    let rest := first.2.run cs
    (first.1 ++ rest.1, rest.2)

/-- Reading goes through concatenation. -/
lemma run_append (r : Reader ι) (cs ds : List (Char × Option ι)) :
    r.run (cs ++ ds) =
      ((r.run cs).1 ++ ((r.run cs).2.run ds).1, ((r.run cs).2.run ds).2) := by
  induction cs generalizing r with
  | nil => rfl
  | cons c cs ih => simp only [List.cons_append, run, ih, List.append_assoc]

/-- A character that is a token by itself. -/
def IsSymbol (c : Char) : Prop :=
  c.isWhitespace = false ∧ c ≠ '(' ∧ c ≠ ')' ∧ c ≠ '\x27' ∧ c ≠ '\x22' ∧ isWordChar c = false

instance (c : Char) : Decidable (IsSymbol c) :=
  inferInstanceAs (Decidable (_ ∧ _))

/-- Between parentheses, symbols have a token each. -/
lemma run_symbols {cs : List Char} (symbols : ∀ c ∈ cs, IsSymbol c) (is : List ι) :
    ∃ ts : List (Token ι), (∀ t ∈ ts, t.isWord) ∧
      run {} (label (cs ++ [')']) is) = (ts ++ [.closing], {}) := by
  induction cs generalizing is with
  | nil => exact ⟨[], nofun, rfl⟩
  | cons c cs ih =>
    obtain ⟨⟨blank, opening, closing, quote, quote', other⟩, later⟩ := List.forall_mem_cons.1 symbols
    have step (i : Option ι) : step {} (c, i) = ([.word [c] i.toList], {}) := by
      simp [step, blank, opening, closing, quote, quote', other, finish]
    obtain ⟨js, i, first⟩ : ∃ js i,
        label (c :: cs ++ [')']) is = (c, i) :: label (cs ++ [')']) js := by
      by_cases mark : c = '?'
      · exact ⟨is.tail, is.head?, by simp [label, mark]⟩
      · exact ⟨is, none, by simp [label, mark]⟩
    obtain ⟨ts, words, rest⟩ := ih later js
    refine ⟨.word [c] i.toList :: ts, List.forall_mem_cons.2 ⟨rfl, words⟩, ?_⟩
    rw [first, run, step, rest]
    rfl

end Reader

/-- The tokens of a text; there are none if a quotation is not closed. -/
def tokens? (text : String) (bound : List ι) : Option (List (Token ι)) :=
  let read := Reader.run {} (label text.toList bound)
  if read.2.quote.isSome then none else some (read.1 ++ read.2.finish)

lemma tokens?_eq_some {text : String} {is : List ι} {ts : List (Token ι)}
    (h : tokens? text is = some ts) :
    (Reader.run {} (label text.toList is)).2.quote = none ∧
      ts = (Reader.run {} (label text.toList is)).1 ++
        (Reader.run {} (label text.toList is)).2.finish := by
  dsimp only [tokens?] at h
  split at h
  · cases h
  · next closed =>
    cases h
    exact ⟨by simpa using closed, rfl⟩

/-- Texts with a blank between them have the tokens of the one and then those of the other. -/
lemma tokens?_append {a b : String} {is js : List ι} {ts us : List (Token ι)}
    (ha : tokens? a is = some ts) (fits : is.length = marks a) (hb : tokens? b js = some us) :
    tokens? (a ++ " " ++ b) (is ++ js) = some (ts ++ us) := by
  obtain ⟨closed, rfl⟩ := tokens?_eq_some ha
  obtain ⟨closed', rfl⟩ := tokens?_eq_some hb
  have labels : label (a ++ " " ++ b).toList (is ++ js) =
      label a.toList is ++ (' ', none) :: label b.toList js := by
    simp only [String.toList_append, List.append_assoc]
    rw [label_append fits]
    rfl
  -- the blank ends the last word of `a`, and `b` is read from the start
  have blank (r : Reader ι) (h : r.quote = none) : r.step (' ', none) = (r.finish, {}) := by
    rw [Reader.step, h]
    rfl
  unfold tokens?
  rw [labels, Reader.run_append, Reader.run, blank _ closed]
  simp [closed']

/-- Tokens in front of `AND`, the token of `AND`, and those behind it. -/
lemma tokens?_and {a b : String} {is js : List ι} {ts us : List (Token ι)}
    (ha : tokens? a is = some ts) (fits : is.length = marks a) (hb : tokens? b js = some us) :
    tokens? (a ++ " AND " ++ b) (is ++ js) = some (ts ++ .and :: us) := by
  have word : tokens? "AND" ([] : List ι) = some [.and] := rfl
  have text : a ++ " AND " ++ b = a ++ " " ++ ("AND" ++ " " ++ b) := by
    simp only [String.append_assoc]
    rfl
  have behind := tokens?_append word rfl hb
  rw [text]
  exact tokens?_append ha fits behind

end BoundSql
