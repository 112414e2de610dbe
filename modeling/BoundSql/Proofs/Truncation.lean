import BoundSql.Proofs.Build

/-!
# The longest beginning within a limit

Truncation leaves the longest beginning of a text that consists of whole characters and stays within
the limit. It is enough to look at the byte offsets between characters: `backOff` ends at the last of
them within the limit, and as no character needs more than four bytes, it gets there in at most three
steps.
-/

namespace BoundSql

namespace Truncation

/-- The longest beginning of a text, in whole characters, that needs at most `limit` bytes. -/
structure IsLongest (limit : Nat) (text shown : String) : Prop where
  beginning : shown.toList <+: text.toList
  fits : shown.utf8ByteSize ≤ limit
  longest (other : String) :
    other.toList <+: text.toList → other.utf8ByteSize ≤ limit → other.toList <+: shown.toList

variable {text shown other : String} {limit offset : Nat}

lemma isPrefix_toList_iff : shown.toList <+: text.toList ↔ ∃ rest, text = shown ++ rest := by
  constructor
  · rintro ⟨rest, eq⟩
    refine ⟨String.ofList rest, ?_⟩
    rw [← String.toList_inj, String.toList_append, String.toList_ofList, eq]
  · rintro ⟨rest, rfl⟩
    rw [String.toList_append]
    exact List.prefix_append _ _

lemma utf8ByteSize_le_of_isPrefix (beginning : shown.toList <+: text.toList) :
    shown.utf8ByteSize ≤ text.utf8ByteSize := by
  obtain ⟨rest, rfl⟩ := isPrefix_toList_iff.1 beginning
  rw [String.utf8ByteSize_append]
  exact Nat.le_add_right _ _

/-- Of two beginnings of a text the one that needs fewer bytes is a beginning of the other. -/
lemma isPrefix_of_utf8ByteSize_le (one : shown.toList <+: text.toList)
    (two : other.toList <+: text.toList) (le : shown.utf8ByteSize ≤ other.utf8ByteSize) :
    shown.toList <+: other.toList := by
  rcases List.prefix_or_prefix_of_prefix one two with shorter | longer
  · exact shorter
  · obtain ⟨rest, rfl⟩ := isPrefix_toList_iff.1 longer
    rw [String.utf8ByteSize_append] at le
    have none : rest = "" := String.utf8ByteSize_eq_zero_iff.1 (by omega)
    subst none
    exact isPrefix_toList_iff.2 ⟨"", by simp only [String.append_empty]⟩

/-- There is only one longest beginning. -/
lemma IsLongest.unique (one : IsLongest limit text shown) (two : IsLongest limit text other) :
    shown = other := by
  have le := two.longest shown one.beginning one.fits
  have ge := one.longest other two.beginning two.fits
  exact String.toList_inj.1 (le.eq_of_length_le ge.length_le)

lemma backOff_le : backOff text offset ≤ offset := by
  induction offset with
  | zero => exact Nat.le_refl 0
  | succ offset ih =>
    rw [backOff]
    split
    · exact Nat.le_refl _
    · exact Nat.le_succ_of_le ih

/-- Backing off passes over no offset between characters. -/
lemma le_backOff {p : String.Pos.Raw} (valid : p.IsValid text) (le : p.byteIdx ≤ offset) :
    p.byteIdx ≤ backOff text offset := by
  induction offset with
  | zero => exact le
  | succ offset ih =>
    rw [backOff]
    split
    next => exact le
    next invalid =>
      rcases Nat.le_succ_iff.1 le with below | here
      · exact ih below
      · obtain rfl : p = ⟨offset + 1⟩ := String.Pos.Raw.ext here
        exact absurd (String.Pos.Raw.isValid_eq_true_iff.2 valid) invalid

/-- A text that is too long is cut where backing off ends. -/
lemma exists_truncate_append (long : limit < text.utf8ByteSize) :
    (∃ rest, text = truncate text limit ++ rest) ∧
      (truncate text limit).utf8ByteSize = backOff text limit := by
  have split := (String.Pos.mk ⟨backOff text limit⟩ (isValid_backOff text limit)).splits
  rw [truncate, if_neg (Nat.not_le.2 long)]
  exact ⟨⟨_, split.eq_append⟩, congrArg String.Pos.Raw.byteIdx split.offset_eq_rawEndPos.symm⟩

/-- Only the bytes of one character that is not whole are given up. -/
lemma lt_backOff_add_four (long : limit < text.utf8ByteSize) : limit < backOff text limit + 4 := by
  let cut := String.Pos.mk ⟨backOff text limit⟩ (isValid_backOff text limit)
  have le : backOff text limit ≤ limit := backOff_le
  have inside : cut ≠ text.endPos := by
    intro atEnd
    have : backOff text limit = text.utf8ByteSize :=
      congrArg (fun p => p.offset.byteIdx) atEnd
    omega
  -- The character at the cut does not fit: else backing off would have stopped behind it.
  have next : (cut.next inside).offset.byteIdx = backOff text limit + (cut.get inside).utf8Size :=
    cut.byteIdx_offset_next inside
  have size := (cut.get inside).utf8Size_pos
  have size' := (cut.get inside).utf8Size_le_four
  rcases Nat.lt_or_ge limit (cut.next inside).offset.byteIdx with behind | within
  · omega
  · have := le_backOff (cut.next inside).isValid within
    omega

lemma truncate_isLongest (text : String) (limit : Nat) :
    IsLongest limit text (truncate text limit) := by
  by_cases le : text.utf8ByteSize ≤ limit
  · rw [truncate, if_pos le]
    exact ⟨List.prefix_rfl, le, fun _ beginning _ => beginning⟩
  · obtain ⟨split, size⟩ := exists_truncate_append (Nat.lt_of_not_le le)
    have beginning := isPrefix_toList_iff.2 split
    refine ⟨beginning, size ▸ backOff_le, fun other start fits => ?_⟩
    -- Every other beginning ends between characters, so it ends no later than backing off does.
    obtain ⟨rest, eq⟩ := isPrefix_toList_iff.1 start
    have valid : other.rawEndPos.IsValid text :=
      String.Pos.Raw.isValid_iff_exists_append.2 ⟨other, rest, eq, rfl⟩
    exact isPrefix_of_utf8ByteSize_le start beginning (size ▸ le_backOff valid fits)

/-- Truncating twice is truncating at the smaller limit. -/
lemma truncate_truncate (text : String) (m n : Nat) :
    truncate (truncate text m) n = truncate text (min m n) := by
  have first := truncate_isLongest text m
  have second := truncate_isLongest (truncate text m) n
  have shorter := utf8ByteSize_le_of_isPrefix second.beginning
  suffices both : IsLongest (min m n) text (truncate (truncate text m) n) from
    both.unique (truncate_isLongest text _)
  refine ⟨?_, ?_, ?_⟩
  · exact second.beginning.trans first.beginning
  · exact Nat.le_min.2 ⟨Nat.le_trans shorter first.fits, second.fits⟩
  · intro other beginning fits
    obtain ⟨fits, fits'⟩ := Nat.le_min.1 fits
    exact second.longest other (first.longest other beginning fits) fits'

/-- A text gets shorter only if it is too long. -/
lemma utf8ByteSize_truncate_lt_iff :
    (truncate text limit).utf8ByteSize < text.utf8ByteSize ↔ limit < text.utf8ByteSize := by
  constructor
  · intro shorter
    apply Nat.lt_of_not_le
    intro within
    rw [truncate, if_pos within] at shorter
    exact Nat.lt_irrefl _ shorter
  · intro long
    exact Nat.lt_of_le_of_lt (truncate_isLongest text limit).fits long

end Truncation

open Truncation

/-- What an event shows of a query is the longest beginning of its text within two hundred bytes. -/
lemma Event.exists_fields_ofQuery (kind : Kind) (q : Query) :
    ∃ shown, IsLongest 200 q.sql shown ∧ (Event.ofQuery kind q).fields =
      [("level", "DEBUG"), ("target", "fluent_sql::sql"), ("message", "statement built"),
        ("statement", kind.keyword), ("param_count", q.params.length.repr),
        ("truncated", if 200 < q.sql.utf8ByteSize then "true" else "false"), ("sql", shown)] := by
  refine ⟨truncate q.sql maxLoggedBytes, truncate_isLongest _ _, ?_⟩
  simp only [Event.ofQuery, utf8ByteSize_truncate_lt_iff, decide_eq_true_eq, Event.fields,
    Event.details]
  rfl

/-- Truncation is maximal in whole characters, backs off by at most three bytes, and is what a build
shows of its text in the log. -/
theorem truncate_maximal :
    (∀ (text : String) (limit : Nat),
      (String.Pos.Raw.mk (backOff text limit)).IsValid text ∧
      IsLongest limit text (truncate text limit) ∧
      (limit < text.utf8ByteSize →
        (truncate text limit).utf8ByteSize = backOff text limit ∧
        limit - backOff text limit ≤ 3 ∧
        limit < (truncate text limit).utf8ByteSize + 4 ∧
        (truncate text limit).utf8ByteSize < text.utf8ByteSize)) ∧
    (∀ (text : String) (m n : Nat), truncate (truncate text m) n = truncate text (min m n)) ∧
    ∀ (s : Statement) (q : Query), s.toQuery = .ok q →
      ∃ event shown, s.build.log = [event] ∧ IsLongest 200 q.sql shown ∧ event.fields =
        [("level", "DEBUG"), ("target", "fluent_sql::sql"), ("message", "statement built"),
          ("statement", s.kind.keyword), ("param_count", q.params.length.repr),
          ("truncated", if 200 < q.sql.utf8ByteSize then "true" else "false"), ("sql", shown)] := by
  refine ⟨fun text limit => ⟨isValid_backOff _ _, truncate_isLongest _ _, fun long => ?_⟩,
    truncate_truncate, fun s q built => ?_⟩
  · have size := (exists_truncate_append long).2
    have close := lt_backOff_add_four long
    exact ⟨size, by omega, size ▸ close, utf8ByteSize_truncate_lt_iff.2 long⟩
  · obtain ⟨shown, longest, fields⟩ := Event.exists_fields_ofQuery s.kind q
    exact ⟨_, shown, Statement.log_of_toQuery_eq_ok built, longest, fields⟩

/-- A limit inside a character of four bytes, and a log entry that is cut inside one of two bytes. -/
theorem truncate_maximal_inside_character :
    let text := "aé😀b"
    let table := String.ofList (List.replicate 100 'é')
    let s : Statement := .select (Select.empty.withTable table)
    let q := s.render table
    (6 < text.utf8ByteSize ∧ truncate text 6 = "aé" ∧ IsLongest 6 text (truncate text 6) ∧
      6 - backOff text 6 ≤ 3 ∧ 6 < (truncate text 6).utf8ByteSize + 4 ∧
      (truncate text 6).utf8ByteSize < text.utf8ByteSize ∧
      truncate (truncate text 6) 2 = "a") ∧
    s.toQuery = .ok q ∧ ∃ event shown, s.build.log = [event] ∧ IsLongest 200 q.sql shown ∧
      ("truncated", "true") ∈ event.fields ∧ ("sql", shown) ∈ event.fields := by
  intro text table s q
  have long : 6 < text.utf8ByteSize := by decide
  obtain ⟨-, longest, bounds⟩ := truncate_maximal.1 text 6
  obtain ⟨-, steps, close, shorter⟩ := bounds long
  have named : table ≠ "" := by decide +kernel
  have built : s.toQuery = .ok q :=
    Statement.toQuery_eq_ok_iff.2 ⟨table, rfl, named, rfl, rfl⟩
  obtain ⟨event, shown, log, longest', fields⟩ := truncate_maximal.2.2 s q built
  have long' : 200 < q.sql.utf8ByteSize := by decide +kernel
  refine ⟨⟨long, by decide, longest, steps, close, shorter, ?_⟩,
    built, event, shown, log, longest', ?_⟩
  · rw [truncate_maximal.2.1 text 6 2]
    decide
  · rw [fields, if_pos long']
    simp

end BoundSql
