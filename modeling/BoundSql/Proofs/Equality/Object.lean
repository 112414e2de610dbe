import BoundSql.Json.Entries
import BoundSql.Proofs.Equality.Document

/-!
# Equality of objects

What an object holds under a key is the document that was written last with this key. Objects are
equal when they hold equal documents under the same keys, in whatever order their entries were
written.
-/

namespace BoundSql.Json

namespace Entries

lemma lookup_cons (key other : String) (value : Json) (rest : Entries) :
    List.lookup other ((key, value) :: rest) =
      if other = key then some value else rest.lookup other := by
  rw [List.lookup_cons]
  by_cases same : other = key
  · simp [same]
  · have differ : (other == key) = false := beq_false_of_ne same
    rw [differ, if_neg same]

lemma lookup_insert (key other : String) (value : Json) (entries : Entries) :
    (entries.insert key value).lookup other =
      if other = key then some value else entries.lookup other := by
  induction entries with
  | nil => exact lookup_cons key other value []
  | cons entry rest ih =>
    obtain ⟨k, v⟩ := entry
    rw [insert]
    split
    · rw [lookup_cons]
    · split
      next same =>
        subst same
        rw [lookup_cons, lookup_cons]
        split <;> rfl
      next distinct =>
        rw [lookup_cons, ih, lookup_cons]
        -- the two keys differ, so at most one of the conditions holds
        split
        next here =>
          subst here
          rw [if_neg (Ne.symm distinct)]
        next => rfl

/-- Of the entries that were written with a key, the last is kept. -/
lemma lookup_ofList (key : String) (entries : List (String × Json)) :
    (ofList entries).lookup key = entries.reverse.lookup key := by
  suffices h : ∀ collected : Entries,
      (entries.foldl (fun sorted entry => sorted.insert entry.1 entry.2) collected).lookup key =
        (entries.reverse.lookup key).or (collected.lookup key) from
    (h []).trans Option.or_none
  induction entries with
  | nil => exact fun _ => rfl
  | cons entry rest ih =>
    intro collected
    obtain ⟨k, v⟩ := entry
    rw [List.foldl_cons, ih, lookup_insert, List.reverse_cons, List.lookup_append, Option.or_assoc,
      lookup_cons]
    split <;> rfl

/-- Below the first key of an object there is nothing. -/
lemma lookup_of_below {key : String} {entries : Entries}
    (below : ∀ other ∈ keys entries, key < other) : entries.lookup key = none := by
  rw [List.lookup_eq_none_iff]
  intro entry mem
  have less := below entry.1 (List.mem_map_of_mem mem)
  exact bne_iff_ne.2 fun same => String.lt_irrefl _ (same ▸ less)

lemma lookup_of_lt_head {key other : String} {value : Json} {rest : Entries} (less : other < key)
    (rising : Sorted ((key, value) :: rest)) : List.lookup other ((key, value) :: rest) = none := by
  obtain ⟨above, -⟩ := List.pairwise_cons.1 rising
  exact lookup_of_below
    (List.forall_mem_cons.2 ⟨less, fun next mem => String.lt_trans less (above next mem)⟩)

variable {as bs : Entries}

lemma lookup_of_entriesEq (h : entriesEq as bs = true) (key : String) :
    Option.Rel (fun a b => numericEq a b = true) (as.lookup key) (bs.lookup key) := by
  induction as generalizing bs with
  | nil =>
    cases bs with
    | nil => exact .none
    | cons b bs => cases h
  | cons entry as ih =>
    obtain ⟨k, a⟩ := entry
    obtain ⟨b, bs, rfl, first, rest⟩ := entriesEq_cons.1 h
    rw [lookup_cons, lookup_cons]
    split
    · exact .some first
    · exact ih rest

lemma entriesEq_of_lookup (rising : as.Sorted) (rising' : bs.Sorted)
    (same : ∀ key, Option.Rel (fun a b => numericEq a b = true) (as.lookup key) (bs.lookup key)) :
    entriesEq as bs = true := by
  induction as generalizing bs with
  | nil =>
    cases bs with
    | nil => rfl
    | cons entry bs =>
      have first := same entry.1
      rw [lookup_cons, if_pos rfl] at first
      cases first
  | cons entry as ih =>
    obtain ⟨j, a⟩ := entry
    cases bs with
    | nil =>
      have first := same j
      rw [lookup_cons, if_pos rfl] at first
      cases first
    | cons entry bs =>
      obtain ⟨k, b⟩ := entry
      -- the smaller of two different first keys would be missing on the other side
      rcases Std.lt_trichotomy j k with less | rfl | less
      · have first := same j
        rw [lookup_cons, if_pos rfl, lookup_of_lt_head less rising'] at first
        cases first
      · obtain ⟨above, rising⟩ := List.pairwise_cons.1 rising
        obtain ⟨above', rising'⟩ := List.pairwise_cons.1 rising'
        have first := same j
        rw [lookup_cons, lookup_cons, if_pos rfl, if_pos rfl] at first
        cases first with
        | some first =>
          refine entriesEq_cons.2 ⟨b, bs, rfl, first, ih rising rising' ?_⟩
          intro key
          by_cases here : key = j
          · subst here
            rw [lookup_of_below above, lookup_of_below above']
            exact .none
          · have rest := same key
            rwa [lookup_cons, lookup_cons, if_neg here, if_neg here] at rest
      · have first := same k
        rw [lookup_of_lt_head less rising, lookup_cons, if_pos rfl] at first
        cases first

end Entries

/-- Objects are equal when equal documents were written last under the same keys. -/
lemma ofEntries_beq_iff (as bs : List (String × Json)) : (ofEntries as == ofEntries bs) = true ↔
    ∀ key, Option.Rel (fun a b => (a == b) = true)
      (as.reverse.lookup key) (bs.reverse.lookup key) := by
  have written (key : String) : Option.Rel (fun a b => (a == b) = true)
      (as.reverse.lookup key) (bs.reverse.lookup key) ↔
      Option.Rel (fun a b => numericEq a b = true)
        ((Entries.ofList as).lookup key) ((Entries.ofList bs).lookup key) := by
    rw [Entries.lookup_ofList, Entries.lookup_ofList]
    rfl
  simp only [written]
  exact ⟨Entries.lookup_of_entriesEq,
    Entries.entriesEq_of_lookup (Entries.sorted_ofList as) (Entries.sorted_ofList bs)⟩

end BoundSql.Json
