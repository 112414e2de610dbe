import BoundSql.Json.Basic

/-!
# Entries of objects

Adding entries keeps the keys of an object in rising order, so every list of entries becomes the one
sorted list that stands for the object.
-/

namespace BoundSql.Json.Entries

/-- The keys of the entries, in order. -/
def keys (entries : Entries) : List String := entries.map Prod.fst

theorem mem_keys_insert {key other : String} {value : Json} {entries : Entries} :
    other ∈ keys (entries.insert key value) → other = key ∨ other ∈ keys entries := by
  induction entries with
  | nil => simp [insert, keys]
  | cons entry rest ih =>
    obtain ⟨k, v⟩ := entry
    intro member
    simp only [insert] at member
    split at member
    · simpa [keys] using member
    · split at member
      next same =>
        subst same
        simpa [keys] using member
      next =>
        simp only [keys, List.map_cons, List.mem_cons] at member ih ⊢
        rcases member with rfl | member
        · exact .inr (.inl rfl)
        · exact (ih member).imp_right .inr

theorem sorted_insert {entries : Entries} (sorted : entries.Sorted) (key : String) (value : Json) :
    (entries.insert key value).Sorted := by
  induction entries with
  | nil => simp [insert, Sorted]
  | cons entry rest ih =>
    obtain ⟨k, v⟩ := entry
    obtain ⟨above, rising⟩ := List.pairwise_cons.1 sorted
    simp only [insert]
    split
    next below =>
      refine List.pairwise_cons.2 ⟨fun other member => ?_, sorted⟩
      rcases List.mem_cons.1 member with rfl | member
      · exact below
      · exact String.lt_trans below (above other member)
    next notBelow =>
      split
      next same =>
        subst same
        exact sorted
      next distinct =>
        refine List.pairwise_cons.2 ⟨fun other member => ?_, ih rising⟩
        rcases mem_keys_insert member with rfl | member
        · exact Std.lt_of_le_of_ne (Std.not_lt.1 notBelow) (Ne.symm distinct)
        · exact above other member

theorem sorted_ofList (entries : List (String × Json)) : (ofList entries).Sorted := by
  suffices h : ∀ collected : Entries, collected.Sorted →
      (entries.foldl (fun sorted entry => sorted.insert entry.1 entry.2) collected).Sorted from
    h [] .nil
  induction entries with
  | nil => exact fun _ sorted => sorted
  | cons entry rest ih => exact fun _ sorted => ih _ (sorted_insert sorted entry.1 entry.2)

end BoundSql.Json.Entries
