import BoundSql.Json.Entries
import BoundSql.Proofs.Integer
import BoundSql.Proofs.Script.Slots

/-!
# Documents as data

Serialising data gives a well-formed document, and serialising a well-formed document gives it back.
So documents are the normal forms of data, and a document is bound in the same way whether it is
handed over as a document or as data.
-/

namespace BoundSql

namespace Json

variable {key : String} {value : Json} {entries : Entries}

/-- An entry whose key is above all others is added at the end. -/
lemma Entries.insert_of_above (above : ∀ k ∈ keys entries, k < key) :
    entries.insert key value = entries ++ [(key, value)] := by
  induction entries with
  | nil => rfl
  | cons entry rest ih =>
    obtain ⟨k, v⟩ := entry
    obtain ⟨first, others⟩ := List.forall_mem_cons.1 above
    have notBelow : ¬ key < k := String.lt_asymm first
    have distinct : key ≠ k := fun same => String.lt_irrefl k (same ▸ first)
    rw [insert, if_neg notBelow, if_neg distinct, ih others]
    rfl

lemma wellFormed_empty : (obj []).WellFormed := ⟨List.Pairwise.nil, trivial⟩

/-- An object stays well formed when a well-formed document is written into it. -/
lemma WellFormed.insert (object : (obj entries).WellFormed) (document : value.WellFormed) :
    (obj (entries.insert key value)).WellFormed := by
  obtain ⟨sorted, rest⟩ := object
  refine ⟨Entries.sorted_insert sorted key value, ?_⟩
  clear sorted
  induction entries with
  | nil => exact ⟨document, trivial⟩
  | cons entry entries ih =>
    obtain ⟨k, v⟩ := entry
    obtain ⟨first, others⟩ := rest
    rw [Entries.insert]
    split
    · exact ⟨document, first, others⟩
    · split
      · exact ⟨document, others⟩
      · exact ⟨first, ih others⟩

lemma wellFormed_ofFloat (x : Binary64) : (ofFloat x).WellFormed := by
  unfold ofFloat
  split
  next finite => exact finite
  next => trivial

/-- The bytes of a list are well-formed numbers. -/
lemma itemsWellFormed_bytes (content : List UInt8) :
    ItemsWellFormed (content.map fun b => .int b.toNat) := by
  induction content with
  | nil => trivial
  | cons b rest ih =>
    have bound := b.toNat_lt
    exact ⟨.inl ⟨by omega, by omega⟩, ih⟩

end Json

namespace Serial

open Json

lemma wellFormed_integerToJson {n : Integer} {d : Json} (made : integerToJson n = .ok d) :
    d.WellFormed := by
  unfold integerToJson at made
  split at made
  next fits =>
    cases made
    exact fits
  next => cases made

mutual

-- Maps and records are followed entry by entry: what is collected so far stays a well-formed object.
/-- Data is serialised to well-formed documents. -/
lemma wellFormed_toJson (x : Serial) {d : Json} (made : x.toJson = .ok d) : d.WellFormed := by
  cases x with
  | unit | none | bool _ | char _ | str _ | unitVariant _ =>
    cases made
    trivial
  | integer n => exact wellFormed_integerToJson made
  | float32 x =>
    cases made
    exact wellFormed_ofFloat _
  | float64 x =>
    cases made
    exact wellFormed_ofFloat _
  | bytes content =>
    cases made
    exact itemsWellFormed_bytes content
  | some x => exact wellFormed_toJson x made
  | wrapped x => exact wellFormed_toJson x made
  | seq items =>
    obtain ⟨ds, serialised, rfl⟩ := bind_pure_eq_ok made
    exact wellFormed_itemsToJson items serialised
  | map entries =>
    obtain ⟨ds, serialised, rfl⟩ := bind_pure_eq_ok made
    exact wellFormed_mapToEntries entries wellFormed_empty serialised
  | record fields =>
    obtain ⟨ds, serialised, rfl⟩ := bind_pure_eq_ok made
    exact wellFormed_fieldsToEntries fields wellFormed_empty serialised
  | variant name x =>
    obtain ⟨d, serialised, rfl⟩ := bind_pure_eq_ok made
    exact ⟨List.pairwise_singleton _ _, wellFormed_toJson x serialised, trivial⟩
  | seqVariant name items =>
    obtain ⟨ds, serialised, rfl⟩ := bind_pure_eq_ok made
    exact ⟨List.pairwise_singleton _ _, wellFormed_itemsToJson items serialised, trivial⟩
  | recordVariant name fields =>
    obtain ⟨ds, serialised, rfl⟩ := bind_pure_eq_ok made
    exact ⟨List.pairwise_singleton _ _,
      wellFormed_fieldsToEntries fields wellFormed_empty serialised, trivial⟩
  | failure message => cases made

lemma wellFormed_itemsToJson (items : List Serial) {ds : List Json}
    (made : itemsToJson items = .ok ds) : ItemsWellFormed ds := by
  cases items with
  | nil =>
    cases made
    trivial
  | cons item rest =>
    obtain ⟨first, serialised, made⟩ := bind_eq_ok made
    obtain ⟨others, serialised', rfl⟩ := bind_pure_eq_ok made
    exact ⟨wellFormed_toJson item serialised, wellFormed_itemsToJson rest serialised'⟩

lemma wellFormed_mapToEntries (entries : List (Serial × Serial)) {collected made : Entries}
    (object : (obj collected).WellFormed) (ok : mapToEntries entries collected = .ok made) :
    (obj made).WellFormed := by
  cases entries with
  | nil =>
    cases ok
    exact object
  | cons entry rest =>
    obtain ⟨key, value⟩ := entry
    obtain ⟨name, -, ok⟩ := bind_eq_ok ok
    obtain ⟨document, serialised, ok⟩ := bind_eq_ok ok
    exact wellFormed_mapToEntries rest (object.insert (wellFormed_toJson value serialised)) ok

lemma wellFormed_fieldsToEntries (fields : List (String × Serial)) {collected made : Entries}
    (object : (obj collected).WellFormed) (ok : fieldsToEntries fields collected = .ok made) :
    (obj made).WellFormed := by
  cases fields with
  | nil =>
    cases ok
    exact object
  | cons field rest =>
    obtain ⟨name, value⟩ := field
    obtain ⟨document, serialised, ok⟩ := bind_eq_ok ok
    exact wellFormed_fieldsToEntries rest (object.insert (wellFormed_toJson value serialised)) ok

end

/-- The type that an integer of a document is handed over in holds it. -/
lemma toJson_toSerial_int {n : Int} (good : (int n).WellFormed) :
    (int n).toSerial.toJson = .ok (int n) := by
  have fits : Integer.FitsSigned n ∨ Integer.FitsUnsigned n := good
  have bounds : -9223372036854775808 ≤ n ∧ n < 18446744073709551616 := by
    rcases fits with ⟨ge, le⟩ | ⟨ge, le⟩ <;> omega
  let typed : Integer := if n < 0 then .int64 (.ofInt n) else .uint64 (.ofNat n.toNat)
  have held : typed.toInt = n := by
    unfold typed
    split
    next => exact Int64.toInt_ofInt_of_le bounds.1 (by omega)
    next =>
      show ((UInt64.ofNat n.toNat).toNat : Int) = n
      rw [Value.toNat_ofNat (by omega)]
      omega
  show integerToJson typed = _
  rw [integerToJson, held, if_pos fits]

mutual

/-- A well-formed document is serialised to itself. -/
lemma toJson_toSerial (d : Json) (good : d.WellFormed) : d.toSerial.toJson = .ok d := by
  cases d with
  | null | bool _ | str _ => rfl
  | int n => exact toJson_toSerial_int good
  | float x =>
    have finite : x.isFinite = true := good
    show Except.ok (ofFloat x) = _
    rw [ofFloat, if_pos finite]
  | arr items =>
    show itemsToJson (itemsToSerial items) >>= _ = _
    rw [itemsToJson_itemsToSerial items good]
    rfl
  | obj entries =>
    obtain ⟨sorted, documents⟩ := good
    show mapToEntries (entriesToSerial entries) [] >>= _ = _
    rw [mapToEntries_entriesToSerial entries [] sorted documents]
    rfl

lemma itemsToJson_itemsToSerial (items : List Json) (good : ItemsWellFormed items) :
    itemsToJson (itemsToSerial items) = .ok items := by
  cases items with
  | nil => rfl
  | cons item rest =>
    show (toSerial item).toJson >>= _ = _
    rw [toJson_toSerial item good.1]
    show itemsToJson (itemsToSerial rest) >>= _ = _
    rw [itemsToJson_itemsToSerial rest good.2]
    rfl

/-- The keys of an object rise, so each entry is added behind those before it. -/
lemma mapToEntries_entriesToSerial (entries collected : Entries)
    (sorted : (collected ++ entries).Sorted) (good : EntriesWellFormed entries) :
    mapToEntries (entriesToSerial entries) collected = .ok (collected ++ entries) := by
  cases entries with
  | nil =>
    rw [List.append_nil]
    rfl
  | cons entry rest =>
    obtain ⟨key, value⟩ := entry
    have above : ∀ k ∈ Entries.keys collected, k < key := by
      intro k before
      rw [Entries.Sorted, List.map_append, List.pairwise_append] at sorted
      exact sorted.2.2 k before key List.mem_cons_self
    show (toSerial value).toJson >>= _ = _
    rw [toJson_toSerial value good.1]
    show mapToEntries (entriesToSerial rest) (collected.insert key value) = _
    rw [Entries.insert_of_above above,
      mapToEntries_entriesToSerial rest (collected ++ [(key, value)])
        (by rwa [List.append_assoc]) good.2,
      List.append_assoc]
    rfl

end

end Serial

/-- Binding a document and binding what it is serialised to are the same, and whatever data is bound as
is such a document. -/
theorem documents_are_normal_forms :
    (∀ d : Json, d.WellFormed → Value.ofSerial d.toSerial = .ok (.json d) ∧
      ∀ (u : Update) (field : String),
        u.assignSerial field d.toSerial = .ok (u.assign field (.json d))) ∧
    ∀ (x : Serial) (v : Value), Value.ofSerial x = .ok v →
      ∃ d : Json, v = .json d ∧ d.WellFormed ∧ Value.ofSerial d.toSerial = .ok (.json d) := by
  have same (d : Json) (good : d.WellFormed) : Value.ofSerial d.toSerial = .ok (.json d) := by
    rw [Value.ofSerial, Serial.toJson_toSerial d good]
    rfl
  refine ⟨fun d good => ⟨same d good, fun u field => ?_⟩, fun x v bound => ?_⟩
  · rw [Update.assignSerial, same d good]
    rfl
  · obtain ⟨d, serialised, rfl⟩ := bind_pure_eq_ok bound
    have good := Serial.wellFormed_toJson x serialised
    exact ⟨d, rfl, good, same d good⟩

/-- A document of nested parts, and a map in which a key is repeated and a number is not finite. -/
theorem documents_are_normal_forms_nested :
    let d : Json := .obj
      [("", .arr [.int (-1), .float ⟨0x3ff0000000000000⟩]), ("k", .int 18446744073709551615)]
    let x : Serial := .map
      [(.str "k", .some (.float64 ⟨0x7ff0000000000000⟩)), (.integer (.int8 7), .variant "v" .unit),
        (.str "k", .seq [.float64 ⟨0x7ff0000000000000⟩])]
    let e : Json := .obj [("7", .obj [("v", .null)]), ("k", .arr [.null])]
    (d.WellFormed ∧ Value.ofSerial d.toSerial = .ok (.json d) ∧
      Update.empty.assignSerial "f" d.toSerial = .ok (Update.empty.assign "f" (.json d))) ∧
    Value.ofSerial x = .ok (.json e) ∧ e.WellFormed ∧
      Value.ofSerial e.toSerial = .ok (.json e) := by
  intro d x e
  have sorted : Json.Entries.Sorted
      [("", .arr [.int (-1), .float ⟨0x3ff0000000000000⟩]), ("k", .int 18446744073709551615)] :=
    List.Pairwise.cons (List.forall_mem_singleton.2 (by decide)) (List.pairwise_singleton _ _)
  have good : d.WellFormed :=
    ⟨sorted, ⟨.inl (by decide), rfl, trivial⟩, .inr (by decide), trivial⟩
  have bound : Value.ofSerial x = .ok (.json e) := rfl
  obtain ⟨same, assigned⟩ := documents_are_normal_forms.1 d good
  obtain ⟨document, eq, good', same'⟩ := documents_are_normal_forms.2 x _ bound
  cases eq
  exact ⟨⟨good, same, assigned _ _⟩, bound, good', same'⟩

end BoundSql
