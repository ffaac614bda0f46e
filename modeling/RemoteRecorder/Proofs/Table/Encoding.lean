import Mathlib.Data.Set.List
import RemoteRecorder.Proofs.Table.Filling
import RemoteRecorder.Table.Encoding

/-!
# RemoteRecorder.Proofs.Table.Encoding

**Maps as tables, and tables as maps.** Building the table of a map comes to `Table.ofMap`,
whatever the map (`encode_eq`): the types are acceptable, every row fits, and no two rows
share an index, since no two entries share a key.

The rows are read back as the entries of the map (`pairs_ofMap`). In the other direction, a
table of entries holds nothing but a map (`exists_ofMap`), however it was filled.
-/

namespace RemoteRecorder.Table

variable {t : Table} (m : StringMap)

/-! ## From a map to its table

The table is filled entry by entry, and each step could fail. It is compared with the table that has
the rows of the entries from the start, which a table is that keeps its rows under their own
indexes; so it is filled from its rows without a refusal. -/

/-- The row of an entry. -/
def entryRow (entry : String × String) : Row := ⟨[entry.1, entry.2]⟩

/-- To put an entry is to put its row. -/
theorem putEntry_eq (ht : t.type = mapType) (entry : String × String) :
    t.putEntry entry = t.put (entryRow entry) := by
  have hrow : Row.ofValues t.type.rowType [entry.1, entry.2] = .ok (entryRow entry) := by
    rw [ht]
    rfl
  rw [putEntry, hrow]
  rfl

theorem foldlM_putEntry (ht : t.type = mapType) (entries : List (String × String)) :
    entries.foldlM putEntry t = (entries.map entryRow).foldlM put t := by
  induction entries generalizing t with
  | nil => rfl
  | cons entry entries ih =>
    rw [List.map_cons, List.foldlM_cons, List.foldlM_cons, putEntry_eq ht]
    cases h : t.put (entryRow entry) with
    | ok t' => exact ih ((type_of_put h).trans ht)
    | error e => rfl

theorem values_ofMap : (ofMap m).rows.values = m.entries.map entryRow := by
  show (m.entries.map fun e => ([e.1], entryRow e)).map Prod.snd = _
  rw [List.map_map]
  rfl

/-- The row of an entry is kept under the key. -/
theorem indexed_ofMap : (ofMap m).Indexed := by
  intro e he
  obtain ⟨entry, -, rfl⟩ := List.mem_map.1 he
  rfl

/-- Nothing fails when the table of a map is built. -/
theorem encode_eq : encode m = .ok (ofMap m) := by
  show Except.mapError encodingError (m.entries.foldlM putEntry (empty mapType)) = _
  have taken : (empty mapType).accepted (m.entries.map entryRow) = m.entries.map entryRow := by
    rw [← values_ofMap]
    exact (indexed_ofMap m).accepted_values
  have rebuilt : (empty mapType).fill (m.entries.map entryRow) = ofMap m := by
    rw [← values_ofMap]
    exact (indexed_ofMap m).fill_values
  rw [foldlM_putEntry rfl, foldlM_put taken, rebuilt]
  rfl

/-! ## From a table to its map

A table of entries may have been filled by anybody, with rows in any order. Its rows have two values
each and are kept under the first, so they are the entries of a map all the same. -/

/-- The keys and values of the rows, in the order of the rows. -/
def pairs (t : Table) : List (String × String) :=
  t.rows.values.filterMap fun row => do
    return (← row.get? t.type.rowType "key", ← row.get? t.type.rowType "value")

theorem toMap_eq (t : Table) : t.toMap = .ofList t.pairs := rfl

/-- The entries are read back from the rows. -/
theorem pairs_ofMap : (ofMap m).pairs = m.entries := by
  unfold pairs
  rw [values_ofMap, List.filterMap_map]
  exact List.filterMap_some

theorem toMap_ofMap : (ofMap m).toMap = m := by
  rw [toMap_eq, pairs_ofMap, SortedMap.ofList_entries]

theorem size_ofMap : (ofMap m).size = m.size := List.length_map _

/-- A row of two values is kept under the first of them. -/
theorem entry_of_index? {e : List String × Row} (h : mapType.index? e.2 = some e.1) :
    ∃ entry, ([entry.1], entryRow entry) = e := by
  obtain ⟨k, ⟨values⟩⟩ := e
  have fits : values.length = 2 := TableType.exists_index?_iff.1 ⟨k, h⟩
  match values, fits with
  | [key, value], _ =>
    obtain rfl : [key] = k := Option.some.inj h
    exact ⟨(key, value), rfl⟩

/-- A table of entries is the table of a map. -/
theorem exists_ofMap (ht : t.type = mapType) (h : t.Indexed) : ∃ m, ofMap m = t := by
  obtain ⟨entries, he⟩ :
      t.rows.entries ∈ Set.range (List.map fun e : String × String => ([e.1], entryRow e)) := by
    rw [Set.range_list_map]
    intro e he
    exact entry_of_index? (ht ▸ h e he)
  have ascending : entries.Pairwise fun a b => compare a.1 b.1 = .lt := by
    have hrows := t.rows.ascending
    rw [← he, List.pairwise_map] at hrows
    refine hrows.imp ?_
    intro a b hab
    simpa [List.compare_cons_cons, Ordering.then_eq_lt] using hab
  exact ⟨⟨entries, ascending⟩, ext_of_rows ht.symm (SortedMap.ext he)⟩

/-- Every map is encoded, in a row for each entry, and its entries are read off the rows in
the order of their keys. Every table of entries, however it was filled, is the encoding of
the map that is read off it. -/
theorem encode_round_trip :
    (∀ m : StringMap, encode m = .ok (ofMap m) ∧ (ofMap m).size = m.size ∧
      (ofMap m).pairs = m.entries ∧ (ofMap m).pairs.Pairwise (fun a b => a.1 < b.1) ∧
      (ofMap m).toMap = m) ∧
    (∀ m m' : StringMap, encode m = encode m' → m = m') ∧
    ∀ rows : List Row,
      encode ((empty mapType).fill rows).toMap = .ok ((empty mapType).fill rows) := by
  refine ⟨?_, ?_, ?_⟩
  · intro m
    refine ⟨encode_eq m, size_ofMap m, pairs_ofMap m, ?_, toMap_ofMap m⟩
    rw [pairs_ofMap]
    exact m.keys_ascend
  · intro m m' h
    rw [encode_eq, encode_eq] at h
    have htoMap := congrArg toMap (Except.ok.inj h)
    rwa [toMap_ofMap, toMap_ofMap] at htoMap
  · intro rows
    obtain ⟨m, hm⟩ := exists_ofMap (type_fill _ rows) ((indexed_empty mapType).fill rows)
    rw [← hm, toMap_ofMap, encode_eq]

end RemoteRecorder.Table
