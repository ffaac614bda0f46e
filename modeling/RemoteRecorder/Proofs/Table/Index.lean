import RemoteRecorder.Proofs.Table.Filling

/-!
# RemoteRecorder.Proofs.Table.Index

**Rows under the values of their index items.** The items of an index are looked up once,
when the type of the table is made; rows come later, and carry no type.

* `Row.at?` reads a row at named items, and fails at the first that it cannot read. Where a
  row fits, it finds the index under which the row is kept (`at?_eq_index?`), so nothing is
  read beyond the end of a row.
* `ByIndex` says how a table keeps its rows, and `Takes` what it does with one more row.
  Both hold of every table that rows have been put into (`rows_kept_by_index`).
-/

namespace RemoteRecorder

/-! ## The order of indexes

The indexes of a table ascend by the comparison of its map. For lists of texts this is the usual
order. -/

/-- Lists of texts are compared item by item. -/
theorem lt_of_compare_list {as bs : List String} (h : compare as bs = .lt) : as < bs := by
  induction as generalizing bs with
  | nil =>
    cases bs with
    | nil => cases h
    | cons b bs => exact List.nil_lt_cons b bs
  | cons a as ih =>
    cases bs with
    | nil => cases h
    | cons b bs =>
      rw [List.compare_cons_cons, Ordering.then_eq_lt] at h
      rcases h with h | ⟨he, h⟩
      · exact List.Lex.rel (SortedMap.lt_of_compare h)
      · obtain rfl := Std.LawfulEqOrd.eq_of_compare he
        exact List.Lex.cons (ih h)

/-! ## Rows read at named items

A type keeps positions and not the names of its index items. That they are the right positions is
shown by reading a row in the other way, by the names, and this needs the type only for its
items. -/

/-- The values of a row at some items, if it has a value for each. -/
def Row.at? (row : Row) (t : RowType) (items : List String) : Option (List String) :=
  items.mapM (row.get? t)

theorem Row.at?_cons (row : Row) (t : RowType) (item : String) (items : List String) :
    row.at? t (item :: items) =
      (row.get? t item).bind fun v => (row.at? t items).map (v :: ·) := by
  unfold at?
  rw [List.mapM_cons]
  cases row.get? t item with
  | none => rfl
  | some v => cases items.mapM (row.get? t) <;> rfl

/-- The item at a position of a row. -/
def RowType.item (t : RowType) (i : Fin t.size) : String := t.items.get i

theorem RowType.items_of_ofItems {name : String} {items : List String} {r : RowType}
    (h : ofItems name items = .ok r) : r.items = items := by
  unfold ofItems at h
  split at h
  · cases h
  split at h
  · cases h
  split at h
  · split at h
    · cases h
    · cases h
      rfl
  · cases h

namespace TableType

theorem position_eq_ok_iff {t : RowType} {item : String} {i : Fin t.size} :
    position t item = .ok i ↔ t.position? item = some i := by
  unfold position
  cases t.position? item <;> simp

/-- A check that succeeds has succeeded in both of its parts. -/
theorem exists_of_bind_eq_ok {α β : Type} {x : Except SchemaError α}
    {f : α → Except SchemaError β} {b : β} (h : (x >>= f) = .ok b) :
    ∃ a, x = .ok a ∧ f a = .ok b := by
  cases x with
  | error e => cases h
  | ok a => exact ⟨a, rfl, h⟩

/-- What the positions of index items are. -/
structure Resolves (t : RowType) (items : List String) (positions : List (Fin t.size)) : Prop where
  /-- They are where the row type has the items. -/
  names : positions.map t.item = items
  /-- A row that fits is read there. -/
  reads : ∀ (row : Row) (h : row.Fits t), row.at? t items = some (row.select h positions)

theorem Resolves.cons {t : RowType} {items : List String} {positions : List (Fin t.size)}
    (h : Resolves t items positions) {item : String} {i : Fin t.size}
    (hi : t.position? item = some i) : Resolves t (item :: items) (i :: positions) := by
  refine ⟨?_, ?_⟩
  · have hname : t.item i = item := (List.finIdxOf?_eq_some_iff.1 hi).1
    rw [List.map_cons, hname, h.names]
  · intro row hfits
    have hbound : i.val < row.values.length := by
      rw [show row.values.length = t.size from hfits]
      exact i.isLt
    have hget : row.get? t item = some (row.values.get (i.cast hfits.symm)) := by
      simp [Row.get?, hi, hbound]
    rw [Row.at?_cons, hget, h.reads row hfits]
    rfl

/-- The positions are looked up one by one, and none of the look-ups has failed. -/
theorem resolves_of_mapM {t : RowType} {items : List String} {positions : List (Fin t.size)}
    (h : items.mapM (position t) = .ok positions) : Resolves t items positions := by
  induction items generalizing positions with
  | nil =>
    cases h
    exact ⟨rfl, fun row h => rfl⟩
  | cons item items ih =>
    rw [List.mapM_cons] at h
    obtain ⟨i, hi, h⟩ := exists_of_bind_eq_ok h
    obtain ⟨rest, hrest, h⟩ := exists_of_bind_eq_ok h
    obtain rfl : i :: rest = positions := Except.ok.inj h
    exact (ih hrest).cons (position_eq_ok_iff.1 hi)

/-- The items of an index are looked up when the type of a table is made. -/
theorem resolves_of_ofIndex {name : String} {r : RowType} {items : List String} {type : TableType}
    (h : ofIndex name r items = .ok type) :
    type.rowType = r ∧ Resolves type.rowType items type.index := by
  cases items with
  | nil => cases h
  | cons item items =>
    rw [ofIndex] at h
    obtain ⟨first, hfirst, h⟩ := exists_of_bind_eq_ok h
    obtain ⟨rest, hrest, h⟩ := exists_of_bind_eq_ok h
    obtain rfl := Except.ok.inj h
    exact ⟨rfl, (resolves_of_mapM hrest).cons (position_eq_ok_iff.1 hfirst)⟩

end TableType

/-! ## Tables that rows have been put into

These statements are about names and values only. Neither positions nor the way in which a table is
represented occur in them, apart from the bound on what is read of a row. -/

namespace Table

/-- How a table keeps its rows whose types have certain items and certain index items. -/
structure ByIndex (items index : List String) (t : Table) : Prop where
  /-- The type of the table has these items, and these index items at its positions. -/
  rowItems : t.type.rowType.items = items
  indexItems : t.type.index.map t.type.rowType.item = index
  /-- Every row has a value for each item. -/
  fits : ∀ row ∈ t.rows.values, row.values.length = items.length
  /-- Every row is kept under its own values at the index items. -/
  own : ∀ e ∈ t.rows.entries, e.2.at? t.type.rowType index = some e.1
  /-- No other row has the same values there. -/
  distinct : (t.rows.values.map fun row => row.at? t.type.rowType index).Nodup
  /-- The rows ascend by these values, item by item. -/
  ascending : t.rows.values.Pairwise fun a b => ∃ k l,
    a.at? t.type.rowType index = some k ∧ b.at? t.type.rowType index = some l ∧ k < l

/-- What comes of putting a row into a table with certain items and index items. -/
structure Takes (items index : List String) (t : Table) (row : Row) : Prop where
  refused_iff : (∃ e, t.put row = .error e) ↔ row.values.length ≠ items.length ∨
    ∃ stored ∈ t.rows.values, stored.at? t.type.rowType index = row.at? t.type.rowType index
  /-- A row that is refused changes nothing. -/
  refused : (∃ e, t.put row = .error e) → t.offer row = t
  /-- Any other row is added, and nothing else changes. -/
  added : ∀ t', t.put row = .ok t' → t.offer row = t' ∧ t'.type = t.type ∧
    ∃ k, row.at? t.type.rowType index = some k ∧ t'.rows.entries.Perm ((k, row) :: t.rows.entries)
  /-- The index of a row that fits is read within the row. -/
  within : row.values.length = items.length → (∀ i ∈ t.type.index, i.val < row.values.length) ∧
    ∃ k, row.at? t.type.rowType index = some k

variable {items index : List String} {t : Table} {row : Row}

section Resolved

variable (h : TableType.Resolves t.type.rowType index t.type.index)

include h

/-- A row that fits is kept under its values at the index items. -/
theorem at?_eq_index? (hfits : row.Fits t.type.rowType) :
    row.at? t.type.rowType index = t.type.index? row := by
  rw [h.reads row hfits, TableType.index?, dif_pos hfits]

theorem Indexed.own (ht : t.Indexed) : ∀ e ∈ t.rows.entries,
    e.2.at? t.type.rowType index = some e.1 := by
  intro e he
  rw [at?_eq_index? h (TableType.exists_index?_iff.1 ⟨e.1, ht e he⟩), ht e he]

/-- What the invariant says of a table, in the words of its type. -/
theorem Indexed.byIndex (ht : t.Indexed) (hitems : t.type.rowType.items = items) :
    ByIndex items index t := by
  have ascending : t.rows.values.Pairwise fun a b => ∃ k l,
      a.at? t.type.rowType index = some k ∧ b.at? t.type.rowType index = some l ∧ k < l := by
    refine List.pairwise_map.2 (t.rows.ascending.imp_of_mem ?_)
    intro a b ha hb hab
    exact ⟨a.1, b.1, ht.own h a ha, ht.own h b hb, lt_of_compare_list hab⟩
  refine ⟨hitems, h.names, ?_, ht.own h, ?_, ascending⟩
  · intro row hrow
    rw [← hitems]
    exact ht.fits hrow
  · refine List.pairwise_map.2 (ascending.imp ?_)
    rintro a b ⟨k, l, hk, hl, hlt⟩ hab
    rw [hk, hl] at hab
    obtain rfl := Option.some.inj hab
    exact List.lt_irrefl k hlt

/-- What comes of one more row. -/
theorem Indexed.takes (ht : t.Indexed) (hitems : t.type.rowType.items = items) (row : Row) :
    Takes items index t row := by
  have fits_iff : row.Fits t.type.rowType ↔ row.values.length = items.length := by
    rw [← hitems]
    exact .rfl
  refine ⟨?_, offer_of_error, ?_, ?_⟩
  · rw [ht.put_eq_error_iff, fits_iff]
    by_cases hfits : row.Fits t.type.rowType
    · refine or_congr_right (exists_congr fun stored => and_congr_right fun hstored => ?_)
      rw [at?_eq_index? h hfits, at?_eq_index? h (ht.fits hstored)]
    · have hlength : ¬row.values.length = items.length := fun hl => hfits (fits_iff.2 hl)
      simp [hlength]
  · intro t' hput
    obtain ⟨k, hk, added⟩ := entries_of_put hput
    have hfits : row.Fits t.type.rowType := TableType.exists_index?_iff.1 ⟨k, hk⟩
    exact ⟨offer_of_ok hput, type_of_put hput, k, (at?_eq_index? h hfits).trans hk, added⟩
  · intro hlength
    have hfits := fits_iff.2 hlength
    refine ⟨?_, _, h.reads row hfits⟩
    intro i _
    rw [show row.values.length = t.type.rowType.size from hfits]
    exact i.isLt

end Resolved

/-- Whatever rows are put into a table of an accepted type: the table keeps the rows it has
taken, as many as have not been refused, under their index, and takes another row exactly
if it fits and its index is free. -/
theorem rows_kept_by_index {rowName name : String} {items index : List String} {r : RowType}
    {type : TableType} (hr : RowType.ofItems rowName items = .ok r)
    (ht : TableType.ofIndex name r index = .ok type) (rows : List Row) :
    ((empty type).fill rows).type = type ∧
    ByIndex items index ((empty type).fill rows) ∧
    ((empty type).fill rows).size = ((empty type).accepted rows).length ∧
    ∀ row, Takes items index ((empty type).fill rows) row := by
  obtain ⟨hrow, resolves⟩ := TableType.resolves_of_ofIndex ht
  have hitems : type.rowType.items = items := by
    rw [hrow]
    exact RowType.items_of_ofItems hr
  have htype : ((empty type).fill rows).type = type := type_fill _ rows
  have hindexed : ((empty type).fill rows).Indexed := (indexed_empty type).fill rows
  have hsize := size_fill_empty type rows
  generalize (empty type).fill rows = t at htype hindexed hsize
  subst htype
  exact ⟨rfl, hindexed.byIndex resolves hitems, hsize, hindexed.takes resolves hitems⟩

/-- A table whose index names one item twice. Of four rows one does not fit, and one has the
value of another in this item. -/
theorem rows_kept_by_index_repeated : ∃ type,
    RowType.ofItems mapTypeName ["key", "value"] = .ok entryType ∧
    TableType.ofIndex "by value" entryType ["value", "value"] = .ok type ∧
    ByIndex ["key", "value"] ["value", "value"]
      ((empty type).fill [⟨["a", "2"]⟩, ⟨["a"]⟩, ⟨["b", "2"]⟩, ⟨["b", "1"]⟩]) ∧
    ((empty type).fill [⟨["a", "2"]⟩, ⟨["a"]⟩, ⟨["b", "2"]⟩, ⟨["b", "1"]⟩]).size = 2 := by
  have hr : RowType.ofItems mapTypeName ["key", "value"] = .ok entryType := rfl
  have ht : TableType.ofIndex "by value" entryType ["value", "value"] =
      .ok ⟨"by value", entryType, [⟨1, by decide⟩, ⟨1, by decide⟩], by simp⟩ := rfl
  obtain ⟨-, kept, size, -⟩ := rows_kept_by_index hr ht
    [⟨["a", "2"]⟩, ⟨["a"]⟩, ⟨["b", "2"]⟩, ⟨["b", "1"]⟩]
  exact ⟨_, hr, ht, kept, size⟩

end Table

end RemoteRecorder
