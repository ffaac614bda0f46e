import RemoteRecorder.Proofs.SortedMap
import RemoteRecorder.Table

/-!
# RemoteRecorder.Proofs.Table.Filling

**Filling a table**, row by row. A row that is refused leaves the table as it was.

* `TableType.index?` is the index under which a row is kept; a row that does not fit has
  none. Whatever `put` does is told by it (`put_eq_ok_iff`, `put_eq_error_iff`), and
  nothing below looks into `put` again.
* A table holds, for each index, the first of the rows with it (`get?_fill`). So the order
  of the rows matters only among rows that share an index (`fill_perm`).
* `Indexed` is the invariant: rows are kept under their own indexes. A table of which it
  holds is rebuilt from its rows (`fill_values`).
-/

namespace RemoteRecorder

/-! ## The index of a row

Whether a row fits and under which index it would be kept are one question here. A row that does not
fit is one without an index, and needs no case of its own further on. -/

/-- The index under which a table keeps a row, if the row fits. -/
def TableType.index? (t : TableType) (row : Row) : Option (List String) :=
  if h : row.Fits t.rowType then some (row.select h t.index) else none

theorem TableType.exists_index?_iff {t : TableType} {row : Row} :
    (∃ k, t.index? row = some k) ↔ row.Fits t.rowType := by
  unfold index?
  split
  · next h => simp [h]
  · next h => simp [h]

namespace Table

variable {t t' : Table} {row : Row} {rows : List Row} {k : List String}

theorem ext_of_rows (htype : t.type = t'.type) (hrows : t.rows = t'.rows) : t = t' := by
  cases t; cases t'; cases htype; cases hrows; rfl

/-! ## Putting one row -/

theorem put_eq (t : Table) (row : Row) :
    t.put row = match t.type.index? row with
      | none => .error (.rowMisfit row.values.length t.type.rowType.name t.type.rowType.size)
      | some k =>
        if t.rows.contains k then .error (.indexTaken k)
        else .ok { t with rows := t.rows.insert k row } := by
  unfold put TableType.index?
  split <;> rfl

/-- A row is taken under its index, if this is free. -/
theorem put_eq_ok_iff : t.put row = .ok t' ↔ ∃ k, t.type.index? row = some k ∧
    t.rows.get? k = none ∧ t' = { t with rows := t.rows.insert k row } := by
  rw [put_eq]
  cases t.type.index? row with
  | none => simp
  | some k =>
    cases hk : t.rows.get? k with
    | none => simp [SortedMap.contains, hk, eq_comm]
    | some stored => simp [SortedMap.contains, hk]

/-- A row is refused if it has no index, or if its index is taken. -/
theorem put_eq_error_iff : (∃ e, t.put row = .error e) ↔
    ∀ k, t.type.index? row = some k → t.rows.contains k = true := by
  rw [put_eq]
  cases t.type.index? row with
  | none => simp
  | some k => cases hk : t.rows.contains k <;> simp [hk]

/-- The table after a row has been put into it. A row that is refused leaves the table as
it was. -/
def offer (t : Table) (row : Row) : Table :=
  match t.put row with
  | .ok t' => t'
  | .error _ => t

theorem offer_of_ok (h : t.put row = .ok t') : t.offer row = t' := by
  simp [offer, h]

theorem offer_of_error (h : ∃ e, t.put row = .error e) : t.offer row = t := by
  obtain ⟨e, h⟩ := h
  simp [offer, h]

theorem type_of_put (h : t.put row = .ok t') : t'.type = t.type := by
  obtain ⟨k, -, -, rfl⟩ := put_eq_ok_iff.1 h
  rfl

@[simp] theorem type_offer (t : Table) (row : Row) : (t.offer row).type = t.type := by
  cases h : t.put row with
  | ok t' => rw [offer_of_ok h, type_of_put h]
  | error e => rw [offer_of_error ⟨e, h⟩]

/-- A row that is put into a table stands behind all that the table holds. -/
theorem get?_offer (t : Table) (row : Row) (k : List String) :
    (t.offer row).rows.get? k =
      (t.rows.get? k).or (if t.type.index? row = some k then some row else none) := by
  cases h : t.put row with
  | ok t' =>
    obtain ⟨j, hj, free, rfl⟩ := put_eq_ok_iff.1 h
    rw [offer_of_ok h]
    show (t.rows.insert j row).get? k = _
    rw [SortedMap.get?_insert, hj]
    by_cases hk : k = j
    · subst hk
      simp [free]
    · have hne : ¬j = k := fun he => hk he.symm
      simp [hk, hne]
  | error e =>
    rw [offer_of_error ⟨e, h⟩]
    by_cases hk : t.type.index? row = some k
    · have taken := put_eq_error_iff.1 ⟨e, h⟩ k hk
      obtain ⟨stored, hs⟩ := Option.isSome_iff_exists.1 taken
      simp [hs]
    · simp [hk]

/-- A row that is not refused is one more entry, and nothing else changes. -/
theorem entries_of_put (h : t.put row = .ok t') : ∃ k, t.type.index? row = some k ∧
    t'.rows.entries.Perm ((k, row) :: t.rows.entries) := by
  obtain ⟨k, hk, free, rfl⟩ := put_eq_ok_iff.1 h
  exact ⟨k, hk, SortedMap.entries_insert_perm free row⟩

/-! ## Putting rows one after the other

What is in a table at the end can be said without going through it row by row: under each index
there is the first row that has it. Everything about the order of rows is read off this. -/

/-- The table after rows have been put into it, one after the other. -/
def fill (t : Table) (rows : List Row) : Table := rows.foldl offer t

@[simp] theorem fill_nil (t : Table) : t.fill [] = t := rfl

@[simp] theorem fill_cons (t : Table) (row : Row) (rows : List Row) :
    t.fill (row :: rows) = (t.offer row).fill rows := rfl

@[simp] theorem type_fill (t : Table) (rows : List Row) : (t.fill rows).type = t.type := by
  induction rows generalizing t with
  | nil => rfl
  | cons row rows ih => simp [ih]

/-- Of the rows with one index, the first is kept, unless the index was taken before. -/
theorem get?_fill (t : Table) (rows : List Row) (k : List String) :
    (t.fill rows).rows.get? k =
      (t.rows.get? k).or (rows.find? fun row => t.type.index? row = some k) := by
  induction rows generalizing t with
  | nil => simp
  | cons row rows ih =>
    rw [fill_cons, ih, get?_offer, type_offer, Option.or_assoc, List.find?_cons]
    congr 1
    by_cases hk : t.type.index? row = some k <;> simp [hk]

theorem get?_fill_empty (type : TableType) (rows : List Row) (k : List String) :
    ((empty type).fill rows).rows.get? k = rows.find? fun row => type.index? row = some k := by
  rw [get?_fill]
  rfl

/-- The rows that are not refused when they are put into a table, one after the other. -/
def accepted (t : Table) : List Row → List Row
  | [] => []
  | row :: rows =>
    match t.put row with
    | .ok t' => row :: t'.accepted rows
    | .error _ => t.accepted rows

theorem accepted_cons_of_ok (h : t.put row = .ok t') (rows : List Row) :
    t.accepted (row :: rows) = row :: t'.accepted rows := by
  simp [accepted, h]

theorem accepted_cons_of_error {e : SchemaError} (h : t.put row = .error e) (rows : List Row) :
    t.accepted (row :: rows) = t.accepted rows := by
  simp [accepted, h]

/-- The rows that are taken are in the order in which they have come. -/
theorem accepted_sublist (t : Table) (rows : List Row) : (t.accepted rows).Sublist rows := by
  induction rows generalizing t with
  | nil => exact .slnil
  | cons row rows ih =>
    cases h : t.put row with
    | ok t' =>
      rw [accepted_cons_of_ok h]
      exact (ih t').cons_cons row
    | error e =>
      rw [accepted_cons_of_error h]
      exact (ih t).cons row

/-- A table holds the rows it held before, and those that were not refused. -/
theorem values_fill_perm (t : Table) (rows : List Row) :
    (t.fill rows).rows.values.Perm (t.accepted rows ++ t.rows.values) := by
  induction rows generalizing t with
  | nil => exact .refl _
  | cons row rows ih =>
    rw [fill_cons]
    cases h : t.put row with
    | ok t' =>
      obtain ⟨k, -, added⟩ := entries_of_put h
      have hv : t'.rows.values.Perm (row :: t.rows.values) := added.map Prod.snd
      rw [offer_of_ok h, accepted_cons_of_ok h]
      exact (ih t').trans ((hv.append_left _).trans List.perm_middle)
    | error e =>
      rw [offer_of_error ⟨e, h⟩, accepted_cons_of_error h]
      exact ih t

theorem size_eq_length_values (t : Table) : t.size = t.rows.values.length := by
  simp [size, SortedMap.size, SortedMap.values]

/-- A table has as many rows as were not refused. -/
theorem size_fill_empty (type : TableType) (rows : List Row) :
    ((empty type).fill rows).size = ((empty type).accepted rows).length := by
  rw [size_eq_length_values, (values_fill_perm (empty type) rows).length_eq, List.length_append]
  rfl

/-- If no row is refused, they can be put one after the other with nothing to look after. -/
theorem foldlM_put (h : t.accepted rows = rows) : rows.foldlM put t = .ok (t.fill rows) := by
  induction rows generalizing t with
  | nil => rfl
  | cons row rows ih =>
    cases hp : t.put row with
    | ok t' =>
      rw [accepted_cons_of_ok hp] at h
      rw [List.foldlM_cons, hp, fill_cons, offer_of_ok hp]
      exact ih (List.cons.inj h).2
    | error e =>
      rw [accepted_cons_of_error hp] at h
      -- If the first row were refused, the others would be one too few.
      have short := (t.accepted_sublist rows).length_le
      rw [h] at short
      exact absurd short (Nat.not_succ_le_self _)

/-! ## Rows under their own indexes

A table is made by putting rows into it, and so it holds each of them under its own index. This is
what makes the rows alone enough to build the table again. -/

/-- Whether every row is kept under its own index. -/
def Indexed (t : Table) : Prop := ∀ e ∈ t.rows.entries, t.type.index? e.2 = some e.1

theorem indexed_empty (type : TableType) : (empty type).Indexed := by
  intro e he
  cases he

/-- One more row is kept under its own index, or not at all. -/
theorem Indexed.offer (ht : t.Indexed) (row : Row) : (t.offer row).Indexed := by
  cases h : t.put row with
  | ok t' =>
    obtain ⟨k, hk, added⟩ := entries_of_put h
    rw [offer_of_ok h]
    intro e he
    rw [type_of_put h]
    rcases List.mem_cons.1 (added.mem_iff.1 he) with rfl | he
    · exact hk
    · exact ht e he
  | error e =>
    rw [offer_of_error ⟨e, h⟩]
    exact ht

theorem Indexed.fill (ht : t.Indexed) (rows : List Row) : (t.fill rows).Indexed := by
  induction rows generalizing t with
  | nil => exact ht
  | cons row rows ih => exact ih (ht.offer row)

theorem mem_values : row ∈ t.rows.values ↔ ∃ k, (k, row) ∈ t.rows.entries := by
  simp [SortedMap.values]

/-- An index is taken if a row with this index is kept. -/
theorem Indexed.contains_iff (ht : t.Indexed) :
    t.rows.contains k = true ↔ ∃ row ∈ t.rows.values, t.type.index? row = some k := by
  rw [SortedMap.contains, Option.isSome_iff_exists]
  constructor
  · rintro ⟨row, hk⟩
    have he := SortedMap.get?_eq_some_iff.1 hk
    exact ⟨row, mem_values.2 ⟨k, he⟩, ht _ he⟩
  · rintro ⟨row, hrow, hk⟩
    obtain ⟨j, he⟩ := mem_values.1 hrow
    obtain rfl : j = k := Option.some.inj ((ht _ he).symm.trans hk)
    exact ⟨row, SortedMap.get?_eq_some_iff.2 he⟩

theorem Indexed.fits (ht : t.Indexed) (h : row ∈ t.rows.values) : row.Fits t.type.rowType := by
  obtain ⟨k, he⟩ := mem_values.1 h
  exact TableType.exists_index?_iff.1 ⟨k, ht _ he⟩

/-- A row is refused if it does not fit, or if a row with its index is kept. -/
theorem Indexed.put_eq_error_iff (ht : t.Indexed) : (∃ e, t.put row = .error e) ↔
    ¬row.Fits t.type.rowType ∨
      ∃ stored ∈ t.rows.values, t.type.index? stored = t.type.index? row := by
  rw [Table.put_eq_error_iff]
  by_cases hfits : row.Fits t.type.rowType
  · obtain ⟨k, hk⟩ := TableType.exists_index?_iff.2 hfits
    simp [hfits, hk, ht.contains_iff]
  · have misfit (k : List String) : t.type.index? row ≠ some k :=
      fun hk => hfits (TableType.exists_index?_iff.1 ⟨k, hk⟩)
    simp [hfits, misfit]

/-- A table is rebuilt from its rows. -/
theorem Indexed.fill_values (ht : t.Indexed) : (empty t.type).fill t.rows.values = t := by
  have hrows : ((empty t.type).fill t.rows.values).rows = t.rows := by
    refine SortedMap.eq_of_get? ?_
    intro k
    rw [get?_fill_empty]
    cases hf : t.rows.values.find? fun row => t.type.index? row = some k with
    | some row =>
      have hk : t.type.index? row = some k := by simpa using List.find?_some hf
      obtain ⟨j, he⟩ := mem_values.1 (List.mem_of_find?_eq_some hf)
      obtain rfl : j = k := Option.some.inj ((ht _ he).symm.trans hk)
      exact (SortedMap.get?_eq_some_iff.2 he).symm
    | none =>
      cases hk : t.rows.get? k with
      | none => rfl
      | some row =>
        have he := SortedMap.get?_eq_some_iff.1 hk
        have hi : t.type.index? row = some k := ht _ he
        simpa [hi] using List.find?_eq_none.1 hf row (mem_values.2 ⟨k, he⟩)
  exact ext_of_rows (type_fill _ _) hrows

/-- Into an empty table the rows of a table go without a refusal. -/
theorem Indexed.accepted_values (ht : t.Indexed) :
    (empty t.type).accepted t.rows.values = t.rows.values := by
  refine (accepted_sublist _ _).eq_of_length ?_
  rw [← size_fill_empty, ht.fill_values, size_eq_length_values]

/-! ## Two orders of the same rows

Which indexes are taken does not depend on the order, but which rows take them does, where several
rows want the same. -/

section Perm

variable (type : TableType) {rows rows' : List Row} (h : rows.Perm rows')

include h

/-- Whether an index is taken does not depend on the order of the rows. -/
theorem contains_fill_perm (k : List String) :
    ((empty type).fill rows).rows.contains k = ((empty type).fill rows').rows.contains k := by
  rw [Bool.eq_iff_iff]
  simp only [SortedMap.contains, get?_fill_empty, List.find?_isSome, h.mem_iff]

/-- Nor does the row that takes it, if fitting rows with the same index are equal. -/
theorem find?_index_perm (alike : ∀ a ∈ rows, ∀ b ∈ rows,
    a.Fits type.rowType → type.index? a = type.index? b → a = b) (k : List String) :
    (rows.find? fun row => type.index? row = some k) =
      rows'.find? fun row => type.index? row = some k := by
  cases ha : rows.find? fun row => type.index? row = some k with
  | none =>
    symm
    rw [List.find?_eq_none] at ha ⊢
    intro row hrow
    exact ha row (h.mem_iff.2 hrow)
  | some a =>
    have hka : type.index? a = some k := by simpa using List.find?_some ha
    have hma := List.mem_of_find?_eq_some ha
    cases hb : rows'.find? fun row => type.index? row = some k with
    | none =>
      have hn := List.find?_eq_none.1 hb a (h.mem_iff.1 hma)
      simp [hka] at hn
    | some b =>
      have hkb : type.index? b = some k := by simpa using List.find?_some hb
      have hmb := h.mem_iff.2 (List.mem_of_find?_eq_some hb)
      have fits : a.Fits type.rowType := TableType.exists_index?_iff.1 ⟨k, hka⟩
      rw [alike a hma b hmb fits (hka.trans hkb.symm)]

end Perm

/-- The rows of a list in another order take the same indexes, and each index goes to the
first of the rows with it. The tables are equal if only equal rows share an index. -/
theorem fill_perm (type : TableType) {rows rows' : List Row} (h : rows.Perm rows') :
    ((empty type).fill rows).rows.keys = ((empty type).fill rows').rows.keys ∧
    ((empty type).fill rows).size = ((empty type).fill rows').size ∧
    (∀ k, ((empty type).fill rows).rows.get? k =
      rows.find? fun row => type.index? row = some k) ∧
    (∀ k, ((empty type).fill rows').rows.get? k =
      rows'.find? fun row => type.index? row = some k) ∧
    ((∀ a ∈ rows, ∀ b ∈ rows, a.Fits type.rowType → type.index? a = type.index? b → a = b) →
      (empty type).fill rows = (empty type).fill rows') := by
  have hkeys : ((empty type).fill rows).rows.keys = ((empty type).fill rows').rows.keys :=
    SortedMap.keys_eq_of_contains (contains_fill_perm type h)
  refine ⟨hkeys, ?_, get?_fill_empty type rows, get?_fill_empty type rows', ?_⟩
  · have hlength := congrArg List.length hkeys
    simpa [SortedMap.keys, size, SortedMap.size] using hlength
  · intro alike
    refine ext_of_rows (by simp) (SortedMap.eq_of_get? ?_)
    intro k
    rw [get?_fill_empty, get?_fill_empty]
    exact find?_index_perm type h alike k

/-- Two rows contest an index, and one does not fit. -/
theorem fill_perm_contested :
    ((empty mapType).fill [⟨["a", "1"]⟩, ⟨["a"]⟩, ⟨["a", "2"]⟩, ⟨["b", "3"]⟩]).rows.keys =
      ((empty mapType).fill [⟨["b", "3"]⟩, ⟨["a", "2"]⟩, ⟨["a", "1"]⟩, ⟨["a"]⟩]).rows.keys ∧
    ((empty mapType).fill [⟨["a", "1"]⟩, ⟨["a"]⟩, ⟨["a", "2"]⟩, ⟨["b", "3"]⟩]).rows.get? ["a"] =
      some ⟨["a", "1"]⟩ ∧
    ((empty mapType).fill [⟨["b", "3"]⟩, ⟨["a", "2"]⟩, ⟨["a", "1"]⟩, ⟨["a"]⟩]).rows.get? ["a"] =
      some ⟨["a", "2"]⟩ ∧
    (empty mapType).fill [⟨["a", "1"]⟩, ⟨["a"]⟩, ⟨["b", "3"]⟩] =
      (empty mapType).fill [⟨["b", "3"]⟩, ⟨["a"]⟩, ⟨["a", "1"]⟩] := by
  have contested : [Row.mk ["a", "1"], ⟨["a"]⟩, ⟨["a", "2"]⟩, ⟨["b", "3"]⟩].Perm
      [⟨["b", "3"]⟩, ⟨["a", "2"]⟩, ⟨["a", "1"]⟩, ⟨["a"]⟩] := by decide
  have free : [Row.mk ["a", "1"], ⟨["a"]⟩, ⟨["b", "3"]⟩].Perm
      [⟨["b", "3"]⟩, ⟨["a"]⟩, ⟨["a", "1"]⟩] := by decide
  obtain ⟨hkeys, -, hfirst, hfirst', -⟩ := fill_perm mapType contested
  obtain ⟨-, -, -, -, hequal⟩ := fill_perm mapType free
  exact ⟨hkeys, (hfirst ["a"]).trans rfl, (hfirst' ["a"]).trans rfl, hequal (by decide)⟩

end Table

end RemoteRecorder
