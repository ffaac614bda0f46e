import Mathlib.Data.List.Dedup
import RemoteRecorder.Proofs.SortedMap
import RemoteRecorder.Proofs.Table.Index

/-!
# RemoteRecorder.Proofs.Table.Items

**The items of a row**, and what they say about its values.

* Items are distinct exactly if there are as many different ones as there are items
  (`nodup_iff_length_distinct`), so it is enough to count them. A row type is made of a name and
  items in which no fault is found this way (`ofItems_cases`).
* As its items are distinct, each is found where it stands (`position?_item`). So a row has its
  values for the items in their order and for nothing else, and is known by them.
-/

namespace RemoteRecorder

/-! ## Counting different items

A list without repetitions is recognized by its length: taking out what occurs twice makes any other
list shorter. -/

/-- The different texts in a list, in ascending order. -/
def distinct (items : List String) : List String :=
  (SortedMap.ofList (items.map fun item => (item, ()))).keys

section Distinct

variable {items : List String} {item : String}

theorem mem_distinct : item ∈ distinct items ↔ item ∈ items := by
  have last : lastOf (items.map fun item => (item, ())) item =
      if item ∈ items then some () else none :=
    lastOf_map (f := fun item => item) (fun _ _ => id) (fun _ => ()) items item
  rw [distinct, SortedMap.mem_keys, SortedMap.contains, SortedMap.get?_ofList, last]
  by_cases h : item ∈ items <;> simp [h]

theorem nodup_distinct (items : List String) : (distinct items).Nodup := by
  refine List.pairwise_map.2 ((SortedMap.ascending _).imp ?_)
  intro a b hab heq
  rw [heq] at hab
  simp at hab

/-- A list has no repetitions just if it has as many members as different ones. -/
theorem nodup_iff_length_distinct : items.Nodup ↔ (distinct items).length = items.length := by
  have perm : (distinct items).Perm items.dedup := by
    refine (List.perm_ext_iff_of_nodup (nodup_distinct items) (List.nodup_dedup items)).2 ?_
    intro item
    rw [mem_distinct, List.mem_dedup]
  rw [perm.length_eq, ← List.dedup_eq_self]
  exact ⟨congrArg List.length, (List.dedup_sublist items).eq_of_length⟩

end Distinct

/-! ## Row types

The faults are looked for in a fixed order, and the first is reported. Whoever makes a row type
learns by the same checks that its items are distinct, and the type keeps this. -/

namespace RowType

/-- What is wrong first with a name and items, if they are counted to find repetitions. -/
def fault? (name : String) (items : List String) : Option SchemaError :=
  if Text.allBlank name then some .rowTypeUnnamed
  else if items.isEmpty then some (.rowTypeWithoutItems name)
  else if (distinct items).length ≠ items.length then some (.itemsRepeated name)
  else if items.any String.isEmpty then some (.itemUnnamed name)
  else none

variable {name : String} {items : List String}

/-- A row type is made if there is no fault. Otherwise the fault is reported. -/
theorem ofItems_cases (name : String) (items : List String) :
    (∃ e, fault? name items = some e ∧ ofItems name items = .error e) ∨
    fault? name items = none ∧
      (Text.allBlank name = false ∧ items ≠ [] ∧ items.Nodup ∧ "" ∉ items) ∧
      ∃ t, ofItems name items = .ok t ∧ t.name = name ∧ t.items = items := by
  have unnamed : items.any String.isEmpty = true ↔ "" ∈ items := by
    simp [List.any_eq_true, String.isEmpty_iff]
  unfold fault? ofItems
  by_cases hb : Text.allBlank name = true
  · exact .inl ⟨_, if_pos hb, if_pos hb⟩
  rw [if_neg hb, if_neg hb]
  by_cases hn : items = []
  · exact .inl ⟨_, if_pos (List.isEmpty_iff.2 hn), dif_pos hn⟩
  rw [if_neg (hn ∘ List.isEmpty_iff.1), dif_neg hn]
  by_cases hd : items.Nodup
  · have counted := nodup_iff_length_distinct.1 hd
    rw [if_neg (not_not_intro counted), dif_pos hd]
    by_cases he : "" ∈ items
    · exact .inl ⟨_, if_pos (unnamed.2 he), dif_pos he⟩
    · exact .inr ⟨if_neg (he ∘ unnamed.1), ⟨Bool.eq_false_iff.2 hb, hn, hd, he⟩, _, dif_neg he,
        rfl, rfl⟩
  · exact .inl ⟨_, if_pos (hd ∘ nodup_iff_length_distinct.2), dif_neg hd⟩

theorem ofItems_eq_error_iff {e : SchemaError} :
    ofItems name items = .error e ↔ fault? name items = some e := by
  rcases ofItems_cases name items with ⟨e', hf, ho⟩ | ⟨hf, -, t, ho, -⟩ <;> simp [hf, ho]

/-- A row type is made just if nothing is wrong with its name and its items. -/
theorem exists_ofItems_iff : (∃ t, ofItems name items = .ok t) ↔
    Text.allBlank name = false ∧ items ≠ [] ∧ items.Nodup ∧ "" ∉ items := by
  constructor
  · rintro ⟨t, ht⟩
    rcases ofItems_cases name items with ⟨e, -, he⟩ | ⟨-, h, -⟩
    · rw [ht] at he
      cases he
    · exact h
  · rintro ⟨hb, hn, hd, he⟩
    refine ⟨⟨name, items, hn, hd, he⟩, ?_⟩
    rw [ofItems, if_neg (Bool.eq_false_iff.1 hb), dif_neg hn, dif_pos hd, dif_neg he]

end RowType

/-! ## Values of items

A row carries values and no items. Together with the items of its type, which are in the same order,
it is a map from items to values. -/

variable {t : RowType} {row row' : Row} {values : List String} {item : String}

/-- An item is found where it stands, since it does not stand in two places. -/
theorem RowType.position?_item (t : RowType) (i : Fin t.size) :
    t.position? (t.item i) = some i := by
  refine List.finIdxOf?_eq_some_iff.2 ⟨rfl, ?_⟩
  intro j hj heq
  have same : j = i := List.nodup_iff_injective_get.1 t.nodup heq
  exact absurd hj (same ▸ Nat.lt_irrefl _)

namespace Row

theorem ofValues_eq_ok_iff : ofValues t values = .ok row ↔ row.values = values ∧ row.Fits t := by
  unfold ofValues Fits
  obtain ⟨stored⟩ := row
  split
  · next h =>
    rw [Except.ok.injEq, Row.mk.injEq]
    exact ⟨fun heq => ⟨heq.symm, heq ▸ h⟩, fun heq => heq.1.symm⟩
  · next h =>
    simp only [reduceCtorEq, false_iff]
    rintro ⟨rfl, hfits⟩
    exact h hfits

/-- A row has its values for the items in their order. -/
theorem get?_item (row : Row) (i : Fin t.size) : row.get? t (t.item i) = row.values[i.val]? := by
  rw [get?, RowType.position?_item]
  rfl

theorem get?_of_not_mem (h : item ∉ t.items) : row.get? t item = none := by
  have absent : t.position? item = none := List.finIdxOf?_eq_none_iff.2 h
  rw [get?, absent]
  rfl

/-- Rows with the same values for all items are equal. -/
theorem eq_of_get? (h : row.Fits t) (h' : row'.Fits t)
    (hget : ∀ item ∈ t.items, row.get? t item = row'.get? t item) : row = row' := by
  obtain ⟨values⟩ := row
  obtain ⟨values'⟩ := row'
  refine congrArg Row.mk (List.ext_getElem? fun i => ?_)
  by_cases hi : i < t.size
  · have same := hget (t.item ⟨i, hi⟩) (List.get_mem _ _)
    rwa [get?_item, get?_item] at same
  · have none {vs : List String} (hvs : vs.length = t.size) : vs[i]? = none :=
      List.getElem?_eq_none (hvs ▸ Nat.le_of_not_lt hi)
    rw [none h, none h']

end Row

/-- A row type is made exactly of a name that is not blank and of distinct items, at least one, none
of which is empty. A row of it has each of its values for the item at the same position and nothing
for any other text, so it is known by what it has for the items. -/
theorem RowType.rows_known_by_items (name : String) (items : List String) :
    ((∃ t, ofItems name items = .ok t) ↔
      Text.allBlank name = false ∧ items ≠ [] ∧ items.Nodup ∧ "" ∉ items) ∧
    (∀ e, ofItems name items = .error e ↔ fault? name items = some e) ∧
    ∀ t, ofItems name items = .ok t → t.name = name ∧ t.items = items ∧
      (∀ values : List String, values.length = items.length →
        ∃ row, Row.ofValues t values = .ok row ∧
          (∀ (i : Nat) (item value : String), items[i]? = some item → values[i]? = some value →
            row.get? t item = some value) ∧
          ∀ item, item ∉ items → row.get? t item = none) ∧
      ∀ (values values' : List String) (row row' : Row), Row.ofValues t values = .ok row →
        Row.ofValues t values' = .ok row' →
        (row = row' ↔ ∀ item ∈ items, row.get? t item = row'.get? t item) := by
  refine ⟨exists_ofItems_iff, fun _ => ofItems_eq_error_iff, ?_⟩
  intro t ht
  rcases ofItems_cases name items with ⟨e, -, he⟩ | ⟨-, -, t', ht', rfl, rfl⟩
  · rw [ht] at he
    cases he
  obtain rfl : t = t' := Except.ok.inj (ht.symm.trans ht')
  refine ⟨rfl, rfl, ?_, ?_⟩
  · intro values hvalues
    refine ⟨⟨values⟩, Row.ofValues_eq_ok_iff.2 ⟨rfl, hvalues⟩, ?_, fun _ => Row.get?_of_not_mem⟩
    intro i item value hitem hvalue
    obtain ⟨hi, rfl⟩ := List.getElem?_eq_some_iff.1 hitem
    exact (Row.get?_item ⟨values⟩ ⟨i, hi⟩).trans hvalue
  · intro values values' row row' hrow hrow'
    refine ⟨fun h _ _ => h ▸ rfl, ?_⟩
    exact Row.eq_of_get? (Row.ofValues_eq_ok_iff.1 hrow).2 (Row.ofValues_eq_ok_iff.1 hrow').2

end RemoteRecorder
