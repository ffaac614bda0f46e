import RemoteRecorder.SortedMap
import RemoteRecorder.Text.Blank
import RemoteRecorder.Text.Quoted

/-!
# RemoteRecorder.Table

**Tables of texts with a unique index**, the structured values of remote calls.

* A `RowType` names the items of a row. Its items are distinct and not empty; a value
  of the type proves it.
* A `TableType` adds the items that form the index of a row, as positions in the row.
* A `Table` keeps its rows by their index, in ascending order item by item. `put`
  refuses a row of the wrong size and a row whose index is taken.
* `Table.ofMap` writes a map of texts as a table with the items `key` and `value`, and
  `Table.toMap` reads it back.
-/

namespace RemoteRecorder

/-- Why a type, a row or a table cannot be built. -/
inductive SchemaError where
  | rowTypeUnnamed
  | rowTypeWithoutItems (rowType : String)
  | itemsRepeated (rowType : String)
  | itemUnnamed (rowType : String)
  | tableTypeWithoutIndex (tableType : String)
  | indexNotAnItem (item rowType : String)
  /-- A row of some row type has to have as many values as there are items. -/
  | valuesMiscounted (rowType : String) (needed given : Nat)
  /-- A row is put into a table whose rows have another number of values. -/
  | rowMisfit (values : Nat) (rowType : String) (items : Nat)
  /-- A row is put into a table that holds a row with the same index. -/
  | indexTaken (index : List String)
  deriving DecidableEq

/-- The wording of a cause. -/
def SchemaError.message : SchemaError → String
  | rowTypeUnnamed => "composite type name is empty"
  | rowTypeWithoutItems rowType => s!"composite type {rowType} has no items"
  | itemsRepeated rowType => s!"composite type {rowType} has duplicate item names"
  | itemUnnamed rowType => s!"composite type {rowType} has an empty item name"
  | tableTypeWithoutIndex tableType => s!"tabular type {tableType} has no index"
  | indexNotAnItem item rowType =>
    "index item " ++ Text.quoted item ++ " not in row type " ++ rowType
  | valuesMiscounted rowType needed given =>
    s!"row for {rowType} needs {needed} values, got {given}"
  | rowMisfit values rowType items =>
    s!"row with {values} values does not fit {rowType} ({items} items)"
  | indexTaken index => "duplicate row index " ++ Text.quotedList index

/-! ## Types of rows and tables -/

/-- The items of a row, in order. -/
structure RowType where
  name : String
  items : List String
  items_ne_nil : items ≠ []
  nodup : items.Nodup
  item_ne_empty : "" ∉ items
  deriving DecidableEq

namespace RowType

/-- Checks a name and a list of items; what is wrong first in this order is reported. -/
def ofItems (name : String) (items : List String) : Except SchemaError RowType :=
  if Text.allBlank name then .error .rowTypeUnnamed
  else if hn : items = [] then .error (.rowTypeWithoutItems name)
  else if hd : items.Nodup then
    if he : "" ∈ items then .error (.itemUnnamed name) else .ok ⟨name, items, hn, hd, he⟩
  else .error (.itemsRepeated name)

/-- The number of values in a row. -/
def size (t : RowType) : Nat := t.items.length

/-- Where an item stands in a row. -/
def position? (t : RowType) (item : String) : Option (Fin t.size) :=
  t.items.finIdxOf? item

end RowType

/-- The items of a table's rows, and the positions of those that form the index. -/
structure TableType where
  name : String
  rowType : RowType
  index : List (Fin rowType.size)
  index_ne_nil : index ≠ []
  deriving DecidableEq

namespace TableType

/-- Where an item of an index stands in the rows. -/
def position (t : RowType) (item : String) : Except SchemaError (Fin t.size) :=
  match t.position? item with
  | some i => .ok i
  | none => .error (.indexNotAnItem item t.name)

/-- A table type over a row type. The index needs an item; the first of its items that
the row type does not have is reported. -/
def ofIndex (name : String) (t : RowType) : List String → Except SchemaError TableType
  | [] => .error (.tableTypeWithoutIndex name)
  | item :: items => do
    let first ← position t item
    let rest ← items.mapM (position t)
    return ⟨name, t, first :: rest, by simp⟩

end TableType

/-! ## Rows -/

/-- The values of a row, in the order of the items of its type. -/
structure Row where
  values : List String
  deriving DecidableEq

namespace Row

/-- A row of a given type. -/
def ofValues (t : RowType) (values : List String) : Except SchemaError Row :=
  if values.length = t.size then .ok ⟨values⟩
  else .error (.valuesMiscounted t.name t.size values.length)

/-- The value of an item, read as a row of a given type. -/
def get? (r : Row) (t : RowType) (item : String) : Option String :=
  (t.position? item).bind fun i => r.values[i.val]?

/-- A row that has as many values as a type has items. -/
def Fits (r : Row) (t : RowType) : Prop := r.values.length = t.size

instance (r : Row) (t : RowType) : Decidable (r.Fits t) :=
  inferInstanceAs (Decidable (_ = _))

/-- The values of a fitting row at given positions. -/
def select (r : Row) {t : RowType} (h : r.Fits t) (positions : List (Fin t.size)) : List String :=
  positions.map fun i => r.values.get (i.cast h.symm)

end Row

/-! ## Tables -/

/-- Rows by their index. -/
structure Table where
  type : TableType
  rows : SortedMap (List String) Row
  deriving DecidableEq

namespace Table

/-- The table without rows. -/
def empty (t : TableType) : Table := ⟨t, ∅⟩

/-- The number of rows. -/
def size (t : Table) : Nat := t.rows.size

/-- Whether there is no row. -/
def isEmpty (t : Table) : Bool := t.rows.isEmpty

/-- Adds a row that fits and whose index is free. -/
def put (t : Table) (row : Row) : Except SchemaError Table :=
  if h : row.Fits t.type.rowType then
    let index := row.select h t.type.index
    if t.rows.contains index then .error (.indexTaken index)
    else .ok { t with rows := t.rows.insert index row }
  else .error (.rowMisfit row.values.length t.type.rowType.name t.type.rowType.size)

/-! ## Maps of texts as tables -/

/-- The name that the target has for maps from texts to texts. -/
def mapTypeName : String := "java.util.Map<java.lang.String, java.lang.String>"

/-- A row of a map: a key and its value. -/
def entryType : RowType where
  name := mapTypeName
  items := ["key", "value"]
  items_ne_nil := by simp
  nodup := by decide
  item_ne_empty := by decide

/-- A table of entries, with the key as index. -/
def mapType : TableType where
  name := mapTypeName
  rowType := entryType
  index := [⟨0, by decide⟩]
  index_ne_nil := by simp

/-- The table of a map: a row for each entry. -/
def ofMap (m : StringMap) : Table where
  type := mapType
  rows :=
    { entries := m.entries.map fun (key, value) => ([key], ⟨[key, value]⟩)
      ascending := by
        refine List.pairwise_map.2 (m.ascending.imp fun {a b} h => ?_)
        simp [List.compare_cons_cons, h] }

/-- The map that a table of entries holds. -/
def toMap (t : Table) : StringMap :=
  .ofList <| t.rows.values.filterMap fun row => do
    return (← row.get? t.type.rowType "key", ← row.get? t.type.rowType "value")

end Table

end RemoteRecorder
