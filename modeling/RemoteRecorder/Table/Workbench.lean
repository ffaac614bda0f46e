import RemoteRecorder.Table

/-!
# RemoteRecorder.Table.Workbench

**Building tables step by step**: row types, table types, rows and tables are kept in
numbered slots, a row of numbers for each of the four. A step that builds something
takes the next number of its kind, also if it fails; the slot stays empty then.
-/

namespace RemoteRecorder.Table

/-- What has been built so far. -/
structure Workbench where
  rowTypes : List (Option RowType) := []
  tableTypes : List (Option TableType) := []
  rows : List (Option Row) := []
  tables : List (Option Table) := []

namespace Workbench

/-- A step on a workbench; what it works on is named by slots. -/
inductive Step where
  | rowType (name : String) (items : List String)
  | tableType (rowType : Nat) (name : String) (index : List String)
  | row (rowType : Nat) (values : List String)
  | table (tableType : Nat)
  /-- Puts a copy of a row into a table. -/
  | put (table row : Nat)
  /-- Reads an item of a row, taken as a row of some row type. -/
  | get (row rowType : Nat) (item : String)
  /-- Compares two tables. -/
  | compare (left right : Nat)

/-- What a step answers. -/
inductive Answer where
  | rowType (t : RowType)
  | tableType (t : TableType)
  | row
  | table (t : Table)
  | value (v : Option String)
  | equal (b : Bool)
  | error (e : SchemaError)
  /-- A row was refused by a table with so many rows. -/
  | refused (e : SchemaError) (size : Nat)
  | noSlot

/-- What is in a slot. -/
def slot? {α : Type} (slots : List (Option α)) (i : Nat) : Option α := slots[i]?.join

/-- What has been built for the next slot, and the answer about it. -/
def built {α : Type} (answer : α → Answer) : Option (Except SchemaError α) → Option α × Answer
  | none => (none, .noSlot)
  | some (.error e) => (none, .error e)
  | some (.ok a) => (some a, answer a)

/-- Takes a step. -/
def step (w : Workbench) : Step → Workbench × Answer
  | .rowType name items =>
    let (t, answer) := built .rowType (some (RowType.ofItems name items))
    ({ w with rowTypes := w.rowTypes ++ [t] }, answer)
  | .tableType i name index =>
    let (t, answer) := built .tableType <|
      (slot? w.rowTypes i).map fun t => TableType.ofIndex name t index
    ({ w with tableTypes := w.tableTypes ++ [t] }, answer)
  | .row i values =>
    let (r, answer) := built (fun _ => .row) <|
      (slot? w.rowTypes i).map fun t => Row.ofValues t values
    ({ w with rows := w.rows ++ [r] }, answer)
  | .table i =>
    let (t, answer) := built .table ((slot? w.tableTypes i).map fun t => .ok (Table.empty t))
    ({ w with tables := w.tables ++ [t] }, answer)
  | .put i j =>
    match slot? w.tables i, slot? w.rows j with
    | some t, some r =>
      match t.put r with
      | .ok t => ({ w with tables := w.tables.set i (some t) }, .table t)
      | .error e => (w, .refused e t.size)
    | _, _ => (w, .noSlot)
  | .get i j item =>
    match slot? w.rows i, slot? w.rowTypes j with
    | some r, some t => (w, .value (r.get? t item))
    | _, _ => (w, .noSlot)
  | .compare i j =>
    match slot? w.tables i, slot? w.tables j with
    | some a, some b => (w, .equal (a = b))
    | _, _ => (w, .noSlot)

/-- Takes steps one after the other, beginning with nothing built. -/
def play (steps : List Step) : List Answer :=
  go {} steps
where
  /-- Goes on with steps. -/
  go (w : Workbench) : List Step → List Answer
    | [] => []
    | s :: rest =>
      let (w, answer) := w.step s
      answer :: go w rest

end Workbench

end RemoteRecorder.Table
