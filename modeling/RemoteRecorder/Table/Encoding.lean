import RemoteRecorder.Error
import RemoteRecorder.Table

/-!
# RemoteRecorder.Table.Encoding

**Building the table of a map**: its types are checked and its rows are put one by one, as
those of any table. `Table.ofMap` writes down the table that comes of it.

What could fail on the way is a defect of this library, and is reported as one.
-/

namespace RemoteRecorder.Table

/-- A cause as the error of building the table of a map. -/
def encodingError (cause : SchemaError) : Error :=
  .protocol "encoding key/value table" (.defect cause.message)

/-- Puts an entry of a map into a table. -/
def putEntry (t : Table) (entry : String × String) : Except SchemaError Table := do
  t.put (← Row.ofValues t.type.rowType [entry.1, entry.2])

/-- Builds the table of a map. -/
def encode (m : StringMap) : Except Error Table :=
  Except.mapError encodingError do
    let rowType ← RowType.ofItems mapTypeName ["key", "value"]
    let type ← TableType.ofIndex mapTypeName rowType ["key"]
    m.entries.foldlM putEntry (empty type)

end RemoteRecorder.Table
