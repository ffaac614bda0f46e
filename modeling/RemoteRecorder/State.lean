import RemoteRecorder.Json

/-!
# RemoteRecorder.State

**The states of a recording** and the number of a recording session.

A recording is new, then active and stopped any number of times in turn, and closed
at the end. Only an active or stopped recording has data on the target.
-/

namespace RemoteRecorder

/-- The state of a recording, as its owner sees it. -/
inductive State where
  | new
  | active
  | stopped
  | closed
  deriving DecidableEq

namespace State

/-- The states in the order of a recording's life. -/
def all : List State := [new, active, stopped, closed]

/-- The name in messages. -/
def label : State → String
  | new => "NEW"
  | active => "RECORDING"
  | stopped => "STOPPED"
  | closed => "CLOSED"

/-- The name in data. -/
def name : State → String
  | new => "new"
  | active => "active"
  | stopped => "stopped"
  | closed => "closed"

/-- The name in descriptions of a recording. -/
def title : State → String
  | new => "New"
  | active => "Active"
  | stopped => "Stopped"
  | closed => "Closed"

/-- The state of a name. -/
def ofName? (s : String) : Option State :=
  all.find? fun state => state.name == s

theorem ofName?_name (s : State) : ofName? s.name = some s := by
  cases s <;> rfl

/-- The state that a JSON text names. -/
def ofJson? (text : String) : Option State := do
  ofName? (← (← Json.parse? text).variant?)

/-- Whether the target holds data for a recording in this state. -/
def hasRemoteData : State → Bool
  | active | stopped => true
  | new | closed => false

/-- The states of a recording that is not closed. -/
def anyOpen : List State := [new, active, stopped]

/-- The states of a recording with data on the target. -/
def withData : List State := [active, stopped]

end State

/-- The number by which the target knows a recording session. -/
structure SessionId where
  value : Int64
  deriving DecidableEq

namespace SessionId

/-- The number of a recording that has never been started. -/
def unassigned : SessionId := ⟨-1⟩

/-- Whether the target may have given this number. -/
def isAssigned (id : SessionId) : Bool := 0 ≤ id.value

/-- The number in decimal. -/
def text (id : SessionId) : String := toString id.value.toInt

/-- The number that a JSON text spells. -/
def ofJson? (text : String) : Option SessionId := do
  return ⟨← (← Json.parse? text).int64?⟩

end SessionId

end RemoteRecorder
