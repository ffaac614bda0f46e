import RemoteRecorder.Backend

/-!
# RemoteRecorder.Recording

**Recordings**: what a user holds of a recording session on the target.

* The phase and the session number are all that changes in the life of a recording;
  they stand in its `Cell`, which all callers share.
* Two phases last as long as a remote request: `starting` and `stopping`. Only the
  caller that has set such a phase moves the recording out of it, except that anybody
  may close the recording at any time.
* To the outside a recording in transition is already in the state it is on its way to.
-/

namespace RemoteRecorder

/-- Where a recording stands in its life. -/
inductive Phase where
  | new
  | active
  | stopped
  | closed
  /-- A request to start the session is under way. -/
  | starting
  /-- A request to stop the session is under way. -/
  | stopping
  deriving DecidableEq

namespace Phase

/-- The state that the recording shows. -/
def state : Phase → State
  | new => .new
  | active | starting => .active
  | stopped | stopping => .stopped
  | closed => .closed

/-- Whether no request of a transition is under way. -/
def isSettled : Phase → Bool
  | starting | stopping => false
  | new | active | stopped | closed => true

/-- The settled phase of a state. -/
def ofState : State → Phase
  | .new => new
  | .active => active
  | .stopped => stopped
  | .closed => closed

@[simp] theorem state_ofState (s : State) : (ofState s).state = s := by cases s <;> rfl

@[simp] theorem isSettled_ofState (s : State) : (ofState s).isSettled = true := by
  cases s <;> rfl

end Phase

/-- What the callers of a recording share and change. -/
structure Cell where
  phase : Phase
  id : SessionId
  deriving DecidableEq

/-- A recording. -/
structure Recording where
  options : Options
  configuration : Configuration
  /-- The block size of streams that are opened without one. -/
  blockSize : Int64
  cell : Cell
  deriving DecidableEq

namespace Recording

/-- A new recording. The target does not know of it. -/
def create (options : Options) (configuration : Configuration) (blockSize : Int64) : Recording :=
  ⟨options, configuration, blockSize, ⟨.new, .unassigned⟩⟩

/-- A recording of the copy `id` of this recording's session. -/
def copy (r : Recording) (id : SessionId) (state : State) : Recording :=
  { r with cell := ⟨.ofState state, id⟩ }

/-- The state that the recording shows. -/
def state (r : Recording) : State := r.cell.phase.state

/-- The number of the recording's session. -/
def id (r : Recording) : SessionId := r.cell.id

/-- The recording in another phase. -/
def setPhase (r : Recording) (p : Phase) : Recording :=
  { r with cell := { r.cell with phase := p } }

/-- The recording moved from one phase to another, if it still is in the first. -/
def move? (r : Recording) (source target : Phase) : Option Recording :=
  if r.cell.phase = source then some (r.setPhase target) else none

theorem move?_eq_some_iff {r r' : Recording} {source target : Phase} :
    r.move? source target = some r' ↔ r.cell.phase = source ∧ r.setPhase target = r' := by
  simp [move?]

theorem move?_eq_none_iff {r : Recording} {source target : Phase} :
    r.move? source target = none ↔ r.cell.phase ≠ source := by
  simp [move?]

/-- The recording with another session number. -/
def setId (r : Recording) (id : SessionId) : Recording := { r with cell := { r.cell with id } }

/-- A short description of the recording. -/
def description (r : Recording) : String :=
  "Recording \x7b id: RecordingId(" ++ r.id.text ++ "), state: " ++ r.state.title ++ ", .. \x7d"

end Recording

end RemoteRecorder
