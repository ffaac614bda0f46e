import RemoteRecorder.Recording.Operation

/-!
# RemoteRecorder.Recording.Caller

**Callers of a recording**: where a caller stands in its operation, and the atomic steps
it takes.

Many callers may work on one recording at once. What they share is the recording's
cell, and between two steps of one caller any others may take theirs. So a step touches
the cell once: it reads the phase, exchanges it, moves it from one phase to another if
it still is the first, or reads or writes the session number.

* `Caller.step?` takes a step that needs no answer from the target. There is none while
  the caller waits for a transition to settle, waits for a reply, or is at its end.
* `Caller.pending?` is the remote call the caller waits for; `Caller.answer` hands it the
  reply, and `Caller.unwind` cuts the operation off instead.
* Who wins a transition owns it. The owner brings the phase to where the outcome of the
  request says, unless the recording has been closed meanwhile; then it is the owner who
  releases the session. An unwound request leads back to the source of the transition,
  and no session is released.
-/

namespace RemoteRecorder.Recording

/-- Where a caller stands in its operation. -/
inductive Caller where
  /-- At the beginning. All operations but `close` wait for a settled phase. -/
  | begun (operation : Operation)
  /-- Has seen the source of a transition, and is about to claim it. -/
  | claiming (transition : Transition)
  /-- About to read the session number. -/
  | fetching (use : Use)
  /-- A request to the backend is under way. -/
  | asking (errand : Errand) (rest : Exchange Empty (Except Error errand.Brings))
  /-- Has started a session, and is about to write its number. -/
  | assigning (id : SessionId)
  /-- Has started a session, and is about to leave the transition. -/
  | settlingStart (id : SessionId)
  /-- Has failed to start a session, and is about to leave the transition. -/
  | revertingStart (launch : Launch) (error : Error)
  /-- Has tried to stop the session, and is about to leave the transition. -/
  | settlingStop (id : SessionId) (result : Except Error Unit)
  /-- Is being unwound out of a transition. -/
  | unwinding (transition : Transition) (text : String)
  /-- Has cloned the session, and is about to report it. -/
  | reportingClone (clone : SessionId) (state : State)
  /-- At the end. -/
  | ended (outcome : Outcome Yield)

namespace Caller

/-- The end of an operation that got a result. -/
def ofResult {α : Type} (f : α → Yield) (result : Except Error α) : Caller :=
  ended (.returned (result.map f))

/-- Begins an errand. -/
def ask (b : Backend) (r : Recording) (e : Errand) : Caller :=
  asking e (e.request b r.options r.configuration).run

/-! ## Single steps -/

/-- What an operation does after it has seen a settled phase. -/
def afterLook (r : Recording) (phase : Phase) : Operation → Caller
  | .start =>
    match phase with
    | .new => claiming (.start .first)
    | .stopped => claiming (.start .again)
    | .closed => ended (refused .closed State.anyOpen)
    | _ => fetching .answer
  | .stop =>
    match phase with
    | .active => claiming .stop
    | .closed => ended (refused .closed State.anyOpen)
    | _ => ended finished
  | .dump path =>
    if phase.state.hasRemoteData then fetching (.dump path)
    else ended (refused phase.state State.withData)
  | .clone stop =>
    if phase.state.hasRemoteData then fetching (.clone stop phase.state)
    else ended (refused phase.state State.withData)
  | .openStream start stop blockSize =>
    if phase = .stopped then fetching (.openStream ⟨start, stop, blockSize.getD r.blockSize⟩)
    else ended (refused phase.state [.stopped])
  | .close => ended finished

/-- What a close does after it has replaced the phase it found. -/
def afterClose : Phase → Caller × List Notice
  | .active => (fetching .release, [])
  | .starting | .stopping => (ended finished, [.closedInTransition])
  | .new | .stopped | .closed => (ended finished, [])

/-- What the winner of a transition does. -/
def afterClaim (b : Backend) (r : Recording) : Transition → Caller
  | .start launch => ask b r (.start launch)
  | .stop => fetching .stop

/-- What a caller does with the session number. -/
def use (b : Backend) (r : Recording) (id : SessionId) : Use → Caller
  | .answer => ended (.returned (.ok (.running id)))
  | .stop => ask b r (.stop id)
  | .dump path => ask b r (.dump id path)
  | .clone stop state => ask b r (.clone id stop state)
  | .openStream request => ask b r (.openStream id request)
  | .release => ask b r (.stopForRelease id finished)

/-- What follows an errand that the backend has done or failed to do. -/
def afterErrand (b : Backend) (r : Recording) :
    (e : Errand) → Except Error e.Brings → Caller × List Notice
  | .start _, .ok id => (assigning id, [])
  | .start launch, .error e => (revertingStart launch e, [])
  | .stop id, result => (settlingStop id result, [])
  | .dump _ _, result => (ofResult (fun _ => .done) result, [])
  | .clone _ stop state, .ok id => (reportingClone id (if stop then .stopped else state), [])
  | .clone _ _ _, .error e => (ended (.returned (.error e)), [])
  | .openStream _ _, result => (ofResult .opened result, [])
  | .stopForRelease id outcome, .ok _ => (ask b r (.release id outcome), [])
  | .stopForRelease id outcome, .error e => (ended outcome, [.stopIgnored id e])
  | .release _ outcome, .ok _ => (ended outcome, [])
  | .release id outcome, .error e => (ended outcome, [.closeIgnored id e])

/-- The phase in which a request to stop leaves the recording. -/
def phaseAfterStop : Except Error Unit → Phase
  | .ok _ => .stopped
  | .error _ => .active

/-- A caller of a recording takes one step by itself: the recording and the caller after
it, and what is reported. -/
def step? (b : Backend) (r : Recording) : Caller → Option (Recording × Caller × List Notice)
  | begun .close =>
    let (next, notices) := afterClose r.cell.phase
    some (r.setPhase .closed, next, notices)
  | begun operation =>
    if r.cell.phase.isSettled then some (r, afterLook r r.cell.phase operation, []) else none
  | claiming t =>
    match r.move? t.source t.inFlight with
    | some r => some (r, afterClaim b r t, [])
    | none => some (r, begun t.operation, [])
  | fetching u => some (r, use b r r.id u, [])
  | asking _ (.call _ _) => none
  | asking e (.note n rest) => some (r, asking e rest, [n])
  | asking e (.done result) =>
    let (next, notices) := afterErrand b r e result
    some (r, next, notices)
  | assigning id => some (r.setId id, settlingStart id, [])
  | settlingStart id =>
    match r.move? .starting .active with
    | some r => some (r, ended (.returned (.ok (.running id))), [.started id])
    | none =>
      let outcome := refused .closed State.anyOpen
      some (r, ask b r (.stopForRelease id outcome), [.closedWhileStarting id])
  | revertingStart launch e =>
    some ((r.move? .starting launch.source).getD r, ended (.returned (.error e)), [])
  | settlingStop id result =>
    match r.move? .stopping (phaseAfterStop result) with
    | some r =>
      let notices := if result.isOk then [.stopped id] else []
      some (r, ofResult (fun _ => .done) result, notices)
    | none =>
      let outcome := .returned (result.map fun _ => .done)
      some (r, ask b r (.release id outcome), [.closedWhileStopping id])
  | unwinding t text => some ((r.move? t.inFlight t.source).getD r, ended (.unwound text), [])
  | reportingClone clone state =>
    some (r, ended (.returned (.ok (.cloned (r.copy clone state)))), [.cloned r.id clone])
  | ended _ => none

/-! ## Remote calls -/

/-- The remote call whose reply the caller waits for. -/
def pending? : Caller → Option Call
  | asking _ (.call request _) => some request
  | _ => none

/-- Hands the caller the reply it waits for. -/
def answer (reply : Reply) : Caller → Caller
  | asking e (.call _ next) => asking e (next reply)
  | caller => caller

/-- What is left to do for a caller whose request unwinds. -/
def afterUnwinding (text : String) : Errand → Caller
  | .start launch => unwinding (.start launch) text
  | .stop _ => unwinding .stop text
  | _ => ended (.unwound text)

/-- Cuts the operation off at the remote call the caller waits for. -/
def unwind (text : String) : Caller → Caller
  | asking e (.call _ _) => afterUnwinding text e
  | caller => caller

end Caller

end RemoteRecorder.Recording
