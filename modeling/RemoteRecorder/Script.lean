import RemoteRecorder.Client.Task

/-!
# RemoteRecorder.Script

**Scripted targets**: a target whose every answer is written down, and what happens on
this side while it answers.

* Each operation of the target has a queue of cues. A call takes the next one; an
  operation without a cue answers no value.
* A cue may name steps that are taken while its call is under way: on the spot, or by
  somebody else, who waits for a transition to settle or for a stream that is in use.
* `Script.probe` connects to the target of a script.
-/

namespace RemoteRecorder

open Client (Step)

/-- How a call comes back. -/
inductive Comeback where
  | reply (reply : Reply)
  | unwinding (text : String)

/-- What is done while a call is under way. -/
inductive Hook where
  | onTheSpot (step : Step)
  /-- By somebody else, as soon as there is nothing to wait for. -/
  | aside (step : Step)

/-- How a call comes back, and what is done until then. -/
structure Cue where
  comeback : Comeback
  meanwhile : List Hook := []

/-- The settings of a connection. -/
inductive Opening where
  | standard
  | settings (settings : Settings)
  | text (json : String)

/-- The connection that is tried. -/
def Opening.attempt : Opening → Probe.Attempt Connection
  | standard => Connection.connect {}
  | settings s => Connection.connect s
  | text json => Connection.connectWithText json

/-- A target and what its user does. -/
structure Script where
  /-- What the target says about the objects it is asked for. -/
  objects : List (String × Except TransportFailure ObjectName)
  /-- What comes back from the calls of each operation. -/
  cues : List (String × List Cue)
  opening : Opening
  steps : List Step

/-- The next cue of an operation, and the cues after it. -/
def nextCue (cues : List (String × List Cue)) (operation : String) :
    Cue × List (String × List Cue) :=
  match cues with
  | [] => (⟨.reply (.ok .void), []⟩, [])
  | (name, queue) :: rest =>
    if name = operation then
      match queue with
      | [] => (⟨.reply (.ok .void), []⟩, cues)
      | cue :: queue => (cue, (name, queue) :: rest)
    else
      let (cue, rest) := nextCue rest operation
      (cue, (name, queue) :: rest)

/-! ## Connecting -/

/-- What is seen of connecting. -/
structure Overture where
  /-- The names that were looked up. -/
  resolved : List ObjectName := []
  calls : List Call := []
  notices : List Notice := []

/-- The answer of the target about an object. -/
def Script.resolve (script : Script) (name : ObjectName) : Except TransportFailure ObjectName :=
  match script.objects.find? fun entry => entry.1 == name.text with
  | some (_, answer) => answer
  | none => .error (.notFound name.text)

/-- Runs a probe; a call may unwind it. -/
def Script.probe {α : Type} (script : Script) (seen : Overture)
    (cues : List (String × List Cue)) :
    Probe α → Overture × List (String × List Cue) × Except String α
  | .done result => (seen, cues, .ok result)
  | .note n next => script.probe { seen with notices := seen.notices ++ [n] } cues next
  | .resolve name next =>
    script.probe { seen with resolved := seen.resolved ++ [name] } cues (next (script.resolve name))
  | .call c next =>
    let seen := { seen with calls := seen.calls ++ [c] }
    match nextCue cues c.operation with
    | (⟨.reply reply, _⟩, cues) => script.probe seen cues (next reply)
    | (⟨.unwinding text, _⟩, cues) => (seen, cues, .error text)

end RemoteRecorder
