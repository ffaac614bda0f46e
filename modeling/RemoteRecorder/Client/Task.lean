import RemoteRecorder.Client
import RemoteRecorder.Recording.Caller

/-!
# RemoteRecorder.Client.Task

**Steps under way**: a task is what is left of a step that a user has begun.

* `Client.begin` makes a task of a step, and `Client.step?` takes the next step of a task
  that needs no answer from the target. There is none while the task waits, and none at
  its end.
* `Task.pending?` is the remote call that a task waits for. `Task.answer` hands it the
  reply; `Task.unwind` cuts the task off instead.
* Any number of tasks may be under way in one client. A task keeps working on what is in
  a slot, also after the slot has been given up.
* Whoever is the last to part from a recording closes it: the user who gives its slot up,
  or else the last task that works on it. Only then does the step answer.
-/

namespace RemoteRecorder.Client

/-! ## Tasks -/

/-- What is done with a stream. -/
inductive Chore where
  | read
  /-- One of a sequence of reads, after some that have brought data. -/
  | readAll (taken : List UInt8)
  | close

/-- What a chore brings if it succeeds. -/
@[reducible] def Chore.Brings : Chore → Type
  | read | readAll _ => List UInt8
  | close => Unit

/-- A step under way. -/
inductive Task where
  | recording (slot : Nat) (caller : Recording.Caller)
  /-- Closing a recording that all have parted from, before the step answers. -/
  | farewell (slot : Nat) (caller : Recording.Caller) (answer : Answer)
  /-- A request without a recording. -/
  | direct (rest : Exchange Empty (Except Error Recording.Yield))
  | stream (slot : Nat) (chore : Chore) (rest : Exchange Stream (Except Error chore.Brings))
  | ended (answer : Answer)

/-! ## Beginning -/

/-- Makes a recording by plan. -/
def create (c : Client) (plan : Plan) (blockSize : Int64) : Client × Task :=
  match plan.build with
  | .error e => (c, .ended (.error e))
  | .ok (options, configuration) =>
    let (c, answer) := c.addRecording (.create options configuration blockSize)
    (c, .ended answer)

/-- Makes a request to the backend. -/
def request (b : Backend) : DirectRequest → Request Recording.Yield
  | .start plan =>
    match plan.build with
    | .error e => throw e
    | .ok (options, configuration) => return .running (← b.start options configuration)
  | .stop id => do b.stop id; return .done
  | .dump id path => do b.dump id path; return .done
  | .clone id stop => return .running (← b.clone id stop)
  | .close id => do b.close id; return .done
  | .openStream id streamed => return .opened (← b.openStream id streamed)

/-- Begins something with the recording in a slot, if there is one. -/
def withRecording (c : Client) (i : Nat) (f : Recording → Client × Task) : Client × Task :=
  match c.recording? i with
  | none => (c, .ended .noSlot)
  | some r => f r

/-- Begins something with the stream in a slot, if there is one. -/
def withStream (c : Client) (i : Nat) (f : Stream → Client × Task) : Client × Task :=
  match c.stream? i with
  | none => (c, .ended .noSlot)
  | some s => f s

/-- What is left to do after the user or a task has parted from a recording. -/
def afterParting (c : Client) (i : Nat) (answer : Answer) : Task :=
  if Slot.isDeserted c.recordings i then .farewell i (.begun .close) answer else .ended answer

/-- Gives a recording up. -/
def drop (c : Client) (i : Nat) : Client × Task :=
  let c := c.releaseRecording i
  (c, c.afterParting i .done)

/-- Begins a step. -/
def begin (c : Client) : Step → Client × Task
  | .create plan blockSize => c.create plan (blockSize.getD c.connection.settings.blockSize)
  | .createBare plan blockSize => c.create plan (blockSize.getD defaultBlockSize)
  | .operate i operation =>
    c.withRecording i fun _ => (c.enterRecording i, .recording i (.begun operation))
  | .inspect i aspect => c.withRecording i fun r => (c, .ended (aspect.answer r))
  | .drop i => c.withRecording i fun _ => c.drop i
  | .read i size => c.withStream i fun s => (c, .stream i .read (s.read size).run)
  | .readAll i => c.withStream i fun s => (c, .stream i (.readAll []) s.readBlock.run)
  | .handle i => c.withStream i fun s => (c, .ended (.handle s.handle))
  | .closeStream i => c.withStream i fun s => (c, .stream i .close s.close.run)
  | .dropStream i => c.withStream i fun s => (c.releaseStream i, .stream i .close s.abandon.run)
  | .direct r => (c, .direct (request c.connection.backend r).run)

/-! ## Single steps -/

/-- The answer of an operation, and the slot for what it has made. -/
def conclude (c : Client) : Except Error Recording.Yield → Client × Answer
  | .error e => (c, .error e)
  | .ok .done => (c, .done)
  | .ok (.running id) => (c, .id id)
  | .ok (.cloned clone) => c.addRecording clone
  | .ok (.opened handle) => c.addStream handle

/-- The end of an operation on a recording: its answer, and parting from the recording. -/
def depart (c : Client) (i : Nat) (outcome : Outcome Recording.Yield) : Client × Task :=
  let (c, answer) := match outcome with
    | .returned result => c.conclude result
    | .unwound text => (c, .unwound text)
  let c := c.leaveRecording i
  (c, c.afterParting i answer)

/-- Has a caller of the recording in a slot take a step. -/
def stepCaller? (c : Client) (i : Nat) (caller : Recording.Caller) :
    Option (Client × Recording.Caller × List Notice) := do
  let slot ← c.recordings[i]?
  let (r, caller, notices) ← caller.step? c.connection.backend slot.content
  return (c.setRecording i r, caller, notices)

/-- What follows a chore. In a sequence of reads that is the next one, if this one has
brought data. -/
def afterChore (c : Client) (i : Nat) : (chore : Chore) → Except Error chore.Brings → Task
  | .read, .ok content => .ended (.bytes content)
  | .read, .error e => .ended (.readError e)
  | .readAll taken, .error e => .ended (.allBytes taken (some e))
  | .readAll taken, .ok [] => .ended (.allBytes taken none)
  | .readAll taken, .ok block =>
    match c.streams[i]? with
    | none => .ended (.allBytes (taken ++ block) none)
    | some slot => .stream i (.readAll (taken ++ block)) slot.content.readBlock.run
  | .close, .ok () => .ended .done
  | .close, .error e => .ended (.error e)

/-- A task takes one step by itself: the client and the task after it, and what is
reported. -/
def step? (c : Client) : Task → Option (Client × Task × List Notice)
  | .recording i (.ended outcome) =>
    let (c, task) := c.depart i outcome
    some (c, task, [])
  | .recording i caller =>
    (c.stepCaller? i caller).map fun (c, caller, notices) => (c, .recording i caller, notices)
  | .farewell _ (.ended (.unwound text)) _ => some (c, .ended (.unwound text), [])
  | .farewell _ (.ended (.returned _)) answer => some (c, .ended answer, [])
  | .farewell i caller answer =>
    (c.stepCaller? i caller).map fun (c, caller, notices) =>
      (c, .farewell i caller answer, notices)
  | .direct (.done result) =>
    let (c, answer) := c.conclude result
    some (c, .ended answer, [])
  | .direct (.note n rest) => some (c, .direct rest, [n])
  | .direct (.call _ _) => none
  | .stream i chore (.done result) => some (c, c.afterChore i chore result, [])
  | .stream i chore (.note n rest) => some (c, .stream i chore rest, [n])
  | .stream i chore (.keep s rest) => some (c.setStream i s, .stream i chore rest, [])
  | .stream _ _ (.call _ _) => none
  | .ended _ => none

/-! ## Remote calls -/

namespace Task

/-- The remote call whose reply a task waits for. -/
def pending? : Task → Option Call
  | recording _ caller => caller.pending?
  | farewell _ caller _ => caller.pending?
  | direct (.call request _) => some request
  | stream _ _ (.call request _) => some request
  | _ => none

/-- Hands a task the reply it waits for. -/
def answer (reply : Reply) : Task → Task
  | recording i caller => recording i (caller.answer reply)
  | farewell i caller last => farewell i (caller.answer reply) last
  | direct (.call _ next) => direct (next reply)
  | stream i chore (.call _ next) => stream i chore (next reply)
  | task => task

/-- Cuts a task off at the remote call it waits for. -/
def unwind (text : String) : Task → Task
  | recording i caller => recording i (caller.unwind text)
  | farewell i caller last => farewell i (caller.unwind text) last
  | direct (.call _ _) => ended (.unwound text)
  | stream _ _ (.call _ _) => ended (.unwound text)
  | task => task

end Task

end RemoteRecorder.Client
