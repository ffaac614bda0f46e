import RemoteRecorder.Recording

/-!
# RemoteRecorder.Recording.Operation

**Operations on a recording**: what a caller can ask of it, what the recording then
asks of its backend, and how an operation can end.

* An operation ends in one of three ways: with what it yields, with an error, or
  unwound by a remote call that did not come back.
* An `Errand` is a request to the backend together with its purpose, so the type of what
  the backend brings back follows from it.
-/

namespace RemoteRecorder

/-- How an operation ends. -/
inductive Outcome (α : Type) where
  | returned (result : Except Error α)
  /-- A remote call unwound the operation. -/
  | unwound (text : String)

namespace Recording

/-- What a caller can ask of a recording. -/
inductive Operation where
  | start
  | stop
  | dump (path : String)
  | clone (stop : Bool)
  /-- Opens a stream, with the recording's own block size if none is given. -/
  | openStream (start stop : Option Instant) (blockSize : Option Int64)
  | close
  deriving DecidableEq

/-- What an operation yields if it succeeds. -/
inductive Yield where
  /-- Nothing but the success. -/
  | done
  /-- The number of the running session. -/
  | running (id : SessionId)
  | cloned (clone : Recording)
  /-- The handle of a new stream. -/
  | opened (handle : Int64)
  deriving DecidableEq

/-- The end of an operation that needs a state it did not find. -/
def refused (actual : State) (expected : List State) : Outcome Yield :=
  .returned (.error (.invalidState actual expected))

/-- A successful end with nothing to yield. -/
def finished : Outcome Yield := .returned (.ok .done)

/-! ## Transitions -/

/-- The two ways to become active. -/
inductive Launch where
  /-- From new. -/
  | first
  /-- From stopped. -/
  | again
  deriving DecidableEq

/-- The phase in which a recording is started. -/
def Launch.source : Launch → Phase
  | first => .new
  | again => .stopped

/-- The changes of phase that last as long as a request. -/
inductive Transition where
  /-- From new or stopped to active. -/
  | start (launch : Launch)
  /-- From active to stopped. -/
  | stop
  deriving DecidableEq

namespace Transition

/-- The phase in which a transition begins. -/
def source : Transition → Phase
  | start launch => launch.source
  | stop => .active

/-- The phase while the request of a transition is under way. -/
def inFlight : Transition → Phase
  | start _ => .starting
  | stop => .stopping

/-- The operation that a transition is part of. -/
def operation : Transition → Operation
  | start _ => .start
  | stop => .stop

end Transition

/-! ## Errands -/

/-- A request of a recording to its backend, and what it is for. -/
inductive Errand where
  /-- Starting a session for the transition to active. -/
  | start (launch : Launch)
  /-- Stopping the session for the transition to stopped. -/
  | stop (id : SessionId)
  | dump (id : SessionId) (path : String)
  /-- Cloning the session of a recording in the given state. -/
  | clone (id : SessionId) (stop : Bool) (state : State)
  | openStream (id : SessionId) (request : StreamRequest)
  /-- Stopping a session that is to be released. The operation ends with `outcome`. -/
  | stopForRelease (id : SessionId) (outcome : Outcome Yield)
  /-- Releasing a session. The operation ends with `outcome`. -/
  | release (id : SessionId) (outcome : Outcome Yield)

namespace Errand

/-- What the backend brings back if it succeeds. -/
@[reducible] def Brings : Errand → Type
  | start _ => SessionId
  | stop _ => Unit
  | dump _ _ => Unit
  | clone _ _ _ => SessionId
  | openStream _ _ => Int64
  | stopForRelease _ _ => Unit
  | release _ _ => Unit

/-- The request to the backend. -/
def request (b : Backend) (options : Options) (configuration : Configuration) :
    (e : Errand) → Request e.Brings
  | start _ => b.start options configuration
  | stop id => b.stop id
  | dump id path => b.dump id path
  | clone id andStop _ => b.clone id andStop
  | openStream id streamed => b.openStream id streamed
  | stopForRelease id _ => b.stop id
  | release id _ => b.close id

end Errand

/-- What a caller needs the session number for, once it has looked at the phase. -/
inductive Use where
  /-- The session runs already; its number is the answer. -/
  | answer
  | stop
  | dump (path : String)
  | clone (stop : Bool) (state : State)
  | openStream (request : StreamRequest)
  /-- The recording has been closed while it was active. -/
  | release

end Recording

end RemoteRecorder
