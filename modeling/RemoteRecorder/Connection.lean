import RemoteRecorder.Backend.Diagnostic
import RemoteRecorder.Backend.Structured
import RemoteRecorder.Settings

/-!
# RemoteRecorder.Connection

**Connecting to a target**: finding out which generation of the protocol it speaks.

* The recorder object is looked up first. Only if it is not registered, and the
  settings allow it, the object for diagnostic commands is looked up.
* A target with diagnostic commands is asked whether its recorder is unlocked.
* All later calls go to the object by the name under which the target found it.
-/

namespace RemoteRecorder

/-- A target and the settings for it. -/
structure Connection where
  backend : Backend
  settings : Settings

/-- What connecting does, depending on the answers of the target. -/
inductive Probe (α : Type) where
  | done (result : α)
  | note (notice : Notice) (next : Probe α)
  /-- Looks a management object up; the answer is its name on the target. -/
  | resolve (name : ObjectName) (next : Except TransportFailure ObjectName → Probe α)
  | call (request : Call) (next : Reply → Probe α)

namespace Probe

variable {α β : Type}

/-- One probe after the other. -/
def bind : Probe α → (α → Probe β) → Probe β
  | done a, f => f a
  | note n next, f => note n (next.bind f)
  | resolve name next, f => resolve name fun r => (next r).bind f
  | call c next, f => call c fun r => (next r).bind f

instance : Monad Probe where
  pure := done
  bind := bind

/-- An exchange without state as a part of connecting. -/
def ofExchange : Exchange Empty α → Probe α
  | .done a => done a
  | .note n next => note n (ofExchange next)
  | .call c next => call c fun r => ofExchange (next r)

/-- A part of connecting that may end in an error. -/
abbrev Attempt (α : Type) := ExceptT Error Probe α

/-- Reports a notice. -/
def report (n : Notice) : Attempt Unit := ExceptT.lift (note n (done ()))

/-- Looks up the object of a generation; `none` if the target does not have it. -/
def lookUp (generation : Generation) : Attempt (Option ObjectName) := do
  let name := generation.objectName
  match ← ExceptT.lift (resolve name done) with
  | .ok found => return some found
  | .error (.notFound _) => return none
  | .error (.communication text) => throw (.transport text)
  | .error failure => throw (.protocol name.text (.remote failure))

/-- Makes a request to the target. -/
def request (r : Request α) : Attempt α := ExceptT.mk (ofExchange r.run)

end Probe

namespace Connection

open Probe

/-- Looks for the diagnostic commands of a target and for leave to use its recorder. -/
def fallBack : Attempt Backend := do
  report .fallingBack
  let some object ← lookUp .diagnostic
    | throw <| .notFound <|
        "neither " ++ Generation.structured.objectName.text ++ " nor " ++
          Generation.diagnostic.objectName.text ++ " is registered"
  request (Backend.Diagnostic.checkUnlocked object)
  return .diagnostic object

/-- Finds the backend of a target. -/
def findBackend (settings : Settings) : Attempt Backend := do
  match ← lookUp .structured with
  | some object => return .structured object
  | none =>
    if settings.allowFallback then fallBack
    else throw (.notFound Generation.structured.objectName.text)

/-- Connects with given settings, which are checked first. -/
def connect (settings : Settings) : Attempt Connection := do
  match settings.check with
  | .error invalid => throw invalid.toError
  | .ok settings =>
    let backend ← findBackend settings
    report (.connected backend.generation)
    return { backend, settings }

/-- Connects with settings that are read from a JSON text. -/
def connectWithText (text : String) : Attempt Connection :=
  match Settings.read text with
  | .error invalid => throw invalid.toError
  | .ok settings => connect settings

end Connection

end RemoteRecorder
