import RemoteRecorder.Backend

/-!
# RemoteRecorder.Backend.Structured

**The recorder object**: a management object with an operation for each capability.

A session is started in four calls: create, configure, set options, begin. If one of the
last three fails, the session is discarded, and the error is that of the failed call.
-/

namespace RemoteRecorder.Backend.Structured

variable (object : ObjectName)

/-- Calls an operation that answers a number. -/
def invokeForNumber (operation : String) (args : List Value) : Request Int64 := do
  Request.expect operation "long" Value.long? (← Request.invoke object operation args)

/-- The content of a configuration as an argument. -/
def payload : Configuration → Value
  | .predefined name => .text name
  | .fileContent text => .text text
  | .eventSettings settings => .ofMap settings

/-- Creates a session. -/
def create : Request SessionId :=
  return ⟨← invokeForNumber object "newRecording" []⟩

/-- Releases a session. -/
def close (id : SessionId) : Request Unit :=
  Request.command object "closeRecording" [.ofId id]

/-- Gives a session its options, if there is anything to send. -/
def setOptions (options : Options) (id : SessionId) : Request Unit := do
  unless options.toMap.isEmpty do
    Request.command object "setRecordingOptions" [.ofId id, .ofMap options.toMap]

/-- Gives a new session its configuration and its options, and begins to record. -/
def launch (options : Options) (configuration : Configuration) (id : SessionId) : Request Unit := do
  Request.command object configuration.setter [.ofId id, payload configuration]
  setOptions object options id
  Request.command object "startRecording" [.ofId id]

/-- Releases a session that could not be started. -/
def discard (id : SessionId) : Request Unit :=
  tryCatch (close object id) fun e => Action.report (.discardFailed id e)

/-- Starts a session; leaves none behind if that fails. -/
def start (options : Options) (configuration : Configuration) : Request SessionId := do
  let id ← create object
  tryCatch (launch object options configuration id) fun e => do
    discard object id
    throw e
  return id

end Structured

/-- The requests of a target with a recorder object. -/
def structured (object : ObjectName) : Backend where
  generation := .structured
  object := object
  start := Structured.start object
  stop id := Request.command object "stopRecording" [.ofId id]
  dump id path := Request.command object "copyTo" [.ofId id, .text path]
  clone id stop :=
    return ⟨← Structured.invokeForNumber object "cloneRecording" [.ofId id, .boolean stop]⟩
  openStream id request :=
    Structured.invokeForNumber object "openStream" [.ofId id, .ofMap request.toMap]
  close := Structured.close object

end RemoteRecorder.Backend
