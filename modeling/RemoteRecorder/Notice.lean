import RemoteRecorder.Error
import RemoteRecorder.ObjectName
import RemoteRecorder.Text.Blank

/-!
# RemoteRecorder.Notice

**What the library reports while it works**: one constructor for each thing that is
worth a line in a log, and one function each for its level and its wording.

The names of the two management objects stand here too: a connection reports which of
the two generations of the protocol it speaks.
-/

namespace RemoteRecorder

/-- The two generations of the protocol. -/
inductive Generation where
  /-- A recorder object with an operation for each capability. -/
  | structured
  /-- Diagnostic commands: words in, text out. -/
  | diagnostic
  deriving DecidableEq

namespace Generation

/-- The name in messages. -/
def label : Generation → String
  | structured => "modern"
  | diagnostic => "legacy"

/-- The name under which a target registers the object of a generation. -/
def objectName : Generation → ObjectName
  | structured => ⟨"jdk.management.jfr", [⟨"type", "FlightRecorder"⟩]⟩
  | diagnostic => ⟨"com.sun.management", [⟨"type", "DiagnosticCommand"⟩]⟩

end Generation

/-- How much a notice matters. -/
inductive Level where
  | debug
  | info
  | warn
  deriving DecidableEq

/-- The name of a level. -/
def Level.text : Level → String
  | debug => "DEBUG"
  | info => "INFO"
  | warn => "WARN"

/-- Something that is worth a line in a log. -/
inductive Notice where
  /-- An operation is about to be called. -/
  | invoking (operation : String) (object : ObjectName)
  /-- The target is connected. -/
  | connected (generation : Generation)
  /-- The target has no recorder object; its diagnostic commands are tried. -/
  | fallingBack
  /-- The target answered that its recorder may not be used. -/
  | locked (reply : String)
  /-- A session that could not be started could not be discarded either. -/
  | discardFailed (id : SessionId) (error : Error)
  | started (id : SessionId)
  | stopped (id : SessionId)
  /-- The recording was closed while its session was being started. -/
  | closedWhileStarting (id : SessionId)
  /-- The recording was closed while its session was being stopped. -/
  | closedWhileStopping (id : SessionId)
  /-- The recording is closed; the call that is under way releases the session. -/
  | closedInTransition
  /-- The session could not be stopped before its release. -/
  | stopIgnored (id : SessionId) (error : Error)
  /-- The session could not be released. -/
  | closeIgnored (id : SessionId) (error : Error)
  | cloned (source clone : SessionId)
  | closingStream (handle : Int64)
  /-- A stream that nobody uses any more could not be closed. -/
  | streamCloseFailed (handle : Int64) (error : Error)
  deriving DecidableEq

namespace Notice

/-- The level of a notice. -/
def level : Notice → Level
  | invoking _ _ | closedInTransition | cloned _ _ | closingStream _ => .debug
  | connected _ | started _ | stopped _ => .info
  | fallingBack | locked _ | discardFailed _ _ | closedWhileStarting _ | closedWhileStopping _
  | stopIgnored _ _ | closeIgnored _ _ | streamCloseFailed _ _ => .warn

/-- The wording of a notice. -/
def text : Notice → String
  | invoking operation object => "invoking " ++ operation ++ " on " ++ object.text
  | connected generation => "connected to flight recorder (" ++ generation.label ++ " protocol)"
  | fallingBack =>
    Generation.structured.objectName.text ++ " not registered, falling back to " ++
      Generation.diagnostic.objectName.text
  | locked reply => "flight recorder is locked on target: " ++ Text.trim reply
  | discardFailed id error =>
    "failed to discard recording " ++ id.text ++ " after start failure: " ++ error.message
  | started id => "recording " ++ id.text ++ " started"
  | stopped id => "recording " ++ id.text ++ " stopped"
  | closedWhileStarting id =>
    "recording " ++ id.text ++ " closed while starting, releasing remote session"
  | closedWhileStopping id =>
    "recording " ++ id.text ++ " closed while stopping, releasing remote session"
  | closedInTransition => "recording closed during a transition, its owner releases the session"
  | stopIgnored id error =>
    "ignoring failure to stop recording " ++ id.text ++ " on close: " ++ error.message
  | closeIgnored id error =>
    "ignoring failure to close recording " ++ id.text ++ ": " ++ error.message
  | cloned source clone => "recording " ++ source.text ++ " cloned as " ++ clone.text
  | closingStream handle => "closing remote stream " ++ toString handle.toInt
  | streamCloseFailed handle error =>
    "failed to close remote stream " ++ toString handle.toInt ++ ": " ++ error.message

end Notice

end RemoteRecorder
