import RemoteRecorder.Backend
import RemoteRecorder.Text.Split

/-!
# RemoteRecorder.Backend.Diagnostic

**The diagnostic commands** of targets without a recorder object: each command takes a
list of words and answers a text for people to read.

* Sessions can be started, stopped and dumped, and that is all.
* A session is started with a profile of the target; other configurations cannot be
  put into words.
* The number of a new session is read from the text of the answer.
-/

namespace RemoteRecorder.Backend.Diagnostic

variable (object : ObjectName)

/-- Calls a command with its words. -/
def command (operation : String) (words : List String) : Request Value :=
  Request.invoke object operation [.texts words]

/-! ## The recorder may be locked -/

/-- Asks whether the recorder may be used: the answer has to say that it is unlocked. -/
def checkUnlocked : Request Unit := do
  let operation := "vmCheckCommercialFeatures"
  let reply ← Request.expect operation "text" Value.text? (← Request.invoke object operation [])
  if Text.mentions "unlocked" reply then return ()
  Action.report (.locked reply)
  throw (.featureLocked "restart the target with -XX:+UnlockCommercialFeatures")

/-! ## Starting -/

/-- The words that start a session with a profile: the profile, and then the options in
the order of their keys. The commands do not know the option `disk`. -/
def startWords (options : Options) (profile : String) : List String :=
  ("settings=" ++ profile) ::
    (options.toMap.entries.filter fun e => e.1 != OptionKey.disk.text).map fun e =>
      e.1 ++ "=" ++ e.2

/-- The words that start a session, if the configuration is a profile. -/
def startWords? (options : Options) : Configuration → Except Error (List String)
  | .predefined profile => .ok (startWords options profile)
  | configuration =>
    .error <| .unsupportedConfiguration <|
      configuration.kind.label ++
        " configurations need the structured recorder; only predefined profiles work here"

/-- The text that stands for the number of the session in an answer: what follows the
first mention of a started recording, up to a full stop and a space. It is not empty. -/
def idText? (reply : List Char) : Option (List Char) :=
  match Text.after? "Started recording ".toList reply with
  | some (c :: cs) => (Text.before? ". ".toList cs).map (c :: ·)
  | _ => none

/-- The number of the session in the answer to a start. -/
def startedId? (reply : String) : Option SessionId := do
  let number ← (Text.Integer.readChars (← idText? reply.toList)).toOption
  return ⟨number⟩

/-- Reads the number of the session from the answer to a start. -/
def readStarted (reply : String) : Except Error SessionId :=
  match startedId? reply with
  | some id => .ok id
  | none => .error (.unexpected "jfrStart" ("no recording id in " ++ Text.quoted reply))

/-- Starts a session with a profile. -/
def start (options : Options) (configuration : Configuration) : Request SessionId := do
  let words ← liftExcept (startWords? options configuration)
  let answer ← command object "jfrStart" words
  liftExcept (readStarted (← Request.expect "jfrStart" "text" Value.text? answer))
where
  /-- Takes over a result. -/
  liftExcept {α : Type} (result : Except Error α) : Request α := ExceptT.mk (pure result)

/-- Refuses a request that no command answers. -/
def unsupported {α : Type} (request : String) : Request α :=
  throw (.unsupported (request ++ " is not available through the diagnostic command object"))

end Diagnostic

/-- The requests of a target with diagnostic commands only. -/
def diagnostic (object : ObjectName) : Backend where
  generation := .diagnostic
  object := object
  start := Diagnostic.start object
  stop id := do
    let _ ← Diagnostic.command object "jfrStop" ["name=" ++ id.text]
  dump id path := do
    let _ ← Diagnostic.command object "jfrDump"
      ["filename=" ++ path, "recording=" ++ id.text, "compress=true"]
  clone _ _ := Diagnostic.unsupported "clone"
  openStream _ _ := Diagnostic.unsupported "streaming"
  close _ := Diagnostic.unsupported "close"

end RemoteRecorder.Backend
