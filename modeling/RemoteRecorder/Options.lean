import RemoteRecorder.Error
import RemoteRecorder.SortedMap
import RemoteRecorder.Text.Quoted
import RemoteRecorder.TimeSpan

/-!
# RemoteRecorder.Options

**Recording options**: seven settings of a recording, read from texts and sent to the
target as texts.

* `Options` holds the settings by their meaning, so every value of the type can be
  sent.
* `Draft` collects what the user wrote, and `Draft.build` reads it. Only the last text
  of a setting counts. A blank text stands for the default, and so does none at all.
* `Options.toMap` leaves out what has its default value, for the target to fill in.
  The setting `disk` is always there: targets do not agree on its default.
-/

namespace RemoteRecorder

/-! ## The settings -/

/-- The settings of a recording. -/
inductive OptionKey where
  | name
  | maxAge
  | maxSize
  | dumpOnExit
  | destination
  | disk
  | duration
  deriving DecidableEq

namespace OptionKey

/-- All settings, in the order in which they are read. -/
def all : List OptionKey := [name, maxAge, maxSize, dumpOnExit, destination, disk, duration]

theorem mem_all (k : OptionKey) : k ∈ all := by cases k <;> decide

/-- The name of a setting, as the target knows it. -/
def text : OptionKey → String
  | name => "name"
  | maxAge => "maxAge"
  | maxSize => "maxSize"
  | dumpOnExit => "dumpOnExit"
  | destination => "destination"
  | disk => "disk"
  | duration => "duration"

/-- The setting of a name. -/
def ofText? (t : String) : Option OptionKey := all.find? fun key => key.text == t

theorem ofText?_text (k : OptionKey) : ofText? k.text = some k := by cases k <;> rfl

/-- The value that the target is documented to use for a setting it is not sent. -/
def default : OptionKey → String
  | name | destination => ""
  | maxAge | maxSize | duration => "0"
  | dumpOnExit | disk => "false"

end OptionKey

/-- The value of every setting of a recording. -/
structure Options where
  name : String := ""
  /-- How long data is kept. -/
  maxAge : TimeSpan := .zero
  /-- How many bytes of data are kept. -/
  maxSize : Text.Integer.Natural := .zero
  dumpOnExit : Bool := false
  /-- A path on the target, where data is written at the end of the recording. -/
  destination : String := ""
  disk : Bool := false
  duration : TimeSpan := .zero
  deriving DecidableEq

namespace Options

/-- The value of a setting, as it is sent. -/
def text (o : Options) : OptionKey → String
  | .name => o.name
  | .maxAge => o.maxAge.text
  | .maxSize => toString o.maxSize
  | .dumpOnExit => toString o.dumpOnExit
  | .destination => o.destination
  | .disk => toString o.disk
  | .duration => o.duration.text

/-- Whether a setting is sent to the target. -/
def sends (o : Options) (k : OptionKey) : Bool := o.text k != k.default || k == .disk

/-- What is sent to the target: the settings without their default value, and `disk`. -/
def toMap (o : Options) : StringMap :=
  .ofList ((OptionKey.all.filter o.sends).map fun k => (k.text, o.text k))

/-! ## Reading what the user wrote -/

/-- Why a text is no value of its setting. -/
inductive Invalid where
  | timeSpan (key : OptionKey) (raw : String)
  | size (trimmed : String) (cause : Text.Integer.Invalid)
  | negativeSize (value : Int64)
  deriving DecidableEq

/-- The wording of a cause. -/
def Invalid.message : Invalid → String
  | timeSpan key raw => "bad format: " ++ key.text ++ " = " ++ Text.quoted raw
  | size trimmed cause => "maxSize: " ++ Text.quoted trimmed ++ ": " ++ cause.message
  | negativeSize value => "maxSize: " ++ toString value.toInt ++ " < 0"

/-- A cause as an error of the operation that needed the options. -/
def Invalid.toError (i : Invalid) : Error := .validation i.message

/-- Reads the time span of a setting. -/
def readTimeSpan (key : OptionKey) (raw : String) : Except Invalid TimeSpan :=
  match TimeSpan.read? raw with
  | some t => .ok t
  | none => .error (.timeSpan key raw)

/-- Reads a number of bytes, in any amount of white space. White space alone is no limit. -/
def readSize (raw : String) : Except Invalid Text.Integer.Natural :=
  let trimmed := Text.trim raw
  if trimmed.isEmpty then .ok .zero
  else match Text.Integer.read trimmed with
    | .error cause => .error (.size trimmed cause)
    | .ok value =>
      match Text.Integer.natural? value with
      | some n => .ok n
      | none => .error (.negativeSize value)

/-- Reads a switch: the word `true` in letters of any case is on, all else is off. -/
def readSwitch (raw : String) : Bool :=
  raw.toList.map Char.toLower == "true".toList

/-- What the user wrote for each setting. -/
structure Draft where
  raw : OptionKey → String := fun _ => ""

namespace Draft

/-- The draft with a new text for one setting. -/
def set (d : Draft) (key : OptionKey) (text : String) : Draft :=
  ⟨fun k => if k = key then text else d.raw k⟩

/-- The draft of a list of settings; of two texts for one setting the later counts. -/
def ofList (settings : List (OptionKey × String)) : Draft :=
  settings.foldl (fun d s => d.set s.1 s.2) {}

/-- Reads all settings; the first that is malformed is reported. -/
def build (d : Draft) : Except Invalid Options := do
  let name := Text.trim (d.raw .name)
  let maxAge ← readTimeSpan .maxAge (d.raw .maxAge)
  let maxSize ← readSize (d.raw .maxSize)
  let dumpOnExit := readSwitch (d.raw .dumpOnExit)
  let destination := Text.trim (d.raw .destination)
  let disk := readSwitch (d.raw .disk)
  let duration ← readTimeSpan .duration (d.raw .duration)
  return { name, maxAge, maxSize, dumpOnExit, destination, disk, duration }

end Draft

end Options

end RemoteRecorder
