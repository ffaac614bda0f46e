import RemoteRecorder.ByteSource
import RemoteRecorder.Error
import RemoteRecorder.SortedMap
import RemoteRecorder.Text.Blank

/-!
# RemoteRecorder.Configuration

**Event configurations**: what a recording records. It is named by a profile that the
target has, or given as the content of a settings file, or as settings of single
events.

* The functions that make one refuse an empty payload.
* The content of a settings file is not looked into: it reaches the target as it is.
-/

namespace RemoteRecorder

/-! ## Kinds -/

/-- The ways to say what a recording records. -/
inductive ConfigurationKind where
  | predefined
  | fileContent
  | eventSettings
  deriving DecidableEq

namespace ConfigurationKind

/-- All kinds. -/
def all : List ConfigurationKind := [predefined, fileContent, eventSettings]

/-- The name in messages. -/
def label : ConfigurationKind → String
  | predefined => "predefined"
  | fileContent => "file content"
  | eventSettings => "event settings"

/-- The name in data. -/
def name : ConfigurationKind → String
  | predefined => "predefined"
  | fileContent => "file_content"
  | eventSettings => "event_settings"

/-- The kind of a name. -/
def ofName? (s : String) : Option ConfigurationKind := all.find? fun kind => kind.name == s

theorem ofName?_name (k : ConfigurationKind) : ofName? k.name = some k := by cases k <;> rfl

/-- The kind that a JSON text names. -/
def ofJson? (text : String) : Option ConfigurationKind := do
  ofName? (← (← Json.parse? text).variant?)

end ConfigurationKind

/-! ## Configurations -/

/-- What a recording records. -/
inductive Configuration where
  /-- A profile of the target. -/
  | predefined (name : String)
  /-- The content of a settings file. -/
  | fileContent (text : String)
  /-- Settings of single events. -/
  | eventSettings (settings : StringMap)
  deriving DecidableEq

namespace Configuration

/-- Why there is no configuration. -/
inductive Invalid where
  | emptyName
  | emptyContent
  | noSettings
  | unreadable (cause : ByteSource.Invalid)
  deriving DecidableEq

/-- The wording of a cause. -/
def Invalid.message : Invalid → String
  | emptyName => "predefined configuration name is empty"
  | emptyContent => "configuration file content is empty"
  | noSettings => "event settings map is empty"
  | unreadable cause => "failed to read configuration: " ++ cause.message

/-- A cause as an error of the operation that needed the configuration. -/
def Invalid.toError (i : Invalid) : Error := .validation i.message

/-- The profile for everyday use. -/
def standard : Configuration := predefined "default"

/-- The profile for close inspection. -/
def profile : Configuration := predefined "profile"

/-- The profile of a name, without the white space around it. -/
def ofName (name : String) : Except Invalid Configuration :=
  let trimmed := Text.trim name
  if trimmed.isEmpty then .error .emptyName else .ok (predefined trimmed)

/-- The configuration of a settings file, which must not be blank. -/
def ofContent (text : String) : Except Invalid Configuration :=
  if Text.allBlank text then .error .emptyContent else .ok (fileContent text)

/-- The configuration of a settings file that is still to be read. -/
def ofSource (source : ByteSource) : Except Invalid Configuration :=
  match source.text with
  | .error cause => .error (.unreadable cause)
  | .ok text => ofContent text

/-- Settings of single events, one or more; of two values for one key the later counts. -/
def ofSettings (settings : List (String × String)) : Except Invalid Configuration :=
  if settings.isEmpty then .error .noSettings else .ok (eventSettings (.ofList settings))

/-- The kind of a configuration. -/
def kind : Configuration → ConfigurationKind
  | predefined _ => .predefined
  | fileContent _ => .fileContent
  | eventSettings _ => .eventSettings

/-- The remote operation that gives a session its configuration. -/
def setter : Configuration → String
  | predefined _ => "setPredefinedConfiguration"
  | fileContent _ => "setConfiguration"
  | eventSettings _ => "setRecordingSettings"

/-- Where a configuration comes from. -/
inductive Origin where
  | standard
  | profile
  | name (name : String)
  | content (text : String)
  | source (source : ByteSource)
  | settings (settings : List (String × String))
  deriving DecidableEq

/-- The configuration of an origin. -/
def ofOrigin : Origin → Except Invalid Configuration
  | .standard => .ok standard
  | .profile => .ok profile
  | .name n => ofName n
  | .content text => ofContent text
  | .source source => ofSource source
  | .settings settings => ofSettings settings

end Configuration

end RemoteRecorder
