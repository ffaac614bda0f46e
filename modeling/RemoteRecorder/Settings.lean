import RemoteRecorder.Error

/-!
# RemoteRecorder.Settings

**Settings of a client**: what a connection does where its user says nothing.

* `Settings.read` reads them from a JSON text: an object with the settings as members,
  or an array with the settings in order. What is not there has its default, and what
  is unknown is ignored. A setting that is given twice is an error.
* Whatever is wrong with the text, the error is the same; then `Settings.check` looks
  at the values.
-/

namespace RemoteRecorder

/-- The block size of streams, where nobody chooses one. -/
def defaultBlockSize : Int64 := 50000

/-- Settings of a client. -/
structure Settings where
  /-- The block size of streams that are opened without one. -/
  blockSize : Int64 := defaultBlockSize
  /-- Whether to use the diagnostic commands of a target without recorder object. -/
  allowFallback : Bool := true
  deriving DecidableEq

namespace Settings

/-- Why settings cannot be used. -/
inductive Invalid where
  | malformed
  | blockSize (given : Int64)
  deriving DecidableEq

/-- The wording of a cause. The message for a malformed text says in addition, after the colon, what
the reader of JSON objects to and where. These words are left out here: they are not this library's,
and nothing depends on them. -/
def Invalid.message : Invalid → String
  | malformed => "failed to parse client configuration: "
  | blockSize given => "default block size must be positive, got " ++ toString given.toInt

/-- A cause as an error of the operation that needed the settings. -/
def Invalid.toError (i : Invalid) : Error := .validation i.message

/-- The settings, if the block size is positive. -/
def check (s : Settings) : Except Invalid Settings :=
  if 0 < s.blockSize then .ok s else .error (.blockSize s.blockSize)

/-- The value of a member that is given once or not at all. -/
def member? {α : Type} (read? : Json → Option α) (default : α) (key : String)
    (members : List (Option String × Json)) : Option α :=
  match members.filter fun m => m.1 == some key with
  | [] => some default
  | [(_, value)] => read? value
  | _ => none

/-- Settings as members of an object, all keys of which have to be texts. -/
def ofMembers? (members : List (Option String × Json)) : Option Settings := do
  guard (members.all fun m => m.1.isSome)
  return {
    blockSize := ← member? Json.int64? defaultBlockSize "default_block_size" members
    allowFallback := ← member? Json.bool? true "allow_legacy_fallback" members }

/-- Settings as items of an array, the last of which may be missing. -/
def ofItems? : List Json → Option Settings
  | [] => some {}
  | [size] => return { blockSize := ← size.int64? }
  | [size, fallback] => return { blockSize := ← size.int64?, allowFallback := ← fallback.bool? }
  | _ => none

/-- The settings that a JSON value holds. -/
def ofJson? : Json → Option Settings
  | .object members => ofMembers? members
  | .array items => ofItems? items
  | _ => none

/-- Reads settings from a JSON text and checks them. -/
def read (text : String) : Except Invalid Settings :=
  match (Json.parse? text).bind ofJson? with
  | some settings => settings.check
  | none => .error .malformed

end Settings

end RemoteRecorder
