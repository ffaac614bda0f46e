import RemoteRecorder.Error
import RemoteRecorder.ObjectName
import RemoteRecorder.Table

/-!
# RemoteRecorder.Value

**Values of remote calls**, and the calls themselves: arguments and answers are of a
few kinds, and each kind has a name for messages.
-/

namespace RemoteRecorder

/-- An argument or answer of a remote operation. -/
inductive Value where
  /-- No value. -/
  | void
  | long (n : Int64)
  | boolean (b : Bool)
  | text (s : String)
  | texts (items : List String)
  | bytes (content : List UInt8)
  | table (content : Table)
  deriving DecidableEq

namespace Value

/-- The name of a value's kind. -/
def kind : Value → String
  | void => "void"
  | long _ => "long"
  | boolean _ => "boolean"
  | text _ => "string"
  | texts _ => "string[]"
  | bytes _ => "byte[]"
  | table _ => "table"

/-- The number of a `long`. -/
def long? : Value → Option Int64
  | long n => some n
  | _ => none

/-- The characters of a `text`. -/
def text? : Value → Option String
  | text s => some s
  | _ => none

/-- A session number as an argument. -/
def ofId (id : SessionId) : Value := long id.value

/-- A map of texts as an argument. -/
def ofMap (m : StringMap) : Value := table (.ofMap m)

end Value

/-- A call of an operation on a management object of the target. -/
structure Call where
  target : ObjectName
  operation : String
  args : List Value
  deriving DecidableEq

/-- What a remote call comes back with. -/
abbrev Reply := Except TransportFailure Value

end RemoteRecorder
