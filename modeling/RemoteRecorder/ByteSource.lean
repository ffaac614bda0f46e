/-!
# RemoteRecorder.ByteSource

**Sources of bytes** that come piece by piece, and the text that a source holds. How the
bytes are cut into pieces does not matter, not even inside a character.
-/

namespace RemoteRecorder

/-- Bytes that are read piece by piece, until the end or until reading fails. -/
structure ByteSource where
  chunks : List (List UInt8)
  /-- The text of the failure that ends the reading, if one does. -/
  failure : Option String := none
  deriving DecidableEq

namespace ByteSource

/-- Why a source has no text. -/
inductive Invalid where
  | failed (text : String)
  | notUtf8
  deriving DecidableEq

/-- The wording of a cause. -/
def Invalid.message : Invalid → String
  | failed text => text
  | notUtf8 => "stream did not contain valid UTF-8"

/-- The text of a source that can be read to its end and holds UTF-8. A failure of the
reading counts before the bytes read so far. -/
def text (source : ByteSource) : Except Invalid String :=
  match source.failure with
  | some text => .error (.failed text)
  | none =>
    match String.fromUTF8? ⟨source.chunks.flatten.toArray⟩ with
    | some s => .ok s
    | none => .error .notUtf8

end ByteSource

end RemoteRecorder
