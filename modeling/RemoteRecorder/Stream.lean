import RemoteRecorder.Exchange

/-!
# RemoteRecorder.Stream

**Streams**: recorded data that is read from the target block by block.

* A remote read answers the next block. An empty block or no value at all is the end of
  the data; the stream closes itself then.
* A read delivers bytes of one block only. It asks the target just if nothing of the
  last block is left.
* A stream is marked as closed before the target is told, so the target is told once,
  whatever becomes of the call. What is left of the last block can still be read.
-/

namespace RemoteRecorder

/-- A stream over recorded data. -/
structure Stream where
  /-- The management object that holds the data. -/
  object : ObjectName
  /-- The number by which the object knows the stream. -/
  handle : Int64
  /-- What has been read from the target and not been delivered. -/
  unread : List UInt8
  isClosed : Bool
  deriving DecidableEq

namespace Stream

/-- A stream that has just been opened. -/
def opened (object : ObjectName) (handle : Int64) : Stream := ⟨object, handle, [], false⟩

/-- Calls an operation on the stream's handle. -/
def call (s : Stream) (operation : String) : Action Stream Value :=
  Action.send s.object operation [.long s.handle]

/-- Closes the stream; nothing happens if it is closed. -/
def close (s : Stream) : Action Stream Unit := do
  unless s.isClosed do
    Action.keep { s with isClosed := true }
    Action.report (.closingStream s.handle)
    let _ ← s.call "closeStream"

/-- Closes a stream that nobody uses any more. A failure is reported and forgotten. -/
def abandon (s : Stream) : Action Stream Unit :=
  tryCatch s.close fun e => Action.report (.streamCloseFailed s.handle e)

/-- Gets the next block. At the end of the data there is none, and the stream is closed. -/
def fetch (s : Stream) : Action Stream Stream := do
  match ← s.call "readStream" with
  | .bytes (byte :: bytes) =>
    let s := { s with unread := byte :: bytes }
    Action.keep s
    return s
  | .bytes [] | .void =>
    s.close
    return { s with isClosed := true }
  | other => throw (.unexpected "readStream" ("expected byte[], got " ++ other.kind))

/-- Sees to it that there is something to deliver, unless the data is at its end. -/
def refill (s : Stream) : Action Stream Stream :=
  if s.unread.isEmpty && !s.isClosed then s.fetch else return s

/-- Delivers at most `n` bytes of what is there. -/
def deliver (s : Stream) (n : Nat) : Action Stream (List UInt8) := do
  Action.keep { s with unread := s.unread.drop n }
  return s.unread.take n

/-- Reads at most `n` bytes. There are none only if `n` is 0 or the data is at its end. -/
def read (s : Stream) (n : Nat) : Action Stream (List UInt8) := do
  if n = 0 then return []
  (← s.refill).deliver n

/-- Reads all that is left of a block, or else the next block. -/
def readBlock (s : Stream) : Action Stream (List UInt8) := do
  let s ← s.refill
  s.deliver s.unread.length

end Stream

end RemoteRecorder
