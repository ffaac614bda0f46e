import RemoteRecorder.Instant
import RemoteRecorder.Settings
import RemoteRecorder.SortedMap

/-!
# RemoteRecorder.StreamRequest

**What to stream**: the part of a recording's data that a stream is to hold, and the
size of the blocks in which it is read.

Only what restricts the data is sent: an instant after the epoch, a positive block size.
-/

namespace RemoteRecorder

/-- The parameters of a stream over recorded data. -/
structure StreamRequest where
  start : Option Instant := none
  stop : Option Instant := none
  /-- Bytes for each remote read. -/
  blockSize : Int64 := defaultBlockSize
  deriving DecidableEq

namespace StreamRequest

/-- The text that is sent for an instant. -/
def instantText? (t : Option Instant) : Option String :=
  (t.filter Instant.afterEpoch).map Instant.text

/-- The text that is sent for a block size. -/
def blockSizeText? (n : Int64) : Option String :=
  if 0 < n then some (toString n.toInt) else none

/-- The parameters as the target takes them. -/
def toMap (r : StreamRequest) : StringMap :=
  .ofList <| [("startTime", instantText? r.start), ("endTime", instantText? r.stop),
      ("blockSize", blockSizeText? r.blockSize)].filterMap fun (key, value) =>
    value.map fun text => (key, text)

end StreamRequest

end RemoteRecorder
