import RemoteRecorder.Configuration
import RemoteRecorder.Exchange
import RemoteRecorder.Options
import RemoteRecorder.StreamRequest

/-!
# RemoteRecorder.Backend

**What a recording asks of its target**: the six requests that a connection can make,
whichever generation of the protocol it speaks.
-/

namespace RemoteRecorder

/-- The requests of a connection. -/
structure Backend where
  generation : Generation
  /-- The management object that all calls go to. -/
  object : ObjectName
  /-- Creates a session, configures it and starts it. -/
  start : Options → Configuration → Request SessionId
  stop : SessionId → Request Unit
  /-- Writes the recorded data to a path on the target. -/
  dump : SessionId → (path : String) → Request Unit
  /-- Copies a session, and stops the copy if `stop` is set. -/
  clone : SessionId → (stop : Bool) → Request SessionId
  /-- Opens a stream over recorded data and gives its handle. -/
  openStream : SessionId → StreamRequest → Request Int64
  /-- Releases a session. -/
  close : SessionId → Request Unit

end RemoteRecorder
