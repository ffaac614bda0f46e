import RemoteRecorder.Client.Slot
import RemoteRecorder.Client.Step
import RemoteRecorder.Connection
import RemoteRecorder.Stream

/-!
# RemoteRecorder.Client

**Clients**: a connection, and the recordings and streams that have been made through it.

Recordings and streams get the slots 0, 1, 2 and so on in the order in which they are
made. A slot that has been given up stays empty for its user.
-/

namespace RemoteRecorder

/-- A connection and what has been made through it. -/
structure Client where
  connection : Connection
  recordings : List (Slot Recording) := []
  streams : List (Slot Stream) := []

namespace Client

/-- The recording in a slot, if the user still holds it. -/
def recording? (c : Client) (i : Nat) : Option Recording := Slot.held? c.recordings i

/-- The stream in a slot, if the user still holds it. -/
def stream? (c : Client) (i : Nat) : Option Stream := Slot.held? c.streams i

/-- The recordings of all slots, as far as the user still holds them. -/
def held (c : Client) : List (Option Recording) :=
  (List.range c.recordings.length).map c.recording?

/-- Changes the recording in a slot. -/
def setRecording (c : Client) (i : Nat) (r : Recording) : Client :=
  { c with recordings := Slot.update c.recordings i r }

/-- Changes the stream in a slot. -/
def setStream (c : Client) (i : Nat) (s : Stream) : Client :=
  { c with streams := Slot.update c.streams i s }

/-- Gives the slot of a recording up. -/
def releaseRecording (c : Client) (i : Nat) : Client :=
  { c with recordings := Slot.release c.recordings i }

/-- Has one more task work on a recording. -/
def enterRecording (c : Client) (i : Nat) : Client :=
  { c with recordings := Slot.enter c.recordings i }

/-- Has one task less work on a recording. -/
def leaveRecording (c : Client) (i : Nat) : Client :=
  { c with recordings := Slot.leave c.recordings i }

/-- Gives the slot of a stream up. -/
def releaseStream (c : Client) (i : Nat) : Client :=
  { c with streams := Slot.release c.streams i }

/-- Puts a recording into the next slot. -/
def addRecording (c : Client) (r : Recording) : Client × Answer :=
  ({ c with recordings := c.recordings ++ [{ content := r }] },
    .recording c.recordings.length r.id r.state)

/-- Puts a new stream into the next slot. -/
def addStream (c : Client) (handle : Int64) : Client × Answer :=
  let stream := Stream.opened c.connection.backend.object handle
  ({ c with streams := c.streams ++ [{ content := stream }] },
    .stream c.streams.length handle)

end Client

end RemoteRecorder
