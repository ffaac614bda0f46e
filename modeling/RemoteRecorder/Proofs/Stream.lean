import RemoteRecorder.Proofs.Exchange
import RemoteRecorder.Proofs.Wire
import RemoteRecorder.Stream

/-!
# RemoteRecorder.Proofs.Stream

**What streams ask of the target**: to be read and to be closed, and nothing about
sessions.
-/

namespace RemoteRecorder.Stream

variable (s : Stream)

theorem call_isForeign {operation : String}
    (h : operation ∉ "newRecording" :: sessionOperations) :
    (s.call operation).AllCalls Call.IsForeign :=
  ⟨h, fun _ => trivial⟩

/-- A close is about the stream and about no session. -/
theorem close_isForeign : s.close.AllCalls Call.IsForeign := by
  unfold close
  cases s.isClosed with
  | true => trivial
  | false =>
    refine Action.allCalls_bind trivial fun _ => Action.allCalls_bind trivial fun _ => ?_
    exact Action.allCalls_bind (s.call_isForeign (by decide)) fun _ => trivial

theorem abandon_isForeign : s.abandon.AllCalls Call.IsForeign :=
  Action.allCalls_tryCatch s.close_isForeign fun _ => trivial

theorem fetch_isForeign : s.fetch.AllCalls Call.IsForeign := by
  refine Action.allCalls_bind (s.call_isForeign (by decide)) ?_
  intro answer
  -- The end of the data closes the stream.
  have last : (do s.close; return { s with isClosed := true } : Action Stream Stream).AllCalls
      Call.IsForeign := Action.allCalls_bind s.close_isForeign fun _ => trivial
  split
  · trivial
  · exact last
  · exact last
  · trivial

theorem refill_isForeign : s.refill.AllCalls Call.IsForeign := by
  unfold refill
  split
  · exact s.fetch_isForeign
  · trivial

/-- So is a read, with the close at the end of the data. -/
theorem read_isForeign (n : Nat) : (s.read n).AllCalls Call.IsForeign := by
  unfold read
  split
  · trivial
  · exact Action.allCalls_bind s.refill_isForeign fun _ => trivial

theorem readBlock_isForeign : s.readBlock.AllCalls Call.IsForeign :=
  Action.allCalls_bind s.refill_isForeign fun _ => trivial

end RemoteRecorder.Stream
