import RemoteRecorder.Proofs.Stream.Reading
import RemoteRecorder.Proofs.Verdict

/-!
# RemoteRecorder.Proofs.Stream.Conduct

**What a use of a stream does on the wire**, and what its result says.

All calls of a stream go to its object. The result of a read or of a close is what the first
failed call makes of it; the close at the end of the data counts as a part of the read. To abandon
a stream never fails.
-/

namespace RemoteRecorder

/-- Whether all that can come of a use of a stream is about its object, and the result is as it
should be. -/
abbrev Exchange.Conducts {α : Type} (object : ObjectName) (R : List Contact → α → Prop)
    (past : List Contact) (e : Exchange Stream α) : Prop :=
  e.Follows (fun _ c => c.target = object) (fun s => s.object = object) R past

/-- No call of a read or a close only clears up. -/
abbrev noneClearsUp : Call → Bool := fun _ => false

namespace Stream

variable {s : Stream} {past : List Contact}

/-- A close is blamed on its call. -/
theorem close_conducts (h : decider noneClearsUp past = none) :
    s.close.run.Conducts s.object (Blames noneClearsUp) past := by
  cases hc : s.isClosed with
  | true =>
    rw [close_run_of_isClosed s hc]
    exact blames_ok h
  | false =>
    rw [close_run s hc]
    exact ⟨rfl, rfl, fun reply => blames_of_yields h rfl (yields_of_accepts (fun _ => rfl) _)⟩

/-- Whatever comes of the call, giving a stream up succeeds. -/
theorem abandon_conducts : s.abandon.run.Conducts s.object (fun _ x => x = .ok ()) past := by
  cases hc : s.isClosed with
  | true =>
    rw [abandon_run_of_isClosed s hc]
    rfl
  | false =>
    rw [abandon_run s hc]
    refine ⟨rfl, rfl, ?_⟩
    intro reply
    cases reply <;> rfl

/-- Whether the stream that a use goes on with is at the same object. -/
def StaysAt (object : ObjectName) (past : List Contact) (x : Except Error Stream) : Prop :=
  Blames noneClearsUp past x ∧ ∀ s, x = .ok s → s.object = object

/-- To fetch a block is one call, or two at the end of the data. -/
theorem fetch_conducts (h : decider noneClearsUp past = none) :
    s.fetch.run.Conducts s.object (StaysAt s.object) past := by
  -- After the last block the stream is closed, and this close may fail as well.
  have last (v : Value) (hv : s.readCall.accepts v = true) :
      (do s.close; return { s with isClosed := true } : Action Stream Stream).run.Conducts s.object
        (StaysAt s.object) (past ++ [(s.readCall, .reply (.ok v))]) := by
    refine Action.follows_bind (close_conducts ?_) ?_ ?_
    · rw [decider_concat_of_not_fails (by simp [Contact.fails, hv]), h]
    · intro past x hx
      refine ⟨blames_ok (decider_of_blames_ok hx), ?_⟩
      intro s' hs
      obtain rfl := Except.ok.inj hs
      rfl
    · intro past e he
      exact ⟨he, by simp⟩
  refine ⟨rfl, ?_⟩
  intro reply
  cases reply with
  | error f => exact ⟨blames_error (decider_concat_of_fails h rfl rfl) rfl, by simp⟩
  | ok v =>
    cases v with
    | bytes bytes =>
      cases bytes with
      | nil => exact last _ rfl
      | cons byte bytes =>
        refine ⟨rfl, blames_ok ?_, ?_⟩
        · rw [decider_concat_of_not_fails rfl, h]
        · intro s' hs
          obtain rfl := Except.ok.inj hs
          rfl
    | void => exact last _ rfl
    | _ =>
      exact ⟨blames_error (decider_concat_of_fails h rfl rfl) ⟨_, rfl⟩, by simp⟩

theorem refill_conducts (h : decider noneClearsUp past = none) :
    s.refill.run.Conducts s.object (StaysAt s.object) past := by
  unfold refill
  split
  · exact fetch_conducts h
  · refine ⟨blames_ok h, ?_⟩
    intro s' hs
    obtain rfl := Except.ok.inj hs
    rfl

/-- What is there is delivered, and that is all. -/
theorem deliver_conducts {object : ObjectName} {s' : Stream} {n : Nat}
    (h : StaysAt object past (.ok s')) :
    (s'.deliver n).run.Conducts object (Blames noneClearsUp) past :=
  ⟨h.2 s' rfl, blames_ok (decider_of_blames_ok h.1)⟩

/-- A read is blamed on the first of its calls that has failed. -/
theorem read_conducts (n : Nat) (h : decider noneClearsUp past = none) :
    (s.read n).run.Conducts s.object (Blames noneClearsUp) past := by
  unfold read
  split
  · exact blames_ok h
  · exact Action.follows_bind (refill_conducts h) (fun _ _ hs => deliver_conducts hs)
      fun _ _ he => blames_congr rfl he.1

theorem readBlock_conducts (h : decider noneClearsUp past = none) :
    s.readBlock.run.Conducts s.object (Blames noneClearsUp) past :=
  Action.follows_bind (refill_conducts h) (fun _ _ hs => deliver_conducts hs)
    fun _ _ he => blames_congr rfl he.1

end Stream

end RemoteRecorder
