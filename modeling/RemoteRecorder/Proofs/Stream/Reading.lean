import RemoteRecorder.Proofs.Encounter
import RemoteRecorder.Stream

/-!
# RemoteRecorder.Proofs.Stream.Reading

**One read and one close** of a stream, on any target.

* `Reading` says all that can come of a read, and `Closing` all that can come of a close or
  of giving the stream up. What is shown about streams is read off these two.
* A use that fails, or that a call unwinds, leaves the stream as it has set it last.
-/

namespace RemoteRecorder

/-- Whether an answer to a read says that there are no more data. -/
def Value.isEnd : Value → Bool
  | void | bytes [] => true
  | _ => false

theorem Value.isEnd_bytes {bytes : List UInt8} (h : bytes ≠ []) :
    (Value.bytes bytes).isEnd = false := by
  cases bytes with
  | nil => exact (h rfl).elim
  | cons byte bytes => rfl

/-- The bytes that a read has got by a call. -/
def Contact.bytes : Contact → List UInt8
  | (c, .reply (.ok (.bytes bytes))) => if c.operation = "readStream" then bytes else []
  | _ => []

/-- Whether a read has got the end of the data by a call. -/
def Contact.isEnd : Contact → Bool
  | (c, .reply (.ok v)) => c.operation == "readStream" && v.isEnd
  | _ => false

namespace Stream

variable (s : Stream) (n : Nat) (target : Target) (past : List Contact)

/-! ## Closing

A close sets the stream to be closed before it calls the target. So it is closed afterwards, even if
the call fails or unwinds, and it is not called again. -/

/-- The call that closes a stream. -/
def closeCall : Call := ⟨s.object, "closeStream", [.long s.handle]⟩

/-- What can come of a close: the stream after it, and its calls. -/
inductive Closing : Stream → List Contact → Prop where
  | idle (h : s.isClosed = true) : Closing s []
  | told (h : s.isClosed = false) (back : Comeback) :
      Closing { s with isClosed := true } [(s.closeCall, back)]

/-- A close of an open stream is one call. -/
theorem close_run (h : s.isClosed = false) : s.close.run =
    .keep { s with isClosed := true } (.note (.closingStream s.handle)
      (.call s.closeCall fun reply =>
        .done ((reply.mapError (Error.ofFailure "closeStream")).map fun _ => ()))) := by
  simp only [close, h]
  refine congrArg (Exchange.keep _) (congrArg (Exchange.note _) (congrArg (Exchange.call _) ?_))
  funext reply
  cases reply <;> rfl

theorem close_run_of_isClosed (h : s.isClosed = true) : s.close.run = .done (.ok ()) := by
  simp only [close, h]
  rfl

/-- What becomes of a stream by a close. -/
theorem close_meet : let e := s.close.run.meet target past
    Closing s (e.after s) e.log := by
  cases h : s.isClosed with
  | true =>
    rw [close_run_of_isClosed s h]
    exact .idle h
  | false =>
    rw [close_run s h]
    cases hb : target past s.closeCall with
    | reply reply =>
      simp only [Exchange.meet_keep, Exchange.meet_note, Exchange.meet_of_reply hb]
      exact .told h (.reply reply)
    | unwinding text =>
      simp only [Exchange.meet_keep, Exchange.meet_note, Exchange.meet_of_unwinding hb]
      exact .told h (.unwinding text)

/-- To abandon an open stream is to close it and to report a failure. -/
theorem abandon_run (h : s.isClosed = false) : s.abandon.run =
    .keep { s with isClosed := true } (.note (.closingStream s.handle)
      (.call s.closeCall fun reply =>
        match reply with
        | .ok _ => .done (.ok ())
        | .error f =>
          .note (.streamCloseFailed s.handle (.ofFailure "closeStream" f)) (.done (.ok ())))) := by
  rw [abandon, ExceptT.run_tryCatch, close_run s h]
  refine congrArg (Exchange.keep _) (congrArg (Exchange.note _) (congrArg (Exchange.call _) ?_))
  funext reply
  cases reply <;> rfl

theorem abandon_run_of_isClosed (h : s.isClosed = true) : s.abandon.run = .done (.ok ()) := by
  rw [abandon, ExceptT.run_tryCatch, close_run_of_isClosed s h]
  rfl

theorem abandon_meet : let e := s.abandon.run.meet target past
    Closing s (e.after s) e.log := by
  cases h : s.isClosed with
  | true =>
    rw [abandon_run_of_isClosed s h]
    exact .idle h
  | false =>
    rw [abandon_run s h]
    cases hb : target past s.closeCall with
    | reply reply =>
      simp only [Exchange.meet_keep, Exchange.meet_note, Exchange.meet_of_reply hb]
      cases reply <;> exact .told h _
    | unwinding text =>
      simp only [Exchange.meet_keep, Exchange.meet_note, Exchange.meet_of_unwinding hb]
      exact .told h (.unwinding text)

/-! ## Reading

A read asks the target at most once, for a block, and then perhaps tells it that the stream is
closed. Where it is unwound matters: before the first call comes back nothing has been set, and by
the second call the stream is closed. -/

/-- The call that asks for the next block. -/
def readCall : Call := ⟨s.object, "readStream", [.long s.handle]⟩

@[simp] theorem bytes_read (bytes : List UInt8) :
    Contact.bytes (s.readCall, .reply (.ok (.bytes bytes))) = bytes := rfl

@[simp] theorem isEnd_read (v : Value) :
    Contact.isEnd (s.readCall, .reply (.ok v)) = v.isEnd := rfl

@[simp] theorem bytes_close (back : Comeback) : Contact.bytes (s.closeCall, back) = [] := by
  cases back with
  | unwinding text => rfl
  | reply reply =>
    cases reply with
    | error f => rfl
    | ok v => cases v <;> rfl

/-- Whether a read of at most `n` bytes has to ask for a block. -/
def Asks (n : Nat) : Prop := n ≠ 0 ∧ s.unread = [] ∧ s.isClosed = false

instance : Decidable (s.Asks n) :=
  inferInstanceAs (Decidable (n ≠ 0 ∧ s.unread = [] ∧ s.isClosed = false))

/-- What can come of a read of at most `n` bytes: the stream after it, its calls, and how it
ends. -/
inductive Reading : Stream → List Contact → Except String (Except Error (List UInt8)) → Prop where
  /-- The target is not asked. -/
  | quiet (h : ¬ s.Asks n) :
      Reading { s with unread := s.unread.drop n } [] (.ok (.ok (s.unread.take n)))
  | block {bytes} (h : s.Asks n) (nonempty : bytes ≠ []) :
      Reading { s with unread := bytes.drop n } [(s.readCall, .reply (.ok (.bytes bytes)))]
        (.ok (.ok (bytes.take n)))
  /-- The end of the data, where the stream closes itself. -/
  | drained {v back} (h : s.Asks n) (last : v.isEnd) :
      Reading { s with isClosed := true }
        [(s.readCall, .reply (.ok v)), (s.closeCall, back)]
        ((back.ending "closeStream").map fun result => result.map fun _ => [])
  | failed {back ending} (h : s.Asks n) (fails : ∀ bytes, ending ≠ .ok (.ok bytes))
      (noBytes : Contact.bytes (s.readCall, back) = [])
      (noEnd : Contact.isEnd (s.readCall, back) = false) :
      Reading s [(s.readCall, back)] ending

/-- What is left to do for a read that has been answered the end of the data. -/
def atEnd : Action Stream (List UInt8) := do
  s.close
  deliver { s with isClosed := true } n

variable {s n}

/-- At the end of the data a stream is closed, and nothing is delivered. -/
theorem atEnd_run (h : s.Asks n) : (s.atEnd n).run =
    .keep { s with isClosed := true } (.note (.closingStream s.handle)
      (.call s.closeCall fun reply =>
        match reply with
        | .ok _ => .keep { s with isClosed := true } (.done (.ok []))
        | .error f => .done (.error (.ofFailure "closeStream" f)))) := by
  obtain ⟨object, handle, unread, isClosed⟩ := s
  obtain ⟨-, rfl, rfl⟩ : n ≠ 0 ∧ unread = [] ∧ isClosed = false := h
  rw [atEnd, ExceptT.run_bind, close_run _ rfl]
  refine congrArg (Exchange.keep _) (congrArg (Exchange.note _) (congrArg (Exchange.call _) ?_))
  funext reply
  cases reply with
  | ok v => simp [Exchange.bind, deliver]; rfl
  | error f => rfl

/-- A read that has to ask for a block. -/
theorem read_run (h : s.Asks n) : (s.read n).run = .call s.readCall fun reply =>
    match reply with
    | .ok (.bytes (byte :: bytes)) =>
      .keep { s with unread := byte :: bytes } (.keep { s with unread := (byte :: bytes).drop n }
        (.done (.ok ((byte :: bytes).take n))))
    | .ok (.bytes []) | .ok .void => (s.atEnd n).run
    | .ok other =>
      .done (.error (.unexpected "readStream" ("expected byte[], got " ++ other.kind)))
    | .error f => .done (.error (.ofFailure "readStream" f)) := by
  obtain ⟨object, handle, unread, isClosed⟩ := s
  obtain ⟨hn, rfl, rfl⟩ : n ≠ 0 ∧ unread = [] ∧ isClosed = false := h
  let here : Stream := ⟨object, handle, [], false⟩
  have last : ((do
      close here
      return { here with isClosed := true } : Action Stream Stream) >>= (·.deliver n)).run =
      (here.atEnd n).run := by
    simp only [atEnd, bind_assoc, pure_bind]
  simp only [read, if_neg hn]
  refine congrArg (Exchange.call _) ?_
  funext reply
  cases reply with
  | error f => rfl
  | ok v =>
    cases v with
    | bytes bytes =>
      cases bytes with
      | nil => exact last
      | cons byte bytes => rfl
    -- Two answers say that there are no more blocks: nothing, and an empty block.
    | void => exact last
    | _ => rfl

variable (s n)

theorem atEnd_meet (h : s.Asks n) : ∃ back, (s.atEnd n).run.meet target past =
      { state? := some { s with isClosed := true }, log := [(s.closeCall, back)],
        ending := (back.ending "closeStream").map fun result => result.map fun _ => [] } := by
  refine ⟨target past s.closeCall, ?_⟩
  rw [atEnd_run h]
  cases hb : target past s.closeCall with
  | reply reply =>
    simp only [Exchange.meet_keep, Exchange.meet_note, Exchange.meet_of_reply hb]
    cases reply <;> rfl
  | unwinding text =>
    simp only [Exchange.meet_keep, Exchange.meet_note, Exchange.meet_of_unwinding hb]
    rfl

/-- A read that need not ask delivers what is there. -/
theorem quiet_meet (h : ¬ s.Asks n) : ∃ state?, (s.read n).run.meet target past =
    { state?, ending := .ok (.ok (s.unread.take n)) } ∧
    state?.getD s = { s with unread := s.unread.drop n } := by
  unfold read
  by_cases hn : n = 0
  · subst hn
    exact ⟨none, rfl, rfl⟩
  · obtain ⟨object, handle, unread, isClosed⟩ := s
    refine ⟨some ⟨object, handle, unread.drop n, isClosed⟩, ?_, rfl⟩
    simp only [if_neg hn]
    cases unread with
    | cons byte bytes => rfl
    | nil =>
      cases isClosed with
      | true => rfl
      | false => exact (h ⟨hn, rfl, rfl⟩).elim

/-- What becomes of a stream by a read. -/
theorem read_meet : let e := (s.read n).run.meet target past
    Reading s n (e.after s) e.log e.ending := by
  by_cases h : s.Asks n
  · rw [read_run h]
    cases hb : target past s.readCall with
    | unwinding text =>
      rw [Exchange.meet_of_unwinding hb]
      exact .failed h nofun rfl rfl
    | reply reply =>
      rw [Exchange.meet_of_reply hb]
      cases reply with
      | error f => exact .failed h nofun rfl rfl
      | ok v =>
        obtain ⟨back, hm⟩ := atEnd_meet s n target (past ++ [(s.readCall, .reply (.ok v))]) h
        cases v with
        | bytes bytes =>
          cases bytes with
          | nil =>
            simp only [hm]
            exact .drained h rfl
          | cons byte bytes => exact .block h nofun
        | void =>
          simp only [hm]
          exact .drained h rfl
        | _ => exact .failed h nofun rfl rfl
  · obtain ⟨state?, hm, hs⟩ := quiet_meet s n target past h
    simp only [hm, Encounter.after, hs]
    exact .quiet h

end Stream

end RemoteRecorder
