import RemoteRecorder.Proofs.Stream.Reading

/-!
# RemoteRecorder.Proofs.Stream.Usage

**Streams in use**: reads and closes of one stream, one after the other, until it is given
up.

* `Usage.play` follows a sequence of uses. A use that fails or is unwound has come to
  nothing, and the next one finds the stream as that has left it.
* Whatever is done with a stream and whatever comes of the calls, the target is told once
  that the stream is closed, and hears nothing of it afterwards.
-/

namespace RemoteRecorder.Stream

/-- What a user does with a stream. -/
inductive Use where
  | read (size : Nat)
  | close
  deriving DecidableEq

/-- A stream in use, and what has come of it. -/
structure Usage where
  stream : Stream
  log : List Contact := []
  /-- All bytes that have been delivered. -/
  delivered : List UInt8 := []

namespace Usage

variable (t : Target) (u : Usage) (n : Nat)

/-- What comes of a read now. -/
def read : Encounter Stream (Except Error (List UInt8)) :=
  (u.stream.read n).run.meet t u.log

/-- What comes of a close now. -/
def close : Encounter Stream (Except Error Unit) := u.stream.close.run.meet t u.log

/-- What comes of giving the stream up now. -/
def abandon : Encounter Stream (Except Error Unit) := u.stream.abandon.run.meet t u.log

/-- The bytes that a read delivers. -/
def content : Except String (Except Error (List UInt8)) → List UInt8
  | .ok (.ok bytes) => bytes
  | _ => []

/-- Goes on with what has come of a use. -/
def went {α : Type} (e : Encounter Stream α) (bytes : List UInt8) : Usage where
  stream := e.after u.stream
  log := u.log ++ e.log
  delivered := u.delivered ++ bytes

/-- Uses the stream once. -/
def step : Use → Usage
  | .read n => u.went (u.read t n) (content (u.read t n).ending)
  | .close => u.went (u.close t) []

/-- Uses the stream again and again. -/
def play (uses : List Use) : Usage := uses.foldl (step t) u

/-- Gives the stream up. -/
def dropped : Usage := u.went (u.abandon t) []

/-- The calls for the stream. -/
def calls : List Call := u.log.map Prod.fst

/-- All that can come of a read. -/
theorem read_reading : ∃ s contacts ending, Reading u.stream n s contacts ending ∧
    (u.read t n).log = contacts ∧ (u.read t n).ending = ending ∧
    u.step t (.read n) = ⟨s, u.log ++ contacts, u.delivered ++ content ending⟩ :=
  ⟨_, _, _, read_meet u.stream n t u.log, rfl, rfl, rfl⟩

/-- All that can come of a close. -/
theorem close_closing : ∃ s contacts, Closing u.stream s contacts ∧
    u.step t .close = ⟨s, u.log ++ contacts, u.delivered⟩ :=
  ⟨_, _, close_meet u.stream t u.log, by simp [step, went, close]⟩

/-- To give a stream up is to close it. -/
theorem dropped_closing : ∃ s contacts, Closing u.stream s contacts ∧
    u.dropped t = ⟨s, u.log ++ contacts, u.delivered⟩ :=
  ⟨_, _, abandon_meet u.stream t u.log, by simp [dropped, went, abandon]⟩

variable {t u}

@[simp] theorem play_append (uses uses' : List Use) :
    u.play t (uses ++ uses') = (u.play t uses).play t uses' := List.foldl_append

/-- What holds at first and is kept by every use holds always. -/
theorem play_induction {motive : List Use → Usage → Prop} (first : motive [] u)
    (next : ∀ before use u', motive before u' → motive (before ++ [use]) (u'.step t use))
    (uses : List Use) : motive uses (u.play t uses) := by
  have from_here : ∀ uses before u', motive before u' →
      motive (before ++ uses) (u'.play t uses) := by
    intro uses
    induction uses with
    | nil =>
      intro before u' h
      simpa [play] using h
    | cons use uses ih =>
      intro before u' h
      have := ih (before ++ [use]) (u'.step t use) (next before use u' h)
      simpa [play] using this
  exact from_here uses [] u first

/-! ## The last call

A closed stream makes no calls any more, so that it is enough to know of the calls when a stream is
closed, and that the last of them says so. -/

/-- What the target knows of a stream after certain uses. -/
structure Heard (s : Stream) (uses : List Use) (u : Usage) : Prop where
  readCall : u.stream.readCall = s.readCall
  closeCall : u.stream.closeCall = s.closeCall
  isClosed : u.stream.isClosed = true ↔ Use.close ∈ uses ∨ u.log.any Contact.isEnd = true
  /-- A closed stream has been closed by the last call. -/
  calls : ∃ k, u.calls = List.replicate k s.readCall ++
    if u.stream.isClosed then [s.closeCall] else []

namespace Heard

variable {s : Stream} {uses : List Use}

theorem first (object : ObjectName) (handle : Int64) :
    Heard (opened object handle) [] { stream := opened object handle } where
  readCall := rfl
  closeCall := rfl
  isClosed := by simp [opened]
  calls := ⟨0, rfl⟩

/-- An open stream is used, for which it is read from the target `j` times. -/
theorem used (h : Heard s uses u) (ho : u.stream.isClosed = false) {use : Use} {u' : Usage}
    {contacts : List Contact} (hr : u'.stream.readCall = u.stream.readCall)
    (hc : u'.stream.closeCall = u.stream.closeCall) (hlog : u'.log = u.log ++ contacts)
    (hclosed : u'.stream.isClosed = true ↔ use = .close ∨ contacts.any Contact.isEnd = true)
    (j : Nat) (hcalls : contacts.map Prod.fst = List.replicate j u.stream.readCall ++
      if u'.stream.isClosed then [u.stream.closeCall] else []) : Heard s (uses ++ [use]) u' where
  readCall := hr.trans h.readCall
  closeCall := hc.trans h.closeCall
  isClosed := by
    have before : ¬ (Use.close ∈ uses ∨ u.log.any Contact.isEnd = true) := by
      rw [← h.isClosed, ho]
      exact Bool.false_ne_true
    obtain ⟨hu, hl⟩ := not_or.1 before
    rw [hclosed, hlog, List.any_append, Bool.or_eq_true, List.mem_append, List.mem_singleton,
      @eq_comm Use .close]
    simp only [hu, hl, Bool.false_eq_true, false_or]
  calls := by
    obtain ⟨k, hk⟩ := h.calls
    refine ⟨k + j, ?_⟩
    simp only [ho, Bool.false_eq_true, if_false, List.append_nil] at hk
    rw [Usage.calls, hlog, List.map_append, hcalls, ← Usage.calls, hk, h.readCall, h.closeCall,
      ← List.append_assoc, List.replicate_append_replicate]

/-- A stream is read once more. -/
theorem read (h : Heard s uses u) : Heard s (uses ++ [.read n]) (u.step t (.read n)) := by
  obtain ⟨s', contacts, ending, hr, -, -, hs⟩ := u.read_reading t n
  rw [hs]
  cases hr with
  | quiet asks =>
    exact ⟨h.readCall, h.closeCall, by simpa using h.isClosed, by simpa [Usage.calls] using h.calls⟩
  | block asks nonempty =>
    refine h.used asks.2.2 rfl rfl rfl ?_ 1 ?_
    · simp [asks.2.2, Value.isEnd_bytes nonempty]
    · simp [asks.2.2]
  | drained asks last =>
    exact h.used asks.2.2 rfl rfl rfl (by simp [isEnd_read, last]) 1 rfl
  | failed asks fails noBytes noEnd =>
    refine h.used asks.2.2 rfl rfl rfl ?_ 1 ?_
    · simp [asks.2.2, noEnd]
    · simp [asks.2.2]

/-- A stream is closed. -/
theorem close (h : Heard s uses u) : Heard s (uses ++ [.close]) (u.step t .close) := by
  obtain ⟨s', contacts, hc, hs⟩ := u.close_closing t
  rw [hs]
  cases hc with
  | idle hc =>
    exact ⟨h.readCall, h.closeCall, by simpa using hc, by simpa [Usage.calls] using h.calls⟩
  | told ho back => exact h.used ho rfl rfl rfl (by simp) 0 rfl

theorem play (uses : List Use) (object : ObjectName) (handle : Int64) :
    Heard (opened object handle) uses (play t { stream := opened object handle } uses) :=
  play_induction (first object handle) (fun before use u' h => by
    cases use with
    | read n => exact h.read n
    | close => exact h.close) uses

end Heard

/-- Whatever is done with a stream, it is read, and then it is closed once and not touched any
more: when a user closes it or the end of the data has been answered, or else when it is given
up. -/
theorem closed_exactly_once (t : Target) (object : ObjectName) (handle : Int64)
    (uses : List Use) :
    let s := opened object handle
    let u := play t { stream := s } uses
    ∃ k, u.calls = List.replicate k s.readCall ++
        (if Use.close ∈ uses ∨ u.log.any Contact.isEnd = true then [s.closeCall] else []) ∧
      (u.dropped t).calls = List.replicate k s.readCall ++ [s.closeCall] := by
  intro s u
  have h : Heard s uses u := Heard.play uses object handle
  obtain ⟨k, hk⟩ := h.calls
  refine ⟨k, ?_, ?_⟩
  · simpa only [h.isClosed] using hk
  · obtain ⟨s', contacts, hc, hs⟩ := u.dropped_closing t
    rw [hs]
    cases hc with
    | idle hc => simpa [hc, calls] using hk
    | told ho back =>
      simp only [ho, Bool.false_eq_true, if_false, List.append_nil] at hk
      simpa [calls, h.closeCall] using hk

end Usage

end RemoteRecorder.Stream
