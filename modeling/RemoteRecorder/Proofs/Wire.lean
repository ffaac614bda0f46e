import RemoteRecorder.State
import RemoteRecorder.Value

/-!
# RemoteRecorder.Proofs.Wire

**What goes over the wire** between a client and a target with a recorder object, and
what that says about sessions.

A `Signal` is the beginning or the end of a remote call. A log is a list of signals; the
sessions that have been handed out, stopped and released are read off it.
-/

namespace RemoteRecorder

/-- The operations whose first argument is a session number. -/
def sessionOperations : List String :=
  ["setPredefinedConfiguration", "setConfiguration", "setRecordingSettings",
    "setRecordingOptions", "startRecording", "stopRecording", "copyTo", "cloneRecording",
    "openStream", "closeRecording"]

namespace Call

/-- The session that a call names. -/
def session? (c : Call) : Option SessionId :=
  if c.operation ∈ sessionOperations then
    match c.args with
    | .long n :: _ => some ⟨n⟩
    | _ => none
  else none

/-- Whether a call is for the release of a session. -/
def isRelease (c : Call) : Bool := c.operation = "closeRecording"

/-- Whether a call is for the end of a recording session. -/
def isStop (c : Call) : Bool := c.operation = "stopRecording"

/-- Whether a call asks for a session number. -/
def asksNumber (c : Call) : Bool := c.operation = "newRecording" || c.operation = "cloneRecording"

/-- Whether a call has nothing to do with sessions. -/
def IsForeign (c : Call) : Prop := c.operation ∉ "newRecording" :: sessionOperations

section Foreign

variable {c : Call}

/-- Such a call names no session. -/
theorem IsForeign.session? (h : c.IsForeign) : c.session? = none :=
  if_neg (List.not_mem_of_not_mem_cons h)

theorem IsForeign.isStop (h : c.IsForeign) : c.isStop = false := by
  rw [Call.isStop, decide_eq_false_iff_not]
  intro hc
  simp [IsForeign, hc, sessionOperations] at h

end Foreign

end Call

/-- The beginning or the end of a remote call. -/
inductive Signal where
  | began (call : Call)
  | returned (call : Call) (reply : Reply)
  | unwound (call : Call)

namespace Signal

/-- The call that a signal belongs to. -/
def call : Signal → Call
  | began c | returned c _ | unwound c => c

/-- The session whose release begins. -/
def releases? : Signal → Option SessionId
  | began c => if c.isRelease then c.session? else none
  | _ => none

/-- The session that has been stopped with success. -/
def stops? : Signal → Option SessionId
  | returned c (.ok _) => if c.isStop then c.session? else none
  | _ => none

/-- The session number that has been handed out. -/
def handsOut? : Signal → Option SessionId
  | returned c (.ok (.long n)) => if c.asksNumber then some ⟨n⟩ else none
  | _ => none

end Signal

/-- The sessions whose release has begun, once for each time. -/
def released (log : List Signal) : List SessionId := log.filterMap Signal.releases?

/-- The sessions that have been stopped with success, once for each time. -/
def stopped (log : List Signal) : List SessionId := log.filterMap Signal.stops?

/-- The session numbers that have been handed out, once for each time. -/
def handedOut (log : List Signal) : List SessionId := log.filterMap Signal.handsOut?

@[simp] theorem released_nil : released [] = [] := rfl

@[simp] theorem stopped_nil : stopped [] = [] := rfl

@[simp] theorem handedOut_nil : handedOut [] = [] := rfl

section Append

variable (l₁ l₂ : List Signal)

@[simp] theorem released_append : released (l₁ ++ l₂) = released l₁ ++ released l₂ :=
  List.filterMap_append

@[simp] theorem stopped_append : stopped (l₁ ++ l₂) = stopped l₁ ++ stopped l₂ :=
  List.filterMap_append

@[simp] theorem handedOut_append : handedOut (l₁ ++ l₂) = handedOut l₁ ++ handedOut l₂ :=
  List.filterMap_append

end Append

section One

variable (c : Call) (reply : Reply)

@[simp] theorem released_began :
    released [.began c] = if c.isRelease then c.session?.toList else [] := by
  cases h : c.isRelease <;> cases hs : c.session? <;> simp [released, Signal.releases?, h, hs]

@[simp] theorem stopped_began : stopped [.began c] = [] := rfl

@[simp] theorem handedOut_began : handedOut [.began c] = [] := rfl

@[simp] theorem released_returned : released [.returned c reply] = [] := rfl

@[simp] theorem released_unwound : released [.unwound c] = [] := rfl

@[simp] theorem stopped_unwound : stopped [.unwound c] = [] := rfl

@[simp] theorem handedOut_unwound : handedOut [.unwound c] = [] := rfl

@[simp] theorem stopped_returned_error (f : TransportFailure) :
    stopped [.returned c (.error f)] = [] := rfl

/-- Only a stop that succeeds stops anything. -/
theorem stopped_returned_eq_nil (h : c.isStop = false) : stopped [.returned c reply] = [] := by
  cases reply <;> simp [stopped, Signal.stops?, h]

end One

/-! ## Signals that are about no session

The calls of streams come in between those that are about sessions. They change nothing of what a
log says about sessions, and so they need not be looked at one by one. -/

/-- Whether signals have nothing to do with sessions. -/
def Foreign (log : List Signal) : Prop := ∀ x ∈ log, x.call.IsForeign

/-- A signal of a call that has nothing to do with sessions. -/
theorem foreign_map {call? : Option Call} {f : Call → Signal}
    (h : ∀ c, call? = some c → c.IsForeign) (hf : ∀ c, (f c).call = c) :
    Foreign (call?.toList.map f) := by
  intro x hx
  obtain ⟨c, hc, rfl⟩ := List.mem_map.1 hx
  rw [hf]
  exact h c (Option.mem_toList.1 hc)

namespace Foreign

variable {log log' : List Signal}

theorem append (h : Foreign log) (h' : Foreign log') : Foreign (log ++ log') :=
  fun x hx => (List.mem_append.1 hx).elim (h x) (h' x)

theorem released_eq_nil (h : Foreign log) : released log = [] := by
  refine List.filterMap_eq_nil_iff.2 ?_
  intro x hx
  cases x with
  | began c =>
    have hc : c.IsForeign := h _ hx
    simp [Signal.releases?, hc.session?]
  | _ => rfl

theorem stopped_eq_nil (h : Foreign log) : stopped log = [] := by
  refine List.filterMap_eq_nil_iff.2 ?_
  intro x hx
  cases x with
  | returned c reply =>
    have hc : c.IsForeign := h _ hx
    cases reply <;> simp [Signal.stops?, hc.isStop]
  | _ => rfl

end Foreign

/-! ## Sound logs

A log is sound if sessions are stopped and released once at most, and are left alone afterwards.
Every step adds a few signals to the log, of which only the last one can begin a release. It is
therefore enough to know which sessions had been released before the step. -/

/-- Whether no call names a session after the release of that session has begun. -/
def NoUseAfterRelease (log : List Signal) : Prop :=
  ∀ (before after : List Signal) (c : Call) (id : SessionId),
    log = before ++ .began c :: after → c.session? = some id → id ∉ released before

/-- What a sound log says: no session is stopped or released twice, and none is named by
a call that begins after its release has begun. -/
structure SoundLog (log : List Signal) : Prop where
  release_once : (released log).Nodup
  stop_once : (stopped log).Nodup
  no_use : NoUseAfterRelease log

/-- Whether a release begins in a log only at its end. -/
def ReleasesLast (log : List Signal) : Prop :=
  ∀ (before after : List Signal) (x : Signal), log = before ++ x :: after → released before = []

/-- A log without a release has none before its end. -/
theorem releasesLast_of_released_eq_nil {log : List Signal} (h : released log = []) :
    ReleasesLast log := by
  rintro before after x rfl
  exact (List.append_eq_nil_iff.1 (released_append _ _ ▸ h)).1

/-- At most one signal, and then the beginning of a call. -/
theorem releasesLast_append_began {log : List Signal} (h : released log = [])
    (call? : Option Call) : ReleasesLast (log ++ call?.toList.map .began) := by
  intro before after x hl
  cases call? with
  | none => exact releasesLast_of_released_eq_nil h before after x (by simpa using hl)
  | some c =>
    -- What stands before some signal does not reach the last one.
    have hp : before <+: log := by
      have hb : before <+: log ++ [Signal.began c] := ⟨x :: after, by simpa using hl.symm⟩
      refine (List.prefix_concat_iff.1 hb).resolve_left ?_
      intro he
      rw [he] at hl
      simp at hl
    obtain ⟨rest, rfl⟩ := hp
    exact (List.append_eq_nil_iff.1 (released_append _ _ ▸ h)).1

/-- A log that goes on stays without use after release if every session that is named was
not released by then. -/
theorem NoUseAfterRelease.append {log log' : List Signal} (h : NoUseAfterRelease log)
    (hl : ReleasesLast log')
    (hn : ∀ c id, .began c ∈ log' → c.session? = some id → id ∉ released log) :
    NoUseAfterRelease (log ++ log') := by
  intro before after c id heq hs
  -- The call begins in the log as it was, or in what has been added.
  rcases List.append_eq_append_iff.1 heq with ⟨mid, rfl, hmid⟩ | ⟨mid, rfl, hmid⟩
  · rw [released_append, hl mid after _ hmid, List.append_nil]
    exact hn c id (by rw [hmid]; simp) hs
  · cases mid with
    | nil =>
      rw [List.append_nil] at hn
      exact hn c id (by rw [← List.nil_append log', ← hmid]; simp) hs
    | cons x mid =>
      obtain ⟨rfl, -⟩ := List.cons.inj hmid
      exact h before mid c id rfl hs

end RemoteRecorder
