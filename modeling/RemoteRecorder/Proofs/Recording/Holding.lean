import RemoteRecorder.Proofs.Backend.Structured
import RemoteRecorder.Proofs.Recording.Role

/-!
# RemoteRecorder.Proofs.Recording.Holding

**Who is responsible for a session**: the recording, or a caller on its way.

* A `Holding` is a session that somebody is responsible for. `Recording.stock` and
  `Caller.stock` say what a recording and a caller hold.
* Over a step of a caller the books balance (`Move.covers`): what is released and what is
  held after the step was held before it, or has been handed out in it.
* A call that names a session begins only while the session is held (`Move.holds_named`).
-/

namespace RemoteRecorder

open Backend.Structured (OneCall Tidy upcoming inHand)

/-! ## Books

A session must not be used after its release has begun, and to know this of every run one would have
to look back at all that has been done with it. The books make it a matter of counting instead: a
session is handed out once, somebody has it from then on, and who releases it no longer has it. All
of this is kept up from step to step by inequalities between counts.

The counts are inequalities and not equations because a session may get lost. A start that is cut
off has created one and tells nobody. -/

/-- A session that somebody is responsible for. -/
structure Holding where
  id : SessionId
  /-- Whether it may still be stopped. -/
  running : Bool
  deriving DecidableEq

/-- The sessions that are held. -/
def heldIds (l : List Holding) : List SessionId := l.map Holding.id

/-- The sessions that are held and may still be stopped. -/
def runningIds (l : List Holding) : List SessionId := (l.filter Holding.running).map Holding.id

@[simp] theorem heldIds_nil : heldIds [] = [] := rfl

@[simp] theorem runningIds_nil : runningIds [] = [] := rfl

@[simp] theorem heldIds_append (l₁ l₂ : List Holding) :
    heldIds (l₁ ++ l₂) = heldIds l₁ ++ heldIds l₂ :=
  List.map_append

@[simp] theorem runningIds_append (l₁ l₂ : List Holding) :
    runningIds (l₁ ++ l₂) = runningIds l₁ ++ runningIds l₂ := by
  simp [runningIds]

@[simp] theorem heldIds_map_running (l : List SessionId) :
    heldIds (l.map fun id => ⟨id, true⟩) = l := by
  simp [heldIds, Function.comp_def]

@[simp] theorem runningIds_map_running (l : List SessionId) :
    runningIds (l.map fun id => ⟨id, true⟩) = l := by
  simp [runningIds, List.filter_map, Function.comp_def]

/-- Whether what is released in a log and held after it was held before it or handed out
in it, and likewise what is stopped. -/
def Covers (log : List Signal) (after before : List Holding) : Prop :=
  ∀ id,
    (released log).count id + (heldIds after).count id ≤
        (heldIds before).count id + (handedOut log).count id ∧
      (stopped log).count id + (runningIds after).count id ≤
        (runningIds before).count id + (handedOut log).count id

theorem covers_refl (l : List Holding) : Covers [] l l := by
  intro id
  simp

/-- Holdings may be given up. -/
theorem covers_of_sublist {after before : List Holding} (h : after.Sublist before) :
    Covers [] after before := by
  intro id
  have held := (h.map Holding.id).count_le id
  have running := ((h.filter Holding.running).map Holding.id).count_le id
  simpa using ⟨held, running⟩

/-- A session that is held may cease to be one that may be stopped. -/
theorem covers_stopped (l : List Holding) (id : SessionId) (running : Bool) :
    Covers [] (l ++ [⟨id, false⟩]) (l ++ [⟨id, running⟩]) := by
  intro i
  cases running <;> simp [heldIds, runningIds]

namespace Covers

variable {log log' : List Signal} {after mid before : List Holding}

/-- Books that balance over one part of a log and then over the next balance over both. -/
theorem trans (h : Covers log mid before) (h' : Covers log' after mid) :
    Covers (log ++ log') after before := by
  intro id
  have h₁ := h id
  have h₂ := h' id
  simp only [released_append, stopped_append, handedOut_append, List.count_append]
  omega

/-- What a bystander holds may be added to both sides. -/
theorem append_left (l : List Holding) (h : Covers log after before) :
    Covers log (l ++ after) (l ++ before) := by
  intro id
  have h₁ := h id
  simp only [heldIds_append, runningIds_append, List.count_append]
  omega

/-- A signal that neither hands out, stops nor releases anything does not matter. -/
theorem of_silent (hr : released log = []) (hs : stopped log = [])
    (h : Covers [] after before) : Covers log after before := by
  intro id
  have h₁ := h id
  simp only [released_nil, stopped_nil, handedOut_nil, List.count_nil] at h₁
  rw [hr, hs, List.count_nil]
  omega

end Covers

namespace Recording

variable {object : ObjectName}

/-! ## Holdings of recordings and callers

The books of a run are those of its recordings and callers together. Who has the session at which
point is the one thing to decide here, and everything else is checked against it: in a settled phase
it is the recording, during a transition its owner, and after a close the caller who is to release
it. -/

/-- What a recording holds. In flight and after a close it is some caller who does. -/
def stock (r : Recording) : List Holding :=
  match r.cell.phase with
  | .active => [⟨r.id, true⟩]
  | .stopped => [⟨r.id, false⟩]
  | _ => []

/-- Whether a recording has a session that it holds. -/
def HoldsSession (r : Recording) : Prop := r.cell.phase = .active ∨ r.cell.phase = .stopped

/-- What a recording held before it was started, with the number `id` it still has. -/
def Launch.stock (id : SessionId) : Launch → List Holding
  | first => []
  | again => [⟨id, false⟩]

/-- What a request for a stop holds. -/
def stockOfStop (id : SessionId) : Exchange Empty (Except Error Unit) → List Holding
  | .done (.ok _) => [⟨id, false⟩]
  | _ => [⟨id, true⟩]

/-- What a request for a release holds: nothing once it has begun. -/
def stockOfRelease (id : SessionId) : Exchange Empty (Except Error Unit) → List Holding
  | .note _ _ => [⟨id, false⟩]
  | _ => []

/-- What a request for a clone holds: the clone, once it is there. -/
def stockOfClone : Exchange Empty (Except Error SessionId) → List Holding
  | .done (.ok id) => [⟨id, true⟩]
  | _ => []

/-- The recording that an operation has made: a clone, if there is one. -/
def made : Outcome Yield → List Recording
  | .returned (.ok (.cloned clone)) => [clone]
  | _ => []

/-- What an errand holds in a recording with the number `current`. -/
def Errand.stock (current : SessionId) :
    (e : Errand) → Exchange Empty (Except Error e.Brings) → List Holding
  | .start launch, rest => launch.stock current ++ (inHand rest).map fun id => ⟨id, true⟩
  | .stop id, rest | .stopForRelease id _, rest => stockOfStop id rest
  | .release id _, rest => stockOfRelease id rest
  | .clone _ _ _, rest => stockOfClone rest
  | .dump _ _, _ | .openStream _ _, _ => []

/-- What a caller holds in a recording with the number `current`. -/
def Caller.stock (current : SessionId) : Caller → List Holding
  | fetching .stop | fetching .release => [⟨current, true⟩]
  | asking e rest => e.stock current rest
  | assigning id | settlingStart id | reportingClone id _ => [⟨id, true⟩]
  | revertingStart launch _ | unwinding (.start launch) _ => launch.stock current
  | settlingStop id result => stockOfStop id (.done result)
  | unwinding .stop _ => [⟨current, true⟩]
  | ended outcome => (made outcome).map fun clone => ⟨clone.id, true⟩
  | _ => []

/-! ## Requests to a recorder object

A request is a tree that no proof wants to look into again and again. All that the books need to
know is that every request but the start makes a single call, and what a reply to it means. -/

/-- Whether what is left of a request is what can be left of the errand's. -/
def Errand.Obeys (object : ObjectName) :
    (e : Errand) → Exchange Empty (Except Error e.Brings) → Prop
  | .start _, rest => Tidy rest
  | .stop id, rest | .stopForRelease id _, rest =>
    OneCall ⟨object, "stopRecording", [.ofId id]⟩ (fun reply x => ∀ v, reply = .ok v → x = .ok ())
      rest
  | .dump id path, rest =>
    OneCall ⟨object, "copyTo", [.ofId id, .text path]⟩ (fun _ _ => True) rest
  | .clone id andStop _, rest =>
    OneCall ⟨object, "cloneRecording", [.ofId id, .boolean andStop]⟩
      (fun reply x => ∀ clone, x = .ok clone → reply = .ok (.long clone.value)) rest
  | .openStream id request, rest =>
    OneCall ⟨object, "openStream", [.ofId id, .ofMap request.toMap]⟩ (fun _ _ => True) rest
  | .release id _, rest =>
    OneCall ⟨object, "closeRecording", [.ofId id]⟩ (fun _ _ => True) rest

open Backend.Structured in
/-- What an errand asks of the recorder object is a request of the kind that has been written down
for it. This is the only place where the requests themselves are opened. -/
theorem Errand.obeys_request (e : Errand) (options : Options) (configuration : Configuration) :
    e.Obeys object (e.request (.structured object) options configuration).run := by
  have stop (id : SessionId) : OneCall ⟨object, "stopRecording", [.ofId id]⟩
      (fun reply x => ∀ v, reply = .ok v → x = .ok ())
      ((Backend.structured object).stop id).run := by
    change OneCall _ _ (Request.command object _ _).run
    rw [command_run]
    exact .before fun reply => ⟨_, rfl, by rintro v rfl; rfl⟩
  cases e with
  | start launch => exact tidy_start options configuration
  | stop id => exact stop id
  | stopForRelease id outcome => exact stop id
  | dump id path =>
    change OneCall _ _ (Request.command object _ _).run
    rw [command_run]
    exact .before fun reply => ⟨_, rfl, trivial⟩
  | clone id andStop state =>
    change OneCall _ _ ((Backend.structured object).clone id andStop).run
    rw [clone_run]
    refine .before fun reply => ⟨_, rfl, ?_⟩
    intro clone hc
    rcases reply with f | v
    · cases hc
    · cases v <;> cases hc
      rfl
  | openStream id request =>
    change OneCall _ _ (invokeForNumber object _ _).run
    rw [invokeForNumber_run]
    exact .before fun reply => ⟨_, rfl, trivial⟩
  | release id outcome =>
    change OneCall _ _ (Request.command object _ _).run
    rw [command_run]
    exact .before fun reply => ⟨_, rfl, trivial⟩

/-- What has to hold of a recording when an errand sets out. -/
def Errand.Entitled (r : Recording) : Errand → Prop
  | start _ => True
  | stop id => r.id = id
  | dump id _ | clone id _ _ | openStream id _ => r.id = id ∧ r.HoldsSession
  | stopForRelease _ outcome | release _ outcome => made outcome = []

namespace Caller

/-- Whether a caller is going to read the session and has not begun the call. It relies on
being left alone with the recording. -/
def isQuiet : Caller → Bool
  | begun op => op.isReading
  | fetching u => u.isReading
  | asking e (.note _ _) => e.isReading
  | _ => false

/-- What a caller keeps about itself and its recording. -/
def Proper (object : ObjectName) (r : Recording) : Caller → Prop
  | fetching u => u.isReading = true → r.HoldsSession
  | asking e rest =>
    e.Obeys object rest ∧ ((asking e rest).isQuiet = true ∨ e.isReading = false → e.Entitled r)
  | settlingStart id | settlingStop id _ => r.id = id
  | ended outcome => ∀ clone ∈ made outcome, clone.cell.phase.isSettled = true
  | _ => True

variable {r r' : Recording} {c c' : Caller} {t : Turn} {id : SessionId}

/-- Only who owns a transition relies on the number staying as it is, apart from those who
are alone with the recording. -/
theorem Proper.stable (h : c.Proper object r) (hq : c.isQuiet = false)
    (hid : r'.id = r.id ∨ c.role = .bystander) : c.Proper object r' := by
  cases c with
  | fetching u =>
    intro hu
    simp [isQuiet, hu] at hq
  | asking e rest =>
    refine ⟨h.1, ?_⟩
    intro he
    have hr := h.2 he
    rw [hq] at he
    cases e with
    | start launch => exact hr
    | stop id => exact (hid.resolve_right (by simp [role])).trans hr
    | dump | clone | openStream => simp [Errand.isReading] at he
    | stopForRelease id outcome => exact hr
    | release id outcome => exact hr
  | settlingStart id => exact (hid.resolve_right (by simp [role])).trans h
  | settlingStop id result => exact (hid.resolve_right (by simp [role])).trans h
  | ended outcome => exact h
  | _ => trivial

/-- What others hold does not depend on the number, unless it belongs to an owner or heir. -/
theorem stock_congr {id' : SessionId} (h : id' = id ∨ c.role = .bystander) :
    c.stock id' = c.stock id := by
  rcases h with rfl | h
  · rfl
  · cases c with
    | fetching u => cases u <;> first | rfl | cases h
    | asking e rest => cases e <;> first | rfl | cases h
    | revertingStart launch e => cases h
    | unwinding t text => cases t <;> cases h
    | _ => rfl

/-- Who relies on being left alone waits for no reply. -/
theorem pending?_of_isQuiet (h : c.isQuiet = true) : c.pending? = none := by
  cases c with
  | asking e rest =>
    cases rest with
    | call request next => cases h
    | _ => rfl
  | _ => rfl

theorem proper_ended {o : Outcome Yield} (h : made o = []) : (ended o).Proper object r := by
  intro clone hc
  rw [h] at hc
  cases hc

/-- An errand that is entitled to what it asks for may set out. -/
theorem proper_ask {e : Errand} (h : e.Entitled r) :
    (ask (.structured object) r e).Proper object r :=
  ⟨e.obeys_request _ _, fun _ => h⟩

/-! ## Steps

A step of a caller that waits for a call puts its end on the wire, and perhaps the beginning of the
next. Most steps are silent, and for these only the holdings have to be compared. -/

/-- The beginning of the call that a caller has got to. -/
def arrival (c : Caller) : List Signal := c.pending?.toList.map .began

/-- What goes over the wire in a turn, between waiting for one call, if any, and for the
next. -/
def Turn.signals (before after : Option Call) : Turn → List Signal
  | act => after.toList.map .began
  | reply answer => before.toList.map (.returned · answer) ++ after.toList.map .began
  | unwind _ => before.toList.map .unwound ++ after.toList.map .began

/-- What goes over the wire in a step of a caller. -/
def signals (c : Caller) (t : Turn) (c' : Caller) : List Signal :=
  t.signals c.pending? c'.pending?

/-- No request begins with a call: there is a notice first. -/
theorem arrival_ask (e : Errand) : (ask (.structured object) r e).arrival = [] := by
  cases e <;> rfl

/-- At the beginning a request holds what it has been given. -/
theorem stock_ask_start (launch : Launch) :
    (ask (.structured object) r (.start launch)).stock id = launch.stock id := by
  cases launch <;> rfl

/-- Nothing is held and no call begun on seeing a settled phase. -/
theorem afterLook_idle (r : Recording) (id : SessionId) (p : Phase) (op : Operation) :
    (afterLook r p op).arrival = [] ∧ (afterLook r p op).stock id = [] := by
  have h := looked r p op
  generalize afterLook r p op = c at h
  cases h with
  | @read op u hop hu => cases u <;> first | exact ⟨rfl, rfl⟩ | cases hu
  | idle hx => rcases hx with rfl | ⟨e, rfl⟩ <;> exact ⟨rfl, rfl⟩
  | _ => exact ⟨rfl, rfl⟩

/-- Who finds a session in a recording that it closes takes it over. -/
theorem afterClose_books (r : Recording) :
    (afterClose r.cell.phase).1.arrival = [] ∧
      Covers [] ((afterClose r.cell.phase).1.stock r.id) r.stock := by
  unfold Recording.stock
  cases r.cell.phase with
  | active => exact ⟨rfl, covers_refl _⟩
  | _ => exact ⟨rfl, covers_of_sublist (List.nil_sublist _)⟩

theorem stock_of_source {launch : Launch} (h : r.cell.phase = launch.source) :
    r.stock = launch.stock r.id := by
  unfold Recording.stock
  cases launch <;> rw [h] <;> rfl

theorem stock_setPhase_source (r : Recording) (launch : Launch) :
    (r.setPhase launch.source).stock = launch.stock r.id :=
  stock_of_source rfl

theorem stock_of_active (h : r.cell.phase = .active) : r.stock = [⟨r.id, true⟩] := by
  unfold Recording.stock
  rw [h]

/-- In flight and after a close a recording holds nothing. -/
theorem stock_of_owner {f : Phase} (hf : f.isSettled = false)
    (h : r.cell.phase = f ∨ r.cell.phase = .closed) : r.stock = [] := by
  unfold Recording.stock
  rcases h with h | h
  · rw [h]
    cases f <;> first | rfl | cases hf
  · rw [h]

/-! ## Books of a request

One lemma for each way in which a request goes on: with a notice, a reply, a cut or its result. Each
goes through the errands, since every errand holds something else. -/

/-- What a start is going to name it holds, unless it names it in order to release it. -/
theorem covers_arrival {launch : Launch} (rest : Exchange Empty (Except Error SessionId)) :
    Covers (asking (.start launch) rest).arrival ((inHand rest).map fun id => ⟨id, true⟩)
      ((upcoming rest).map fun id => ⟨id, true⟩) := by
  cases rest with
  | call c next =>
    intro id
    change (released [.began c]).count id + _ ≤ _ ∧ (stopped [.began c]).count id + _ ≤ _
    cases hr : c.isRelease <;> simp [inHand, upcoming, hr]
  | keep s rest => exact s.elim
  | done result => exact covers_refl _
  | note n rest => exact covers_refl _

/-- A notice is followed by a call, and the books of the call are made up as it begins. Only the
release takes something out of them. -/
theorem covers_note {e : Errand} {n : Notice} {rest : Exchange Empty (Except Error e.Brings)}
    (h : e.Obeys object (.note n rest)) :
    Covers (asking e rest).arrival (e.stock id rest) (e.stock id (.note n rest)) := by
  cases e with
  | start launch => exact (covers_arrival rest).append_left _
  | stop i | stopForRelease i outcome | dump i path | clone i andStop state
  | openStream i request =>
    cases h with
    | before h => exact .of_silent (by simp [arrival, pending?, Call.isRelease]) rfl (covers_refl _)
  | release i outcome =>
    -- The call that begins here is the release of what has been held so far.
    cases h with
    | before h =>
      intro id
      simp [arrival, pending?, Errand.stock, stockOfRelease, Call.isRelease, heldIds, runningIds,
        Backend.Structured.session?_on (show "closeRecording" ∈ sessionOperations by decide)]

/-- The reply to a request for a stop: if it is a success, the session is stopped. -/
theorem covers_answer_stop {i : SessionId} {next : Reply → Exchange Empty (Except Error Unit)}
    (reply : Reply) (h : ∀ reply, ∃ a, next reply = .done a ∧ ∀ v, reply = .ok v → a = .ok ()) :
    Covers [.returned ⟨object, "stopRecording", [.ofId i]⟩ reply] (stockOfStop i (next reply))
      [⟨i, true⟩] := by
  obtain ⟨a, ha, hr⟩ := h reply
  rw [ha]
  intro id
  cases reply with
  | ok v =>
    rw [hr v rfl]
    simp [stockOfStop, stopped, Signal.stops?, Call.isStop, heldIds, runningIds,
      Backend.Structured.session?_on (show "stopRecording" ∈ sessionOperations by decide)]
  | error f =>
    cases a <;> simp [stockOfStop, heldIds, runningIds]

/-- The reply to a request for a clone: if it brings a number, that has been handed out. -/
theorem covers_answer_clone {i : SessionId} {andStop : Bool}
    {next : Reply → Exchange Empty (Except Error SessionId)} (reply : Reply)
    (h : ∀ reply, ∃ a, next reply = .done a ∧
      ∀ clone, a = .ok clone → reply = .ok (.long clone.value)) :
    Covers [.returned ⟨object, "cloneRecording", [.ofId i, .boolean andStop]⟩ reply]
      (stockOfClone (next reply)) [] := by
  obtain ⟨a, ha, hr⟩ := h reply
  rw [ha]
  intro id
  have hs := stopped_returned_eq_nil ⟨object, "cloneRecording", [.ofId i, .boolean andStop]⟩ reply
    rfl
  cases a with
  | ok clone =>
    rw [hs, hr clone rfl]
    simp [stockOfClone, handedOut, Signal.handsOut?, Call.asksNumber, heldIds, runningIds]
  | error e => simp [hs, stockOfClone]

/-- A request of one call is over with the reply. -/
theorem arrival_of_reply {e : Errand} {next : Reply → Exchange Empty (Except Error e.Brings)}
    {R : Reply → Except Error e.Brings → Prop} (reply : Reply)
    (h : ∀ reply, ∃ a, next reply = .done a ∧ R reply a) :
    (asking e (next reply)).arrival = [] := by
  obtain ⟨a, ha, -⟩ := h reply
  rw [ha]
  rfl

/-- The books over a reply, whatever the errand has asked for. Of the requests of one call only a
stop and a clone change what is held. -/
theorem covers_answer {e : Errand} {request : Call}
    {next : Reply → Exchange Empty (Except Error e.Brings)} (reply : Reply)
    (h : e.Obeys object (.call request next)) :
    Covers (.returned request reply :: (asking e (next reply)).arrival)
      (e.stock id (next reply)) (e.stock id (.call request next)) := by
  cases e with
  | start launch =>
    -- The reply may hand a number out, and then a setter or the release begins.
    obtain ⟨hs, hnext⟩ := h
    obtain ⟨-, hcount⟩ := hnext reply
    have books : Covers [.returned request reply]
        ((upcoming (next reply)).map fun id => ⟨id, true⟩)
        ((inHand (.call request next)).map fun id => ⟨id, true⟩) := by
      intro id
      simpa [stopped_returned_eq_nil _ _ hs] using hcount id
    exact (books.trans (covers_arrival (next reply))).append_left _
  | stop i | stopForRelease i outcome =>
    cases h with
    | during h =>
      rw [arrival_of_reply reply h]
      exact covers_answer_stop reply h
  | clone i andStop state =>
    cases h with
    | during h =>
      rw [arrival_of_reply reply h]
      exact covers_answer_clone reply h
  | dump i path | openStream i request =>
    cases h with
    | during h =>
      rw [arrival_of_reply reply h]
      exact .of_silent rfl (stopped_returned_eq_nil _ _ rfl) (covers_refl _)
  | release i outcome =>
    cases h with
    | during h =>
      obtain ⟨a, ha, -⟩ := h reply
      rw [ha]
      exact .of_silent rfl (stopped_returned_eq_nil _ _ rfl) (covers_refl _)

/-- Who is cut off keeps at most what it had: the session of a start that is cut off is lost. -/
theorem covers_cut {e : Errand} {request : Call}
    {next : Reply → Exchange Empty (Except Error e.Brings)} (text : String)
    (h : (asking e (.call request next)).Proper object r) :
    Covers (.unwound request :: (afterUnwinding text e).arrival)
      ((afterUnwinding text e).stock r.id) (e.stock r.id (.call request next)) := by
  cases e with
  | start launch =>
    exact .of_silent rfl rfl (covers_of_sublist (List.sublist_append_left _ _))
  | stop i =>
    obtain rfl : r.id = i := h.2 (.inr rfl)
    exact .of_silent rfl rfl (covers_refl _)
  | _ => exact .of_silent rfl rfl (covers_of_sublist (List.nil_sublist _))

/-- What a result brings is held by who goes on with it. -/
theorem covers_report {e : Errand} {result : Except Error e.Brings}
    (h : (asking e (.done result)).Proper object r) :
    (afterErrand (.structured object) r e result).1.arrival = [] ∧
      Covers [] ((afterErrand (.structured object) r e result).1.stock r.id)
        (e.stock r.id (.done result)) := by
  cases e with
  | start launch =>
    cases result with
    | ok id => exact ⟨rfl, covers_of_sublist (List.sublist_append_right _ _)⟩
    | error e => exact ⟨rfl, covers_of_sublist (List.sublist_append_left _ _)⟩
  | stop id => exact ⟨rfl, covers_refl _⟩
  | dump id path => cases result <;> exact ⟨rfl, covers_refl _⟩
  | clone id andStop state => cases result <;> exact ⟨rfl, covers_refl _⟩
  | openStream id request => cases result <;> exact ⟨rfl, covers_refl _⟩
  | stopForRelease id outcome =>
    have ho : made outcome = [] := h.2 (.inr rfl)
    cases result with
    | ok _ => exact ⟨arrival_ask _, covers_refl _⟩
    | error e =>
      refine ⟨rfl, ?_⟩
      change Covers [] ((made outcome).map _) _
      rw [ho]
      exact covers_of_sublist (List.nil_sublist _)
  | release id outcome =>
    have ho : made outcome = [] := h.2 (.inr rfl)
    have books : Covers [] ((ended outcome).stock r.id) [] := by
      change Covers [] ((made outcome).map _) _
      rw [ho]
      exact covers_refl _
    cases result <;> exact ⟨rfl, books⟩

/-! ## Books of a step

Over the constructors of `Move` the two invariants are kept up: the books balance, and every
caller keeps knowing what it relies on. The second is needed for the first, because a caller that
is about to stop a session names the one it has been told of, and this has to be the one the
recording has. -/

/-- The books balance over a step of a caller. -/
theorem Move.covers (m : Move (.structured object) r c t r' c') (hp : c.Proper object r)
    (ho : ∀ f, c.role = .owner f →
      f.isSettled = false ∧ (r.cell.phase = f ∨ r.cell.phase = .closed)) :
    Covers (c.signals t c') (r'.stock ++ c'.stock r'.id) (r.stock ++ c.stock r.id) := by
  -- Where nothing goes over the wire, only the holdings have to be looked at.
  have silent (ha : c'.arrival = [])
      (h : Covers [] (r'.stock ++ c'.stock r'.id) (r.stock ++ c.stock r.id)) :
      Covers c'.arrival (r'.stock ++ c'.stock r'.id) (r.stock ++ c.stock r.id) := by
    rw [ha]
    exact h
  -- The owner of a transition holds all there is, as long as it is not over.
  have owned {f : Phase} (hf : c.role = .owner f) : r.stock = [] :=
    stock_of_owner (ho f hf).1 (ho f hf).2
  cases m with
  | close =>
    obtain ⟨ha, books⟩ := afterClose_books r
    refine silent ha ?_
    change Covers [] ((afterClose r.cell.phase).1.stock r.id) (r.stock ++ [])
    rw [List.append_nil]
    exact books
  | @look op hop hs =>
    obtain ⟨ha, hb⟩ := afterLook_idle r r.id r.cell.phase op
    refine silent ha ?_
    rw [hb]
    exact covers_refl _
  | @claim t hs =>
    -- What the recording held goes over to the winner.
    cases t with
    | start launch =>
      refine silent (arrival_ask _) ?_
      change Covers [] ((ask _ _ (.start launch)).stock r.id) (r.stock ++ [])
      rw [stock_ask_start, List.append_nil, stock_of_source hs]
      exact covers_refl _
    | stop =>
      change Covers [] [⟨r.id, true⟩] (r.stock ++ [])
      rw [List.append_nil, stock_of_active hs]
      exact covers_refl _
  | lose hs => exact covers_refl _
  | @fetch u =>
    cases u with
    | answer => exact covers_refl _
    | _ => exact silent (arrival_ask _) (covers_refl _)
  | note => exact (covers_note hp.1).append_left _
  | answer reply => exact (covers_answer reply hp.1).append_left _
  | cut text => exact (covers_cut text hp).append_left _
  | report =>
    obtain ⟨ha, books⟩ := covers_report hp
    exact silent ha (books.append_left _)
  | @assign id =>
    -- The number changes while the recording holds nothing.
    have ho := ho .starting rfl
    have hr' : (r.setId id).stock = [] := stock_of_owner ho.1 ho.2
    refine silent rfl ?_
    rw [hr', owned (f := .starting) rfl]
    exact covers_refl _
  | @activate id hs =>
    -- On leaving a transition the owner gives the session back to the recording.
    obtain rfl : r.id = id := hp
    refine silent rfl ?_
    rw [owned (f := .starting) rfl]
    exact covers_refl _
  | startOvertaken hs => exact silent (arrival_ask _) (covers_refl _)
  | @revert launch e hs =>
    refine silent rfl ?_
    rw [owned (f := .starting) rfl]
    change Covers [] ((r.setPhase launch.source).stock ++ []) (launch.stock r.id)
    rw [stock_setPhase_source, List.append_nil]
    exact covers_refl _
  | revertOvertaken hs =>
    -- Of a closed recording there is nobody left to hold the old session.
    exact silent rfl ((covers_of_sublist (List.nil_sublist _)).append_left _)
  | @settleStop id result hs =>
    obtain rfl : r.id = id := hp
    refine silent rfl ?_
    rw [owned (f := .stopping) rfl]
    cases result <;> exact covers_refl _
  | @stopOvertaken id result hs =>
    -- The session is going to be released, whether or not it has been stopped.
    refine silent (arrival_ask _) ?_
    cases result with
    | ok _ => exact covers_refl _
    | error e => exact covers_stopped _ _ _
  | @unwindTransition t text hs =>
    refine silent rfl ?_
    rw [owned (f := t.inFlight) rfl]
    cases t with
    | start launch =>
      change Covers [] ((r.setPhase launch.source).stock ++ []) (launch.stock r.id)
      rw [stock_setPhase_source, List.append_nil]
      exact covers_refl _
    | stop => exact covers_refl _
  | unwindOvertaken hs =>
    exact silent rfl ((covers_of_sublist (List.nil_sublist _)).append_left _)
  | reportClone => exact silent rfl (covers_refl _)

/-- Who has seen data has seen a session. -/
theorem holdsSession_of_look (hs : r.cell.phase.isSettled = true)
    (hd : r.cell.phase.state.hasRemoteData = true) : r.HoldsSession := by
  unfold HoldsSession
  cases h : r.cell.phase with
  | active => exact .inl rfl
  | stopped => exact .inr rfl
  | _ => simp [h, Phase.isSettled, Phase.state, State.hasRemoteData] at hs hd

/-- What a look at a settled phase leads to can be relied on, for as long as nobody else comes. -/
theorem proper_afterLook {op : Operation} (hs : r.cell.phase.isSettled = true) :
    (afterLook r r.cell.phase op).Proper object r := by
  have h := looked r r.cell.phase op
  generalize afterLook r r.cell.phase op = c at h
  cases h with
  | claim t ht => trivial
  | running hp => exact fun h => nomatch h
  | read hop hu hd => exact fun _ => holdsSession_of_look hs hd
  | idle hx => rcases hx with rfl | ⟨e, rfl⟩ <;> exact proper_ended rfl

/-- What is left of a request after a reply, or after a notice, is left of it still. -/
theorem obeys_note {e : Errand} {n : Notice} {rest : Exchange Empty (Except Error e.Brings)}
    (h : e.Obeys object (.note n rest)) : e.Obeys object rest := by
  cases e with
  | start launch => exact h
  | _ =>
    cases h with
    | before h => exact .during h

theorem obeys_reply {e : Errand} {request : Call}
    {next : Reply → Exchange Empty (Except Error e.Brings)} (reply : Reply)
    (h : e.Obeys object (.call request next)) :
    e.Obeys object (next reply) ∧
      (e.isReading = true → (asking e (next reply)).isQuiet = false) := by
  cases e with
  | start launch => exact ⟨(h.2 reply).1, fun hr => nomatch hr⟩
  | _ =>
    cases h with
    | during h =>
      obtain ⟨a, ha, -⟩ := h reply
      rw [ha]
      exact ⟨.after a, fun _ => rfl⟩

theorem isReading_of_isQuiet {e : Errand} {rest : Exchange Empty (Except Error e.Brings)}
    (h : (asking e rest).isQuiet = true) : e.isReading = true := by
  cases rest with
  | note n rest => exact h
  | _ => cases h

/-- Who relies on being left alone after a step did so before. Reliance begins with an operation and
is over for good once the call has begun. -/
theorem Move.quiet (m : Move (.structured object) r c t r' c') (hp : c.Proper object r)
    (h : c'.isQuiet = true) : c.isQuiet = true := by
  cases m with
  | close => cases hp : r.cell.phase <;> simp [hp, afterClose, isQuiet, Use.isReading] at h
  | @look op hop hs =>
    have looked := looked r r.cell.phase op
    generalize afterLook r r.cell.phase op = c at looked h
    cases looked with
    | read hop hu hd => exact hop
    | _ => cases h
  | @claim t hs =>
    cases t with
    | start launch => cases isReading_of_isQuiet h
    | stop => cases h
  | @lose t hs => cases t <;> cases h
  | @fetch u =>
    cases u with
    | answer => cases h
    | stop | release => cases isReading_of_isQuiet h
    | dump | clone | openStream => rfl
  | note => exact isReading_of_isQuiet h
  | answer reply =>
    -- A request that reads the session makes one call.
    rw [(obeys_reply reply hp.1).2 (isReading_of_isQuiet h)] at h
    cases h
  | @cut e _ _ text => cases e <;> cases h
  | @report e result =>
    cases e with
    | stopForRelease id outcome =>
      cases result with
      | ok _ => cases isReading_of_isQuiet h
      | error e => cases h
    | _ => cases result <;> cases h
  | startOvertaken hs => cases isReading_of_isQuiet h
  | stopOvertaken hs => cases isReading_of_isQuiet h
  | _ => cases h

/-- What callers know of themselves and of their recording is kept over their own steps. Steps of
others are the matter of `Proper.stable`. -/
theorem Move.proper (m : Move (.structured object) r c t r' c') (hp : c.Proper object r) :
    c'.Proper object r' := by
  cases m with
  | close => cases r.cell.phase <;> first | exact proper_ended rfl | exact fun h => nomatch h
  | look hop hs => exact proper_afterLook hs
  | @claim t hs =>
    cases t with
    | start launch => exact proper_ask trivial
    | stop => exact fun h => nomatch h
  | lose hs => exact trivial
  | @fetch u =>
    cases u with
    | answer => exact proper_ended rfl
    | stop | release => exact proper_ask rfl
    | dump | clone | openStream => exact proper_ask ⟨rfl, hp rfl⟩
  | @note e n rest =>
    refine ⟨obeys_note hp.1, fun h => hp.2 (h.imp_left fun hq => ?_)⟩
    cases rest with
    | note n rest => exact hq
    | _ => cases hq
  | @answer e request next reply =>
    obtain ⟨ho, hq⟩ := obeys_reply reply hp.1
    refine ⟨ho, fun h => hp.2 ?_⟩
    cases hr : e.isReading with
    | true =>
      rw [hq hr] at h
      simp [hr] at h
    | false => exact .inr rfl
  | @cut e _ _ text => cases e <;> first | exact trivial | exact proper_ended rfl
  | @report e result =>
    cases e with
    | start launch => cases result <;> exact trivial
    | stop id => exact hp.2 (.inr rfl)
    | dump id path => cases result <;> exact proper_ended rfl
    | clone id andStop state => cases result <;> first | exact trivial | exact proper_ended rfl
    | openStream id request => cases result <;> exact proper_ended rfl
    | stopForRelease id outcome =>
      cases result with
      | ok _ => exact proper_ask (hp.2 (.inr rfl))
      | error e => exact proper_ended (hp.2 (.inr rfl))
    | release id outcome => cases result <;> exact proper_ended (hp.2 (.inr rfl))
  | assign => rfl
  | activate hs => exact proper_ended rfl
  | startOvertaken hs => exact proper_ask rfl
  | revert hs => exact proper_ended rfl
  | revertOvertaken hs => exact proper_ended rfl
  | @settleStop id result hs => exact proper_ended (by cases result <;> rfl)
  | @stopOvertaken id result hs => exact proper_ask (by cases result <;> rfl)
  | unwindTransition hs => exact proper_ended rfl
  | unwindOvertaken hs => exact proper_ended rfl
  | @reportClone clone state =>
    intro r₁ hr₁
    obtain rfl : r₁ = r.copy clone state := by simpa [made] using hr₁
    exact Phase.isSettled_ofState state

/-! ## What a call names

With balanced books it remains to be seen that nobody names a session that is in no book. A call
begins only after a notice or a reply, so these are the two cases to look at. -/

/-- The call that a start has got to names what the start has in hand. -/
theorem named_in_hand {call : Call} {launch : Launch}
    {rest : Exchange Empty (Except Error SessionId)}
    (hc : .began call ∈ (asking (.start launch) rest).arrival) (hs : call.session? = some id)
    (hr : call.isRelease = false) : id ∈ inHand rest := by
  cases rest with
  | call c next =>
    obtain rfl : call = c := by simpa [arrival, pending?] using hc
    simp [inHand, hr, hs]
  | keep s rest => exact s.elim
  | _ => simp [arrival, pending?] at hc

theorem mem_heldIds_of_inHand {current : SessionId} {launch : Launch}
    {rest : Exchange Empty (Except Error SessionId)} (h : id ∈ inHand rest) :
    id ∈ heldIds ((asking (.start launch) rest).stock current) := by
  simp only [stock, Errand.stock, heldIds_append, heldIds_map_running, List.mem_append]
  exact .inr h

theorem mem_heldIds_of_holdsSession (h : r.HoldsSession) : r.id ∈ heldIds r.stock := by
  unfold Recording.stock
  rcases h with h | h <;> rw [h] <;> exact List.mem_singleton_self _

/-- A request sets out with its call only while the session is held: by the caller itself if it is
going to stop the session, and by the recording if it is going to read it. -/
theorem holds_named_note {e : Errand} {n : Notice} {rest : Exchange Empty (Except Error e.Brings)}
    (ho : e.Obeys object (.note n rest)) (he : e.Entitled r) {call : Call}
    (hc : .began call ∈ (asking e rest).arrival) (hs : call.session? = some id)
    (hr : call.isRelease = false) :
    id ∈ heldIds r.stock ∨ id ∈ heldIds ((asking e rest).stock r.id) := by
  have names {c : Call} {i : SessionId} (hc : .began call ∈ [Signal.began c])
      (hi : c.session? = some i) : i = id := by
    obtain rfl : call = c := by simpa using hc
    exact Option.some.inj (hi.symm.trans hs)
  cases e with
  | start launch => exact .inr (mem_heldIds_of_inHand (named_in_hand hc hs hr))
  | stop i | stopForRelease i outcome =>
    -- Who is going to stop the session holds it.
    cases ho with
    | before h =>
      obtain rfl := names hc (Backend.Structured.session?_on (by decide) i _)
      exact .inr (List.mem_singleton_self _)
  | dump i path | clone i andStop state | openStream i request =>
    -- Who is going to read the session leaves it to the recording.
    cases ho with
    | before h =>
      obtain rfl := names hc (Backend.Structured.session?_on (by decide) i _)
      exact .inl (he.1 ▸ mem_heldIds_of_holdsSession he.2)
  | release i outcome =>
    cases ho with
    | before h =>
      obtain rfl : call = _ := by simpa [arrival, pending?] using hc
      cases hr

/-- A reply leads to a call only within a start. -/
theorem holds_named_answer {e : Errand} {request : Call}
    {next : Reply → Exchange Empty (Except Error e.Brings)} (reply : Reply)
    (ho : e.Obeys object (.call request next)) {call : Call}
    (hc : .began call ∈ (asking e (next reply)).arrival) (hs : call.session? = some id)
    (hr : call.isRelease = false) : id ∈ heldIds ((asking e (next reply)).stock r.id) := by
  cases e with
  | start launch => exact mem_heldIds_of_inHand (named_in_hand hc hs hr)
  | _ =>
    cases ho with
    | during h =>
      rw [arrival_of_reply reply h] at hc
      cases hc

/-- A call that names a session, and is not for its release, begins only while the session
is held. -/
theorem Move.holds_named (m : Move (.structured object) r c t r' c') (hp : c.Proper object r)
    {call : Call} (hc : .began call ∈ c.signals t c') (hs : call.session? = some id)
    (hr : call.isRelease = false) : id ∈ heldIds (r'.stock ++ c'.stock r'.id) := by
  rw [heldIds_append, List.mem_append]
  -- Only a notice or a reply leads to a call.
  have nowhere {c : Caller} (h : c.arrival = []) (hc : .began call ∈ c.arrival) : False := by
    rw [h] at hc
    cases hc
  cases m with
  | close => exact (nowhere (afterClose_books r).1 hc).elim
  | @look op hop hs => exact (nowhere (afterLook_idle r r.id r.cell.phase op).1 hc).elim
  | @claim t hs => cases t <;> exact (nowhere (by first | exact arrival_ask _ | rfl) hc).elim
  | @fetch u => cases u <;> exact (nowhere (by first | exact arrival_ask _ | rfl) hc).elim
  | @note e n rest =>
    refine holds_named_note hp.1 (hp.2 ?_) hc hs hr
    cases he : e.isReading with
    | true => exact .inl he
    | false => exact .inr rfl
  | answer reply =>
    refine .inr (holds_named_answer reply hp.1 ?_ hs hr)
    simpa [signals, Turn.signals, arrival, pending?] using hc
  | @cut e request _ text =>
    cases e <;> simp [signals, Turn.signals, pending?, afterUnwinding] at hc
  | report => exact (nowhere (covers_report hp).1 hc).elim
  | startOvertaken hs => exact (nowhere (arrival_ask _) hc).elim
  | stopOvertaken hs => exact (nowhere (arrival_ask _) hc).elim
  | _ => exact (nowhere rfl hc).elim

end Caller

end Recording

end RemoteRecorder
