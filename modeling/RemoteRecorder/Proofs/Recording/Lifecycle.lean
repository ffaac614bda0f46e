import RemoteRecorder.Backend.Structured
import RemoteRecorder.Proofs.Recording.Crowd
import RemoteRecorder.Proofs.Recording.Solo

/-!
# RemoteRecorder.Proofs.Recording.Lifecycle

**The lifecycle table**: what each operation does in each state of a recording when no
other caller disturbs it.

* `Row` is the table. A row says what is asked of the backend and how that ended, what
  the operation yields, and the recording it leaves behind.
* `performs_iff_tabled` says that the table is exact for one operation on a recording
  in a settled phase, and a row leaves the recording in a settled phase.
-/

namespace RemoteRecorder.Recording

/-- The lifecycle table. -/
inductive Row (b : Backend) (r : Recording) :
    Operation → List Report → Except Error Yield → Recording → Prop where
  | start {id} (hs : r.state = .new ∨ r.state = .stopped)
      (h : (b.start r.options r.configuration).run.MayEnd (.ok id)) :
      Row b r .start [.start (.returned (.ok id))] (.ok (.running id))
        ((r.setPhase .active).setId id)
  | startFailed {e} (hs : r.state = .new ∨ r.state = .stopped)
      (h : (b.start r.options r.configuration).run.MayEnd (.error e)) :
      Row b r .start [.start (.returned (.error e))] (.error e) r
  | startActive (hs : r.state = .active) : Row b r .start [] (.ok (.running r.id)) r
  | startClosed (hs : r.state = .closed) :
      Row b r .start [] (.error (.invalidState .closed State.anyOpen)) r
  | stop (hs : r.state = .active) (h : (b.stop r.id).run.MayEnd (.ok ())) :
      Row b r .stop [.stop r.id (.returned (.ok ()))] (.ok .done) (r.setPhase .stopped)
  | stopFailed {e} (hs : r.state = .active) (h : (b.stop r.id).run.MayEnd (.error e)) :
      Row b r .stop [.stop r.id (.returned (.error e))] (.error e) r
  | stopIdle (hs : r.state = .new ∨ r.state = .stopped) : Row b r .stop [] (.ok .done) r
  | stopClosed (hs : r.state = .closed) :
      Row b r .stop [] (.error (.invalidState .closed State.anyOpen)) r
  | dump {path result} (hs : r.state = .active ∨ r.state = .stopped)
      (h : (b.dump r.id path).run.MayEnd result) :
      Row b r (.dump path) [.dump r.id path (.returned result)] (result.map fun _ => .done) r
  | dumpRefused {path} (hs : r.state = .new ∨ r.state = .closed) :
      Row b r (.dump path) [] (.error (.invalidState r.state State.withData)) r
  /-- The clone has all of the recording but its session. -/
  | clone {andStop id} (hs : r.state = .active ∨ r.state = .stopped)
      (h : (b.clone r.id andStop).run.MayEnd (.ok id)) :
      Row b r (.clone andStop) [.clone r.id andStop (.returned (.ok id))]
        (.ok (.cloned ⟨r.options, r.configuration, r.blockSize,
          ⟨.ofState (if andStop then .stopped else r.state), id⟩⟩)) r
  | cloneFailed {andStop e} (hs : r.state = .active ∨ r.state = .stopped)
      (h : (b.clone r.id andStop).run.MayEnd (.error e)) :
      Row b r (.clone andStop) [.clone r.id andStop (.returned (.error e))] (.error e) r
  | cloneRefused {andStop} (hs : r.state = .new ∨ r.state = .closed) :
      Row b r (.clone andStop) [] (.error (.invalidState r.state State.withData)) r
  | openStream {start stop blockSize result} (hs : r.state = .stopped)
      (h : (b.openStream r.id ⟨start, stop, blockSize.getD r.blockSize⟩).run.MayEnd result) :
      Row b r (.openStream start stop blockSize)
        [.openStream r.id ⟨start, stop, blockSize.getD r.blockSize⟩ (.returned result)]
        (result.map .opened) r
  | openStreamRefused {start stop blockSize} (hs : r.state ≠ .stopped) :
      Row b r (.openStream start stop blockSize) [] (.error (.invalidState r.state [.stopped])) r
  /-- Whether the session can be released does not matter. -/
  | closeActive {result} (hs : r.state = .active) (h : (b.stop r.id).run.MayEnd (.ok ()))
      (hc : (b.close r.id).run.MayEnd result) :
      Row b r .close [.stop r.id (.returned (.ok ())), .close r.id (.returned result)]
        (.ok .done) (r.setPhase .closed)
  /-- A session that cannot be stopped is left as it is. -/
  | closeUnstoppable {e} (hs : r.state = .active) (h : (b.stop r.id).run.MayEnd (.error e)) :
      Row b r .close [.stop r.id (.returned (.error e))] (.ok .done) (r.setPhase .closed)
  | closeIdle (hs : r.state ≠ .active) : Row b r .close [] (.ok .done) (r.setPhase .closed)

/-- An operation that runs from its beginning to a result with nobody else around. -/
def Performs (b : Backend) (r : Recording) (op : Operation) (l : List Remark)
    (x : Except Error Yield) (r' : Recording) : Prop :=
  Solo b r (.begun op) l r' (.ended (.returned x))

/-- An operation that does what a row of the table says. -/
def Tabled (b : Backend) (r : Recording) (op : Operation) (l : List Remark)
    (x : Except Error Yield) (r' : Recording) : Prop :=
  ∃ reports, l = reports.flatMap Report.talk ∧ Row b r op reports x r'

variable {b : Backend} {r r' : Recording} {op : Operation} {l : List Remark}
  {x : Except Error Yield} {reports : List Report}

/-! ## One operation

The table and the code are compared in both directions. That an operation does no more than the
table says is proved along the code, by rewriting the run of an operation into what its next request
comes to (`Solo`). That every row can be performed is proved by giving the run. -/

section One

open Caller

/-- An operation that waits for a settled phase begins with what it sees. -/
theorem performs_look_iff (hop : op ≠ .close) (hp : r.cell.phase.isSettled = true) :
    Performs b r op l x r' ↔ Runs b r (afterLook r r.cell.phase op) l r' (.returned x) := by
  rw [Performs, ← runs_begun_iff, (Move.look hop hp).runs_iff rfl]

/-- Going into a transition and back changes nothing. -/
theorem setPhase_setPhase_self {p q : Phase} (h : r.cell.phase = p) :
    (r.setPhase q).setPhase p = r := by
  subst h
  rfl

/-- The settled phase behind a state. -/
theorem phase_of_state (hp : r.cell.phase.isSettled = true) : r.cell.phase = .ofState r.state := by
  unfold state
  cases h : r.cell.phase with
  | starting | stopping => simp [h, Phase.isSettled] at hp
  | _ => rfl

/-- A request whose ending leads straight to the end of the operation. -/
theorem runs_last_ask_iff {e : Errand}
    {after : Except Error e.Brings → Recording × Except Error Yield}
    (h : ∀ result l₁, Runs b r (afterErrand b r e result).1 l₁ r' (.returned x) ↔
      l₁ = [] ∧ (r', x) = after result) :
    Runs b r (ask b r e) l r' (.returned x) ↔
      ∃ result, (e.request b r.options r.configuration).run.MayEnd result ∧
        l = (e.report (.returned result)).talk ∧ (r', x) = after result := by
  rw [runs_ask_iff]
  refine exists_congr fun result => and_congr_right fun _ => ?_
  constructor
  · rintro ⟨l₁, rfl, w⟩
    obtain ⟨rfl, hx⟩ := (h result l₁).1 w
    exact ⟨List.append_nil _, hx⟩
  · rintro ⟨rfl, hx⟩
    exact ⟨[], (List.append_nil _).symm, (h result []).2 ⟨rfl, hx⟩⟩

theorem runs_returned_iff {y : Except Error Yield} :
    Runs b r (ended (.returned y)) l r' (.returned x) ↔ l = [] ∧ (r', x) = (r, y) := by
  rw [runs_ended_iff]
  simp [eq_comm]

theorem runs_ofResult_iff {α : Type} {f : α → Yield} {result : Except Error α} :
    Runs b r (ofResult f result) l r' (.returned x) ↔ l = [] ∧ (r', x) = (r, result.map f) :=
  runs_returned_iff

/-- A start from where it can be won. -/
theorem runs_start_iff {launch : Launch} (hp : r.cell.phase = launch.source) :
    Runs b r (claiming (.start launch)) l r' (.returned x) ↔
      ∃ result, (b.start r.options r.configuration).run.MayEnd result ∧
        l = (Report.start (.returned result)).talk ∧
        (r', x) = match result with
          | .ok id => ((r.setPhase .active).setId id, .ok (.running id))
          | .error e => (r, .error e) := by
  rw [(Move.claim hp).runs_iff rfl]
  refine runs_last_ask_iff ?_
  intro result l₁
  cases result with
  | ok id =>
    rw [afterErrand, Move.assign.runs_iff rfl, (Move.activate rfl).runs_iff rfl]
    exact runs_returned_iff
  | error e =>
    rw [afterErrand, (Move.revert rfl).runs_iff rfl, setPhase_setPhase_self hp]
    exact runs_returned_iff

/-- A stop from where it can be won. -/
theorem runs_stop_iff (hp : r.cell.phase = .active) :
    Runs b r (claiming .stop) l r' (.returned x) ↔
      ∃ result, (b.stop r.id).run.MayEnd result ∧ l = (Report.stop r.id (.returned result)).talk ∧
        (r', x) = match result with
          | .ok _ => (r.setPhase .stopped, .ok .done)
          | .error e => (r, .error e) := by
  rw [(Move.claim hp).runs_iff rfl, afterClaim, Move.fetch.runs_iff rfl]
  refine runs_last_ask_iff ?_
  intro result l₁
  rw [afterErrand, (Move.settleStop rfl).runs_iff rfl, runs_ofResult_iff]
  cases result with
  | ok _ => rfl
  | error e =>
    rw [phaseAfterStop, setPhase_setPhase_self hp]
    rfl

/-- An operation on the data of the session. -/
theorem runs_dump_iff {path : String} :
    Runs b r (fetching (.dump path)) l r' (.returned x) ↔
      ∃ result, (b.dump r.id path).run.MayEnd result ∧
        l = (Report.dump r.id path (.returned result)).talk ∧
        (r', x) = (r, result.map fun _ => .done) := by
  rw [Move.fetch.runs_iff rfl]
  exact runs_last_ask_iff fun result l₁ => runs_ofResult_iff

theorem runs_openStream_iff {request : StreamRequest} :
    Runs b r (fetching (.openStream request)) l r' (.returned x) ↔
      ∃ result, (b.openStream r.id request).run.MayEnd result ∧
        l = (Report.openStream r.id request (.returned result)).talk ∧
        (r', x) = (r, result.map .opened) := by
  rw [Move.fetch.runs_iff rfl]
  exact runs_last_ask_iff fun result l₁ => runs_ofResult_iff

theorem runs_clone_iff {andStop : Bool} {state : State} :
    Runs b r (fetching (.clone andStop state)) l r' (.returned x) ↔
      ∃ result, (b.clone r.id andStop).run.MayEnd result ∧
        l = (Report.clone r.id andStop (.returned result)).talk ∧
        (r', x) = (r, result.map fun id =>
          .cloned (r.copy id (if andStop then .stopped else state))) := by
  rw [Move.fetch.runs_iff rfl]
  refine runs_last_ask_iff ?_
  intro result l₁
  cases result with
  | ok id =>
    rw [afterErrand, Move.reportClone.runs_iff rfl]
    exact runs_returned_iff
  | error e => exact runs_returned_iff

/-- Releasing the session of a recording that was active. -/
theorem runs_release_iff :
    Runs b r (fetching .release) l r' (.returned x) ↔
      ((r', x) = (r, .ok .done)) ∧
        ((∃ e, (b.stop r.id).run.MayEnd (.error e) ∧
          l = (Report.stop r.id (.returned (.error e))).talk) ∨
        ∃ result, (b.stop r.id).run.MayEnd (.ok ()) ∧ (b.close r.id).run.MayEnd result ∧
          l = (Report.stop r.id (.returned (.ok ()))).talk ++
            (Report.close r.id (.returned result)).talk) := by
  -- The close ends well, whatever becomes of the request.
  have last {l₁ : List Remark} : Runs b r (ask b r (.release r.id finished)) l₁ r' (.returned x) ↔
      ∃ result, (b.close r.id).run.MayEnd result ∧
        l₁ = (Report.close r.id (.returned result)).talk ∧ (r', x) = (r, .ok .done) := by
    refine runs_last_ask_iff ?_
    intro result l₁
    cases result <;> exact runs_returned_iff
  rw [Move.fetch.runs_iff rfl, use, runs_ask_iff]
  constructor
  · rintro ⟨result, h, l₁, rfl, w⟩
    cases result with
    | error e =>
      obtain ⟨rfl, hx⟩ := runs_returned_iff.1 w
      exact ⟨hx, .inl ⟨e, h, List.append_nil _⟩⟩
    | ok _ =>
      obtain ⟨result, hc, rfl, hx⟩ := last.1 w
      exact ⟨hx, .inr ⟨result, h, hc, rfl⟩⟩
  · rintro ⟨hx, ⟨e, h, rfl⟩ | ⟨result, h, hc, rfl⟩⟩
    · exact ⟨.error e, h, [], (List.append_nil _).symm, runs_returned_iff.2 ⟨rfl, hx⟩⟩
    · exact ⟨.ok (), h, _, rfl, last.2 ⟨result, hc, rfl, hx⟩⟩

/-- The row of an operation that asks for nothing. -/
theorem tabled_of_ended {y : Except Error Yield} (row : Row b r op [] y r)
    (w : Runs b r (ended (.returned y)) l r' (.returned x)) : Tabled b r op l x r' := by
  obtain ⟨rfl, hx⟩ := runs_returned_iff.1 w
  obtain ⟨rfl, rfl⟩ := Prod.mk.inj hx
  exact ⟨[], rfl, row⟩

/-- The row of an operation that asks for one thing. -/
theorem tabled_of_one {report : Report} {y : Recording × Except Error Yield}
    (row : Row b r op [report] y.2 y.1) (hl : l = report.talk) (hx : (r', x) = y) :
    Tabled b r op l x r' := by
  subst hx
  exact ⟨[report], by simpa using hl, row⟩

/-- A start does one of three things: it finds the session running, wins the transition and asks for
a session, or finds the recording closed. -/
theorem tabled_of_performs_start (hp : r.cell.phase.isSettled = true)
    (w : Performs b r .start l x r') : Tabled b r .start l x r' := by
  rw [performs_look_iff (by decide) hp] at w
  -- Two phases are the source of a start; the rest of it is the same for both.
  have source (launch : Launch) (h : r.cell.phase = launch.source)
      (hs : r.state = .new ∨ r.state = .stopped)
      (w : Runs b r (claiming (.start launch)) l r' (.returned x)) : Tabled b r .start l x r' := by
    obtain ⟨result, h, hl, hx⟩ := (runs_start_iff h).1 w
    cases result with
    | ok id => exact tabled_of_one (.start hs h) hl hx
    | error e => exact tabled_of_one (.startFailed hs h) hl hx
  cases h : r.cell.phase with
  | new =>
    rw [h] at w
    exact source .first h (.inl (congrArg Phase.state h)) w
  | stopped =>
    rw [h] at w
    exact source .again h (.inr (congrArg Phase.state h)) w
  | active =>
    rw [h] at w
    exact tabled_of_ended (.startActive (congrArg Phase.state h)) ((Move.fetch.runs_iff rfl).1 w)
  | closed =>
    rw [h] at w
    exact tabled_of_ended (.startClosed (congrArg Phase.state h)) w
  | starting | stopping =>
    rw [h] at hp
    cases hp

/-- A stop wins the transition or finds that there is nothing to stop. -/
theorem tabled_of_performs_stop (hp : r.cell.phase.isSettled = true)
    (w : Performs b r .stop l x r') : Tabled b r .stop l x r' := by
  rw [performs_look_iff (by decide) hp] at w
  cases h : r.cell.phase with
  | active =>
    rw [h] at w
    obtain ⟨result, hr, hl, hx⟩ := (runs_stop_iff h).1 w
    cases result with
    | ok _ => exact tabled_of_one (.stop (congrArg Phase.state h) hr) hl hx
    | error e => exact tabled_of_one (.stopFailed (congrArg Phase.state h) hr) hl hx
  | new =>
    rw [h] at w
    exact tabled_of_ended (.stopIdle (.inl (congrArg Phase.state h))) w
  | stopped =>
    rw [h] at w
    exact tabled_of_ended (.stopIdle (.inr (congrArg Phase.state h))) w
  | closed =>
    rw [h] at w
    exact tabled_of_ended (.stopClosed (congrArg Phase.state h)) w
  | starting | stopping =>
    rw [h] at hp
    cases hp

/-- A recording either has data on the target or has not. -/
theorem hasRemoteData_cases (s : State) :
    (s.hasRemoteData = true ∧ (s = .active ∨ s = .stopped)) ∨
      (s.hasRemoteData = false ∧ (s = .new ∨ s = .closed)) := by
  cases s <;> decide

theorem tabled_of_performs_dump {path : String} (hp : r.cell.phase.isSettled = true)
    (w : Performs b r (.dump path) l x r') : Tabled b r (.dump path) l x r' := by
  rw [performs_look_iff (by simp) hp, afterLook] at w
  rcases hasRemoteData_cases r.cell.phase.state with ⟨hd, hs⟩ | ⟨hd, hs⟩
  · rw [if_pos hd] at w
    obtain ⟨result, hr, hl, hx⟩ := runs_dump_iff.1 w
    exact tabled_of_one (.dump hs hr) hl hx
  · rw [hd] at w
    exact tabled_of_ended (.dumpRefused hs) w

theorem tabled_of_performs_clone {andStop : Bool} (hp : r.cell.phase.isSettled = true)
    (w : Performs b r (.clone andStop) l x r') : Tabled b r (.clone andStop) l x r' := by
  rw [performs_look_iff (by simp) hp, afterLook] at w
  rcases hasRemoteData_cases r.cell.phase.state with ⟨hd, hs⟩ | ⟨hd, hs⟩
  · rw [if_pos hd] at w
    obtain ⟨result, hr, hl, hx⟩ := runs_clone_iff.1 w
    cases result with
    | ok id => exact tabled_of_one (.clone hs hr) hl hx
    | error e => exact tabled_of_one (.cloneFailed hs hr) hl hx
  · rw [hd] at w
    exact tabled_of_ended (.cloneRefused hs) w

theorem tabled_of_performs_openStream {start stop : Option Instant} {blockSize : Option Int64}
    (hp : r.cell.phase.isSettled = true)
    (w : Performs b r (.openStream start stop blockSize) l x r') :
    Tabled b r (.openStream start stop blockSize) l x r' := by
  rw [performs_look_iff (by simp) hp, afterLook] at w
  by_cases h : r.cell.phase = .stopped
  · rw [if_pos h] at w
    obtain ⟨result, hr, hl, hx⟩ := runs_openStream_iff.1 w
    exact tabled_of_one (.openStream (congrArg Phase.state h) hr) hl hx
  · -- In a settled phase the state tells the phase.
    rw [if_neg h] at w
    refine tabled_of_ended (.openStreamRefused fun hs => h ?_) w
    rw [phase_of_state hp, hs]
    rfl

/-- A close always succeeds. On an active recording it asks for a stop and, if that succeeds, for
the release, and what becomes of these requests is not reported. -/
theorem tabled_of_performs_close (hp : r.cell.phase.isSettled = true)
    (w : Performs b r .close l x r') : Tabled b r .close l x r' := by
  rw [Performs, ← runs_begun_iff, Move.close.runs_iff rfl] at w
  have idle (hs : r.state ≠ .active)
      (w : Runs b (r.setPhase .closed) (ended finished) l r' (.returned x)) :
      Tabled b r .close l x r' := by
    obtain ⟨rfl, hx⟩ := runs_returned_iff.1 w
    obtain ⟨rfl, rfl⟩ := Prod.mk.inj hx
    exact ⟨[], rfl, .closeIdle hs⟩
  cases h : r.cell.phase with
  | active =>
    have hs : r.state = .active := congrArg Phase.state h
    rw [h] at w
    obtain ⟨hx, ⟨e, hr, rfl⟩ | ⟨result, hr, hc, rfl⟩⟩ := runs_release_iff.1 w
    · exact tabled_of_one (.closeUnstoppable hs hr) rfl hx
    · obtain ⟨rfl, rfl⟩ := Prod.mk.inj hx
      exact ⟨_, rfl, .closeActive hs hr hc⟩
  | new | stopped | closed =>
    rw [h] at w
    exact idle (by simp [state, h, Phase.state]) w
  | starting | stopping =>
    rw [h] at hp
    cases hp

/-- Whatever an operation does is a row of the table. -/
theorem Performs.tabled (hp : r.cell.phase.isSettled = true) (w : Performs b r op l x r') :
    Tabled b r op l x r' := by
  cases op with
  | start => exact tabled_of_performs_start hp w
  | stop => exact tabled_of_performs_stop hp w
  | dump path => exact tabled_of_performs_dump hp w
  | clone andStop => exact tabled_of_performs_clone hp w
  | openStream start stop blockSize => exact tabled_of_performs_openStream hp w
  | close => exact tabled_of_performs_close hp w

/-- Every row can be performed. -/
theorem Row.performs (hp : r.cell.phase.isSettled = true) (row : Row b r op reports x r') :
    Performs b r op (reports.flatMap Report.talk) x r' := by
  have phase {s : State} (hs : r.state = s) : r.cell.phase = .ofState s := hs ▸ phase_of_state hp
  -- A start can be won from either source, and the runs from there are the same.
  have start (hs : r.state = .new ∨ r.state = .stopped)
      (w : ∀ launch : Launch, r.cell.phase = launch.source →
        Runs b r (claiming (.start launch)) (reports.flatMap Report.talk) r' (.returned x)) :
      Performs b r .start (reports.flatMap Report.talk) x r' := by
    rw [performs_look_iff (by decide) hp]
    rcases hs with hs | hs
    · rw [phase hs]
      exact w .first (phase hs)
    · rw [phase hs]
      exact w .again (phase hs)
  have data (hs : r.state = .active ∨ r.state = .stopped) :
      r.cell.phase.state.hasRemoteData = true := by
    rw [← state]
    rcases hs with hs | hs <;> rw [hs] <;> rfl
  have noData (hs : r.state = .new ∨ r.state = .closed) :
      ¬ r.cell.phase.state.hasRemoteData = true := by
    rw [← state]
    rcases hs with hs | hs <;> rw [hs] <;> decide
  cases row with
  | start hs h => exact start hs fun launch hl => (runs_start_iff hl).2 ⟨_, h, rfl, rfl⟩
  | startFailed hs h => exact start hs fun launch hl => (runs_start_iff hl).2 ⟨_, h, rfl, rfl⟩
  | startActive hs =>
    rw [performs_look_iff (by decide) hp, phase hs]
    exact (Move.fetch.runs_iff rfl).2 (runs_returned_iff.2 ⟨rfl, rfl⟩)
  | startClosed hs =>
    rw [performs_look_iff (by decide) hp, phase hs]
    exact runs_returned_iff.2 ⟨rfl, rfl⟩
  | stop hs h =>
    rw [performs_look_iff (by decide) hp, phase hs]
    exact (runs_stop_iff (phase hs)).2 ⟨_, h, rfl, rfl⟩
  | stopFailed hs h =>
    rw [performs_look_iff (by decide) hp, phase hs]
    exact (runs_stop_iff (phase hs)).2 ⟨_, h, rfl, rfl⟩
  | stopIdle hs =>
    rw [performs_look_iff (by decide) hp]
    rcases hs with hs | hs <;> rw [phase hs] <;> exact runs_returned_iff.2 ⟨rfl, rfl⟩
  | stopClosed hs =>
    rw [performs_look_iff (by decide) hp, phase hs]
    exact runs_returned_iff.2 ⟨rfl, rfl⟩
  | dump hs h =>
    rw [performs_look_iff (by simp) hp, afterLook, if_pos (data hs)]
    exact runs_dump_iff.2 ⟨_, h, rfl, rfl⟩
  | dumpRefused hs =>
    rw [performs_look_iff (by simp) hp, afterLook, if_neg (noData hs)]
    exact runs_returned_iff.2 ⟨rfl, rfl⟩
  | clone hs h =>
    rw [performs_look_iff (by simp) hp, afterLook, if_pos (data hs)]
    exact runs_clone_iff.2 ⟨_, h, rfl, rfl⟩
  | cloneFailed hs h =>
    rw [performs_look_iff (by simp) hp, afterLook, if_pos (data hs)]
    exact runs_clone_iff.2 ⟨_, h, rfl, rfl⟩
  | cloneRefused hs =>
    rw [performs_look_iff (by simp) hp, afterLook, if_neg (noData hs)]
    exact runs_returned_iff.2 ⟨rfl, rfl⟩
  | openStream hs h =>
    rw [performs_look_iff (by simp) hp, afterLook,
      if_pos (show r.cell.phase = .stopped from phase hs)]
    exact runs_openStream_iff.2 ⟨_, h, rfl, rfl⟩
  | openStreamRefused hs =>
    rw [performs_look_iff (by simp) hp, afterLook, if_neg fun h => hs (by rw [state, h]; rfl)]
    exact runs_returned_iff.2 ⟨rfl, rfl⟩
  | closeActive hs h hc =>
    rw [Performs, ← runs_begun_iff, Move.close.runs_iff rfl, phase hs]
    exact runs_release_iff.2 ⟨rfl, .inr ⟨_, h, hc, rfl⟩⟩
  | closeUnstoppable hs h =>
    rw [Performs, ← runs_begun_iff, Move.close.runs_iff rfl, phase hs]
    exact runs_release_iff.2 ⟨rfl, .inl ⟨_, h, rfl⟩⟩
  | closeIdle hs =>
    rw [Performs, ← runs_begun_iff, Move.close.runs_iff rfl, phase_of_state hp]
    cases h : r.state with
    | active => exact (hs h).elim
    | new | stopped | closed => exact runs_returned_iff.2 ⟨rfl, rfl⟩

/-- The table is exact for one operation on a recording in a settled phase. -/
theorem performs_iff_tabled (hp : r.cell.phase.isSettled = true) :
    Performs b r op l x r' ↔ Tabled b r op l x r' := by
  constructor
  · exact Performs.tabled hp
  · rintro ⟨reports, rfl, row⟩
    exact row.performs hp

end One

/-! ## Sequences of operations

Between the operations of a sequence the recording is settled, so the table can be used again, and
so it is for clones, which begin a life of their own. -/

/-- A row leaves the recording in a settled phase. -/
theorem Row.settled (row : Row b r op reports x r') (hp : r.cell.phase.isSettled = true) :
    r'.cell.phase.isSettled = true := by
  cases row with
  | start | stop | closeActive | closeUnstoppable | closeIdle => rfl
  | _ => exact hp

theorem Tabled.settled (h : Tabled b r op l x r') (hp : r.cell.phase.isSettled = true) :
    r'.cell.phase.isSettled = true := by
  obtain ⟨reports, -, row⟩ := h
  exact row.settled hp

/-- The clone of a row is a recording that nobody has worked on. -/
theorem Row.born {clone : Recording} (row : Row b r op reports (.ok (.cloned clone)) r') :
    ∃ id, Born clone (some id) := by
  generalize hx : Except.ok (Yield.cloned clone) = x at row
  cases row with
  | @clone andStop id hs h =>
    obtain rfl : clone = r.copy id (if andStop then .stopped else r.state) :=
      Yield.cloned.inj (Except.ok.inj hx)
    refine ⟨id, .cloned r id ?_⟩
    cases andStop with
    | true => rfl
    | false => rcases hs with hs | hs <;> simp [hs, State.hasRemoteData]
  | @dump path result hs h => cases result <;> cases hx
  | @openStream start stop blockSize result hs h => cases result <;> cases hx
  | _ => cases hx

/-- A recording that nobody has worked on is settled, so the table applies to its first
operation. -/
theorem Born.settled {given : Option SessionId} (h : Born r given) :
    r.cell.phase.isSettled = true := by
  rcases h.phase with hp | ⟨hp | hp, -⟩ <;> rw [hp] <;> rfl

/-- An operation of a sequence, with what it said and how it ended. -/
structure Act where
  operation : Operation
  remarks : List Remark
  result : Except Error Yield

/-- Operations one after the other. -/
inductive Sequence (one : Recording → Act → Recording → Prop) :
    Recording → List Act → Recording → Prop where
  | nil (r : Recording) : Sequence one r [] r
  | cons {r r₁ r' : Recording} {act : Act} {acts : List Act} (h : one r act r₁)
      (hs : Sequence one r₁ acts r') : Sequence one r (act :: acts) r'

/-- The operation of an act, performed with nobody else around. -/
def Act.Performed (b : Backend) (r : Recording) (act : Act) (r' : Recording) : Prop :=
  Performs b r act.operation act.remarks act.result r'

/-- An act that does what a row of the table says. -/
def Act.Tabled (b : Backend) (r : Recording) (act : Act) (r' : Recording) : Prop :=
  Recording.Tabled b r act.operation act.remarks act.result r'

variable {acts : List Act}

/-- A sequence of rows leaves the recording in a settled phase. -/
theorem Sequence.settled (hs : Sequence (Act.Tabled b) r acts r')
    (hp : r.cell.phase.isSettled = true) : r'.cell.phase.isSettled = true := by
  induction hs with
  | nil r => exact hp
  | cons h _ ih => exact ih (Recording.Tabled.settled h hp)

/-- From a settled phase the operations of a sequence do what the table says, and the other
way round. -/
theorem sequence_performed_iff (hp : r.cell.phase.isSettled = true) :
    Sequence (Act.Performed b) r acts r' ↔ Sequence (Act.Tabled b) r acts r' := by
  constructor
  · intro hs
    induction hs with
    | nil r => exact .nil r
    | cons h _ ih =>
      -- The row leaves a settled phase behind, where the next operation begins.
      have row := (performs_iff_tabled hp).1 h
      exact .cons row (ih (row.settled hp))
  · intro hs
    induction hs with
    | nil r => exact .nil r
    | cons h _ ih =>
      exact .cons ((performs_iff_tabled hp).2 h) (ih (Recording.Tabled.settled h hp))

theorem Sequence.born (hs : Sequence (Act.Tabled b) r acts r') {act : Act} (ha : act ∈ acts)
    {clone : Recording} (hc : act.result = .ok (.cloned clone)) : ∃ id, Born clone (some id) := by
  induction hs with
  | nil => cases ha
  | cons h _ ih =>
    rcases List.mem_cons.1 ha with rfl | ha
    · obtain ⟨reports, -, row⟩ := h
      rw [hc] at row
      exact row.born
    · exact ih ha

/-- What holds of the sequences of operations on a recording that nobody has worked on. -/
structure FollowsTable (b : Backend) (r : Recording) : Prop where
  /-- They are the sequences of rows. -/
  exact : ∀ acts r',
    Sequence (Act.Performed b) r acts r' ↔ Sequence (Act.Tabled b) r acts r'
  /-- The next operation can always get to a result, however far it has come and whatever
  has been replied to it. -/
  completes : ∀ acts r', Sequence (Act.Performed b) r acts r' →
    ∀ (op : Operation) (l : List Remark) (r₁ : Recording) (c : Caller),
      Solo b r' (.begun op) l r₁ c → Uncut l → c.Completes b r₁
  /-- The same goes for the clones. -/
  clones : ∀ acts r', Sequence (Act.Performed b) r acts r' → ∀ act ∈ acts, ∀ clone : Recording,
    act.result = .ok (.cloned clone) → ∃ id, Born clone (some id)

/-- Operations one after the other do what the lifecycle table says. -/
theorem sequences_follow_table {given : Option SessionId} (h : Born r given) :
    FollowsTable b r := by
  constructor
  · exact fun acts r' => sequence_performed_iff h.settled
  · intro acts r' hs op l r₁ c w hl
    have hp := ((sequence_performed_iff h.settled).1 hs).settled h.settled
    exact (Caller.free_of_solo w (.inr hp) hl).completes
  · intro acts r' hs act ha clone hc
    exact ((sequence_performed_iff h.settled).1 hs).born ha hc

/-- The table holds for a clone of a running session, which has never been started itself. -/
theorem sequences_follow_table_clone :
    Born ((create {} .profile 50000).copy ⟨7⟩ .active) (some ⟨7⟩) ∧
      FollowsTable (.structured Generation.structured.objectName)
        ((create {} .profile 50000).copy ⟨7⟩ .active) := by
  have h : Born ((create {} .profile 50000).copy ⟨7⟩ .active) (some ⟨7⟩) := .cloned _ ⟨7⟩ rfl
  exact ⟨h, sequences_follow_table h⟩

end RemoteRecorder.Recording
