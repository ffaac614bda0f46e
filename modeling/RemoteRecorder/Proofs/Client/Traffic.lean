import RemoteRecorder.Proofs.Client.Fleet
import RemoteRecorder.Proofs.Client.Turn
import RemoteRecorder.Proofs.Stream

/-!
# RemoteRecorder.Proofs.Client.Traffic

**All that goes on in a client**: the steps that users begin, the tasks that come of them,
and what goes over the wire.

* A `Traffic` is a client, its tasks in the order in which they were begun, and a log.
  `Traffic.play` runs a schedule, which says what happens next.
* Operations on one recording run one at a time. But a recording may be closed or given up
  while a remote call about it is under way (`Traffic.admits`).
* Whatever happens is a step of the fleet of the client's recordings (`step_fleet`).
-/

namespace RemoteRecorder

open Recording (Caller)

namespace Client

/-! ## What others see of a task

A task is seen here in two ways only: which recording it works on and as which caller
(`Task.seat?`), and what it puts on the wire. What it does besides, such as keeping the answers of
its step, is invisible to the other tasks. -/

namespace Task

/-- The beginning of the call that a task has got to. -/
def arrival (t : Task) : List Signal := t.pending?.toList.map .began

/-- What goes over the wire in a turn of a task. -/
def signals (task : Task) (t : Caller.Turn) (task' : Task) : List Signal :=
  t.signals task.pending? task'.pending?

/-- Whether a task works on a recording or makes no calls about sessions. -/
def IsPlain : Task → Prop
  | direct _ => False
  | stream _ _ rest => rest.AllCalls Call.IsForeign
  | _ => True

end Task

end Client

open Client (Task)

/-! ## Schedules

Users and the target decide together what happens next, and nothing is assumed of either. A schedule
is any list of events; if one of them cannot happen where it stands, the whole schedule comes to
nothing, so all that is proved of `Traffic.play` holds of every course that things can take. -/

/-- A client, the tasks that have been begun in it, and what has gone over the wire. -/
structure Traffic where
  client : Client
  tasks : List Task := []
  log : List Signal := []

namespace Traffic

/-- A client that has just been connected to a target with a recorder object. -/
def opened (object : ObjectName) (settings : Settings) : Traffic where
  client := { connection := { backend := .structured object, settings } }

/-- What happens next. -/
inductive Event where
  /-- A user begins a step. -/
  | begin (step : Client.Step)
  | turn (task : Nat) (turn : Caller.Turn)

/-- Whether no task works on a recording. -/
def isIdle (s : Traffic) (i : Nat) : Bool :=
  s.tasks.all fun t => t.seat?.all fun seat => seat.1 != i

/-- Whether a remote call of a task that works on a recording is under way. -/
def isCalling (s : Traffic) (i : Nat) : Bool :=
  s.tasks.any fun t => t.seat?.any fun seat => seat.1 == i && seat.2.pending?.isSome

/-- Whether a step may begin. Whoever works on a recording has it to himself, except that it
may be closed and given up during a remote call. The backend is left to the recordings. -/
def admits (s : Traffic) : Client.Step → Bool
  | .operate i .close | .drop i => s.isIdle i || s.isCalling i
  | .operate i _ => s.isIdle i
  | .direct _ => false
  | _ => true

/-- The traffic after an event, if that can happen. -/
def step? (s : Traffic) : Event → Option Traffic
  | .begin step =>
    if s.admits step then
      let (client, task) := s.client.begin step
      some ⟨client, s.tasks ++ [task], s.log ++ task.arrival⟩
    else none
  | .turn k t => do
    let task ← s.tasks[k]?
    let (client, task') ← s.client.take? task t
    return ⟨client, s.tasks.set k task', s.log ++ task.signals t task'⟩

/-- Runs a schedule. -/
def play : Traffic → List Event → Option Traffic
  | s, [] => some s
  | s, e :: schedule => do
    let s ← s.step? e
    s.play schedule

/-- The recordings of the client, and the tasks that work on them. -/
def fleet (s : Traffic) : Fleet := ⟨s.client.contents, s.tasks.map Task.seat?, s.log⟩

/-- Whether a client speaks to a certain backend and leaves its sessions to the recordings. -/
structure IsPlain (b : Backend) (s : Traffic) : Prop where
  backend : s.client.connection.backend = b
  tasks : ∀ t ∈ s.tasks, t.IsPlain

end Traffic

/-! ## Beginning

A user may begin any step at any time, but for the fleet there are two kinds of steps. Either
somebody comes to work on a recording, or nothing happens to the recordings that are there. In the
second case a new one may come into being, which has no session yet. -/

namespace Client

/-- What can come of a step that a user begins: the client and the task after it. -/
inductive Begun (c : Client) (step : Step) : Client × Task → Prop where
  /-- Work on a recording. -/
  | work {i op c' task} (hstep : step = .operate i op ∨ step = .drop i ∧ op = .close)
      (hi : i < c.contents.length) (hconn : c'.connection = c.connection)
      (hc : c'.contents = c.contents) (hseat : task.seat? = some (i, .begun op)) :
      Begun c step (c', task)
  /-- Anything else. There may be a new recording. -/
  | aside {added c' task} (hconn : c'.connection = c.connection)
      (hc : c'.contents = c.contents ++ added) (hadd : ∀ r ∈ added, r.cell = ⟨.new, .unassigned⟩)
      (hseat : task.seat? = none) (hplain : task.IsPlain) : Begun c step (c', task)

variable {c c' : Client} {i : Nat} {task task' : Task} {step : Step}

/-- A step that leaves the recordings alone. -/
theorem Begun.idle (hconn : c'.connection = c.connection) (hc : c'.contents = c.contents)
    (hseat : task.seat? = none) (hplain : task.IsPlain) : Begun c step (c', task) := by
  rw [← List.append_nil c.contents] at hc
  exact .aside hconn hc (by simp) hseat hplain

/-- What is left to do after the user or a task has parted from a recording. -/
theorem afterParting_seat? (c : Client) (i : Nat) (answer : Answer) :
    (c.afterParting i answer).IsPlain ∧ (c.afterParting i answer).pending? = none ∧
      ((c.afterParting i answer).seat? = none ∨
        (c.afterParting i answer).seat? = some (i, .begun .close)) := by
  unfold afterParting
  split
  · exact ⟨trivial, rfl, .inr rfl⟩
  · exact ⟨trivial, rfl, .inl rfl⟩

theorem drop_begun (hi : i < c.contents.length) : Begun c (.drop i) (c.drop i) := by
  obtain ⟨hplain, -, hseat | hseat⟩ := (c.releaseRecording i).afterParting_seat? i .done
  · exact .idle rfl contents_releaseRecording hseat hplain
  · exact .work (.inr ⟨rfl, rfl⟩) hi rfl contents_releaseRecording hseat

/-- Whatever comes of a step is of one of the two kinds. Direct requests are left out: they go to the
backend behind the recordings' backs. -/
theorem Outset.begun (h : Outset c step c' task) (hd : ∀ request, step ≠ .direct request) :
    Begun c step (c', task) := by
  cases h with
  | answered | misplanned => exact .idle rfl rfl rfl trivial
  | created =>
    -- A new recording has not been started, and so it has no session.
    refine .aside rfl contents_addRecording (fun r hr => ?_) rfl trivial
    obtain rfl := List.mem_singleton.1 hr
    rfl
  | operate hr => exact .work (.inl rfl) (lt_of_recording? hr) rfl contents_enterRecording rfl
  | drop hr => exact drop_begun (lt_of_recording? hr)
  | @read i size s => exact .idle rfl rfl rfl (s.read_isForeign size)
  | @readAll i s => exact .idle rfl rfl rfl s.readBlock_isForeign
  | @closeStream i s => exact .idle rfl rfl rfl s.close_isForeign
  | @dropStream i s => exact .idle rfl rfl rfl s.abandon_isForeign
  | @direct request => exact (hd request rfl).elim

/-! ## Turns

A turn is likewise of one of three kinds: a caller moves, a caller has come to its end and its task
parts from the recording, or the task has nothing to do with recordings. -/

/-- What can come of a turn of a task: the client and the task after it. -/
inductive Turned (c : Client) (task : Task) (t : Caller.Turn) : Client × Task → Prop where
  /-- A step of a caller of a recording. -/
  | move {i caller caller' r r' c' task'} (hseat : task.seat? = some (i, caller))
      (hr : c.contents[i]? = some r) (m : caller.Move c.connection.backend r t r' caller')
      (hconn : c'.connection = c.connection) (hc : c'.contents = c.contents.set i r')
      (hseat' : task'.seat? = some (i, caller')) : Turned c task t (c', task')
  /-- Parting from a recording. -/
  | depart {i o added c' task'} (hseat : task.seat? = some (i, .ended o))
      (hadd : added.Sublist (Recording.made o)) (hconn : c'.connection = c.connection)
      (hc : c'.contents = c.contents ++ added)
      (hseat' : task'.seat? = none ∨ task'.seat? = some (i, .begun .close))
      (hplain : task'.IsPlain) (hsignals : task.signals t task' = []) : Turned c task t (c', task')
  /-- Something that has nothing to do with recordings. -/
  | aside {c' : Client} {task' : Task} (hseat : task.seat? = none)
      (hconn : c'.connection = c.connection) (hc : c'.contents = c.contents)
      (hseat' : task'.seat? = none) (hplain : task'.IsPlain) : Turned c task t (c', task')

/-- What a caller has brought is kept: a clone goes into a slot of its own, and all else is no
recording. -/
theorem conclude_contents (result : Except Error Recording.Yield) :
    (c.conclude result).1.connection = c.connection ∧
      (c.conclude result).1.contents = c.contents ++ Recording.made (.returned result) := by
  cases result with
  | error e => exact ⟨rfl, (List.append_nil _).symm⟩
  | ok made =>
    cases made with
    | cloned clone => exact ⟨rfl, contents_addRecording⟩
    | _ => exact ⟨rfl, (List.append_nil _).symm⟩

/-- Nothing goes over the wire where no call is waited for. -/
theorem signals_of_quiet {t : Caller.Turn} (h : task.pending? = none) (h' : task'.pending? = none) :
    task.signals t task' = [] := by
  rw [Task.signals, h, h']
  cases t <;> rfl

/-- A task that parts from its recording hands over what the caller has brought. It may be the last
to hold the recording, and then it comes back to close it. -/
theorem depart_turned (o : Outcome Recording.Yield) :
    Turned c (.recording i (.ended o)) .act (c.depart i o) := by
  cases o with
  | returned result =>
    obtain ⟨hconn, hc⟩ := conclude_contents (c := c) result
    obtain ⟨hplain, hp, hseat⟩ :=
      ((c.conclude result).1.leaveRecording i).afterParting_seat? i (c.conclude result).2
    exact .depart rfl (.refl _) hconn (contents_leaveRecording.trans hc) hseat hplain
      (signals_of_quiet rfl hp)
  | unwound text =>
    obtain ⟨hplain, hp, hseat⟩ := (c.leaveRecording i).afterParting_seat? i (.unwound text)
    exact .depart rfl (.refl _) rfl (contents_leaveRecording.trans (List.append_nil _).symm) hseat
      hplain (signals_of_quiet rfl hp)

/-- What follows a chore has nothing to do with recordings. -/
theorem afterChore_seat? (chore : Chore) (result : Except Error chore.Brings) :
    (c.afterChore i chore result).seat? = none ∧ (c.afterChore i chore result).IsPlain := by
  unfold afterChore
  split
  -- Only a task that reads all goes on to the next block.
  all_goals try exact ⟨rfl, trivial⟩
  split
  · exact ⟨rfl, trivial⟩
  · exact ⟨rfl, Stream.readBlock_isForeign _⟩

/-- Every turn is of one of the three kinds. A request that a user makes directly is left out, as
above. -/
theorem Advance.turned {t : Caller.Turn} (h : Advance c task t c' task') (hplain : task.IsPlain) :
    Turned c task t (c', task') := by
  -- A farewell makes nothing that would be kept.
  have keep : c.contents = c.contents ++ [] := (List.append_nil _).symm
  cases h with
  | move hr m => exact .move rfl hr m rfl contents_setRecording rfl
  | depart => exact depart_turned _
  | farewell hr m => exact .move rfl hr m rfl contents_setRecording rfl
  | part => exact .depart rfl (List.nil_sublist _) rfl keep (.inl rfl) trivial rfl
  | partUnwound => exact .depart rfl (List.nil_sublist _) rfl keep (.inl rfl) trivial rfl
  | conclude | directNote | directReply | directCut => exact hplain.elim
  | @finish i chore result =>
    obtain ⟨hseat, hp⟩ := c.afterChore_seat? chore result
    exact .aside rfl rfl rfl hseat hp
  | streamNote | streamKeep => exact .aside rfl rfl rfl rfl hplain
  | streamReply reply => exact .aside rfl rfl rfl rfl (hplain.2 reply)
  | streamCut text => exact .aside rfl rfl rfl rfl trivial

/-! ## Signals

Streams make calls as well, but these name no session. Whatever a task without a recording puts on
the wire therefore counts for nothing in the books that are kept about sessions. -/

theorem Task.isPlain_of_seat? {seat : Nat × Caller} (h : task.seat? = some seat) :
    task.IsPlain := by
  obtain rfl | ⟨answer, rfl⟩ := seat?_eq_some_iff.1 h <;> trivial

theorem Task.pending?_of_seat? {x : Caller} (h : task.seat? = some (i, x)) :
    task.pending? = x.pending? := by
  obtain rfl | ⟨answer, rfl⟩ := seat?_eq_some_iff.1 h <;> rfl

/-- Calls of tasks that do not work on a recording are about no session. -/
theorem Task.IsPlain.isForeign {request : Call} (h : task.IsPlain) (hseat : task.seat? = none)
    (hp : task.pending? = some request) : request.IsForeign := by
  cases task with
  | stream i chore rest =>
    cases rest with
    | call request' next =>
      obtain rfl := Option.some.inj hp
      exact h.1
    | _ => cases hp
  | recording i x => cases hseat
  | farewell i x answer => cases hseat
  | direct rest => exact h.elim
  | ended answer => cases hp

theorem foreign_arrival (h : task.IsPlain) (hseat : task.seat? = none) : Foreign task.arrival :=
  foreign_map (fun _ => h.isForeign hseat) fun _ => rfl

/-- A task that works on no recording, before and after its turn, is quiet about sessions. -/
theorem foreign_signals {t : Caller.Turn} (h : task.IsPlain) (hseat : task.seat? = none)
    (h' : task'.IsPlain) (hseat' : task'.seat? = none) : Foreign (task.signals t task') := by
  have after : Foreign task'.arrival := foreign_arrival h' hseat'
  cases t with
  | act => exact after
  | reply reply => exact (foreign_map (fun _ => h.isForeign hseat) fun _ => rfl).append after
  | unwind text => exact (foreign_map (fun _ => h.isForeign hseat) fun _ => rfl).append after

end Client

/-! ## Steps of the fleet

All that has been said above of clients and tasks comes together in `step_fleet`. From here on a
proof about sessions need not look at a client again: it has a fleet that takes steps. -/

namespace Traffic

variable {b : Backend} {s s' : Traffic} {i k : Nat} {e : Event}

theorem caller?_fleet {x : Caller} :
    s.fleet.caller? i k = some x ↔ ∃ t, s.tasks[k]? = some t ∧ t.seat? = some (i, x) := by
  rw [Fleet.caller?_eq_some_iff, fleet, List.getElem?_map, Option.map_eq_some_iff]

/-- What a schedule checks before it lets somebody come is what the fleet means by an idle
recording. -/
theorem idle_of_isIdle (h : s.isIdle i = true) : s.fleet.Idle i := by
  intro k
  rw [Option.eq_none_iff_forall_ne_some]
  intro x hx
  obtain ⟨t, ht, hseat⟩ := caller?_fleet.1 hx
  have here := List.all_eq_true.1 h t (List.mem_of_getElem? ht)
  simp [hseat] at here

theorem calling_of_isCalling (h : s.isCalling i = true) : s.fleet.Calling i := by
  obtain ⟨t, ht, hany⟩ := List.any_eq_true.1 h
  obtain ⟨k, hk⟩ := List.mem_iff_getElem?.1 ht
  obtain ⟨⟨j, x⟩, hseat, hx⟩ := (Option.any_eq_true _ _).1 hany
  obtain ⟨rfl, hp⟩ : j = i ∧ x.pending?.isSome = true := by simpa using hx
  exact ⟨k, x, caller?_fleet.2 ⟨t, hk, hseat⟩, Option.isSome_iff_ne_none.1 hp⟩

/-- Who begins to work on a recording finds it idle, or comes to close it during a call. -/
theorem comes_of_admits {step : Client.Step} {op : Recording.Operation} (h : s.admits step = true)
    (hstep : step = .operate i op ∨ step = .drop i ∧ op = .close) :
    s.fleet.Idle i ∨ op = .close ∧ s.fleet.Calling i := by
  have either (h : (s.isIdle i || s.isCalling i) = true) : s.fleet.Idle i ∨ s.fleet.Calling i :=
    (Bool.or_eq_true_iff.1 h).imp idle_of_isIdle calling_of_isCalling
  rcases hstep with rfl | ⟨rfl, rfl⟩
  · cases op with
    | close => exact (either h).imp_right fun calling => ⟨rfl, calling⟩
    | _ => exact .inl (idle_of_isIdle h)
  · exact (either h).imp_right fun calling => ⟨rfl, calling⟩

theorem step?_begin {step : Client.Step} (h : s.step? (.begin step) = some s') :
    s.admits step = true ∧ ∃ client task, s.client.begin step = (client, task) ∧
      s' = ⟨client, s.tasks ++ [task], s.log ++ task.arrival⟩ := by
  by_cases ha : s.admits step = true
  · rw [step?, if_pos ha] at h
    exact ⟨ha, _, _, rfl, (Option.some.inj h).symm⟩
  · rw [step?, if_neg ha] at h
    cases h

theorem step?_turn {t : Caller.Turn} (h : s.step? (.turn k t) = some s') :
    ∃ task client task', s.tasks[k]? = some task ∧ s.client.take? task t = some (client, task') ∧
      s' = ⟨client, s.tasks.set k task', s.log ++ task.signals t task'⟩ := by
  obtain ⟨task, hk, h⟩ := Option.bind_eq_some_iff.1 h
  obtain ⟨⟨client, task'⟩, ht, h⟩ := Option.bind_eq_some_iff.1 h
  exact ⟨task, client, task', hk, ht, (Option.some.inj h).symm⟩

/-- A turn of a task that works on no recording, before and after it. -/
theorem fleet_of_aside {task task' : Task} {c' : Client} (hseat : task.seat? = none)
    (hc : c'.contents = s.client.contents) (hseat' : task'.seat? = none)
    (hk : s.tasks[k]? = some task) (signals : List Signal) :
    fleet ⟨c', s.tasks.set k task', s.log ++ signals⟩ =
      ⟨s.fleet.recordings ++ [], s.fleet.seats, s.fleet.log ++ signals⟩ := by
  -- A seat that was empty stays so.
  have same : s.fleet.seats.set k none = s.fleet.seats := by
    have seat : s.fleet.seats[k]? = some none := by simp [fleet, hk, hseat]
    obtain ⟨hlt, hget⟩ := List.getElem?_eq_some_iff.1 seat
    rw [← hget, List.set_getElem_self]
  rw [List.append_nil, ← same]
  simp only [fleet, hc, List.map_set, hseat']

/-- What a step that a user begins does to the fleet: somebody comes to work on a recording, or
something goes on that has nothing to do with sessions. -/
theorem begun_fleet {step : Client.Step} {c' : Client} {task : Task}
    (hd : ∀ request, step ≠ .direct request) (hb : s.client.begin step = (c', task)) :
    c'.connection = s.client.connection ∧ task.IsPlain ∧
      ((∃ i op, (step = .operate i op ∨ step = .drop i ∧ op = .close) ∧
        i < s.fleet.recordings.length ∧
        fleet ⟨c', s.tasks ++ [task], s.log ++ task.arrival⟩ =
          ⟨s.fleet.recordings, s.fleet.seats ++ [some (i, .begun op)], s.fleet.log⟩) ∨
      ∃ added, (∀ r ∈ added, r.cell = ⟨.new, .unassigned⟩) ∧ Foreign task.arrival ∧
        fleet ⟨c', s.tasks ++ [task], s.log ++ task.arrival⟩ =
          ⟨s.fleet.recordings ++ added, s.fleet.seats ++ [none], s.fleet.log ++ task.arrival⟩) := by
  have outset := s.client.begin_outset step
  rw [hb] at outset
  cases outset.begun hd with
  | @work i op _ _ hstep hi hconn hc hseat =>
    have harr : task.arrival = [] := by
      rw [Task.arrival, Task.pending?_of_seat? hseat]
      rfl
    exact ⟨hconn, Task.isPlain_of_seat? hseat,
      .inl ⟨i, op, hstep, hi, by simp [fleet, hc, hseat, harr]⟩⟩
  | @aside added _ _ hconn hc hadd hseat hplain =>
    exact ⟨hconn, hplain,
      .inr ⟨added, hadd, Client.foreign_arrival hplain hseat, by simp [fleet, hc, hseat]⟩⟩

/-- Beginning a step is a step of the fleet. -/
theorem begin_fleet {step : Client.Step} (q : s.IsPlain b)
    (h : s.step? (.begin step) = some s') : s'.IsPlain b ∧ Fleet.Step b s.fleet s'.fleet := by
  obtain ⟨ha, c', task, hb, rfl⟩ := step?_begin h
  have hd (request : Client.DirectRequest) : step ≠ .direct request := by
    rintro rfl
    cases ha
  obtain ⟨hconn, hplain, hf⟩ := begun_fleet hd hb
  refine ⟨⟨hconn ▸ q.backend, List.forall_mem_append.2 ⟨q.tasks, by simpa using hplain⟩⟩, ?_⟩
  rcases hf with ⟨i, op, hstep, hi, he⟩ | ⟨added, hadd, hl, he⟩
  · rw [he]
    exact .enter hi (comes_of_admits ha hstep)
  · rw [he]
    exact .aside hadd (.inr rfl) hl

/-- What a turn of a task does to the fleet. -/
theorem turned_fleet {t : Caller.Turn} {task task' : Task} {c' : Client}
    (hk : s.tasks[k]? = some task) (hp : task.IsPlain)
    (hi : ∀ i k x, s.fleet.caller? i k = some x → i < s.fleet.recordings.length)
    (ht : s.client.take? task t = some (c', task')) :
    c'.connection = s.client.connection ∧ task'.IsPlain ∧
      Fleet.Step s.client.connection.backend s.fleet
        (fleet ⟨c', s.tasks.set k task', s.log ++ task.signals t task'⟩) := by
  have seat : s.fleet.seats[k]? = some task.seat? := by simp [fleet, hk]
  have advance := Client.advance_of_take?
    (fun i x hseat => hi i k x (caller?_fleet.2 ⟨task, hk, hseat⟩)) ht
  cases advance.turned hp with
  | @move i x x' r r' _ _ hseat hr m hconn hc hseat' =>
    have he : fleet ⟨c', s.tasks.set k task', s.log ++ task.signals t task'⟩ =
        ⟨s.fleet.recordings.set i r', s.fleet.seats.set k (some (i, x')),
          s.fleet.log ++ x.signals t x'⟩ := by
      simp only [fleet, hc, List.map_set, hseat', Task.signals, Caller.signals,
        Task.pending?_of_seat? hseat, Task.pending?_of_seat? hseat']
    rw [he]
    rw [hseat] at seat
    exact ⟨hconn, Task.isPlain_of_seat? hseat', .move seat hr m⟩
  | @depart i o added _ _ hseat hadd hconn hc hseat' hplain hsignals =>
    have he : fleet ⟨c', s.tasks.set k task', s.log ++ task.signals t task'⟩ =
        ⟨s.fleet.recordings ++ added, s.fleet.seats.set k task'.seat?, s.fleet.log⟩ := by
      simp only [fleet, hc, List.map_set, hsignals, List.append_nil]
    rw [he]
    rw [hseat] at seat
    exact ⟨hconn, hplain, .depart seat hadd hseat'⟩
  | aside hseat hconn hc hseat' hplain =>
    rw [fleet_of_aside hseat hc hseat' hk]
    exact ⟨hconn, hplain,
      .aside (by simp) (.inl rfl) (Client.foreign_signals hp hseat hplain hseat')⟩

/-- A turn of a task is a step of the fleet. -/
theorem turn_fleet {t : Caller.Turn} (q : s.IsPlain b)
    (hi : ∀ i k x, s.fleet.caller? i k = some x → i < s.fleet.recordings.length)
    (h : s.step? (.turn k t) = some s') : s'.IsPlain b ∧ Fleet.Step b s.fleet s'.fleet := by
  obtain ⟨task, c', task', hk, ht, rfl⟩ := step?_turn h
  obtain ⟨hconn, hplain, step⟩ := turned_fleet hk (q.tasks task (List.mem_of_getElem? hk)) hi ht
  -- The turn has been taken with the backend of the client, which is the one of the fleet.
  rw [q.backend] at step
  exact ⟨⟨hconn ▸ q.backend, fun t ht => (List.mem_or_eq_of_mem_set ht).elim (q.tasks t)
    fun h => h ▸ hplain⟩, step⟩

/-- Every event is a step of the fleet. The tasks stay plain, so this can be said of the next event
as well. -/
theorem step_fleet (q : s.IsPlain b)
    (hi : ∀ i k x, s.fleet.caller? i k = some x → i < s.fleet.recordings.length)
    (h : s.step? e = some s') : s'.IsPlain b ∧ Fleet.Step b s.fleet s'.fleet := by
  cases e with
  | begin step => exact begin_fleet q h
  | turn k t => exact turn_fleet q hi h

end Traffic

end RemoteRecorder
