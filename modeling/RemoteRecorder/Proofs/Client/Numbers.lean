import RemoteRecorder.Proofs.Client.Traffic
import RemoteRecorder.Proofs.Recording.Provenance

/-!
# RemoteRecorder.Proofs.Client.Numbers

**Whose numbers are in use**: a recording shows only numbers that the target has named, and so
do the answers to starts and to clones.

* Here nothing is forbidden. Steps begin in any order and run side by side (`Traffic.rush`), on
  either generation of the protocol.
* `Fleet.Sourced` says of each recording and its callers that their numbers have been brought.
  Whatever happens keeps it.
* Nobody looks at the sign of a number. A target that names a negative one gets it taken over
  (`Traffic.negative_number_taken`).
-/

namespace RemoteRecorder

open Recording (Caller)

/-! ## Recordings and their callers

What is known of one recording with its callers has to be known of each recording of a fleet. A step
concerns one of them; for the others the callers are the same as before, and more numbers have been
brought. -/

namespace Fleet

/-- Whether every number that matters in a fleet has been brought by a reply. -/
structure Sourced (s : Fleet) : Prop where
  seated : ∀ i k c, s.caller? i k = some c → i < s.recordings.length
  recordings : ∀ (i : Nat) (r : Recording), s.recordings[i]? = some r →
    Recording.Sourced (· ∈ brought s.log) r (s.caller? i)

variable {b : Backend} {s s' : Fleet} {i j k : Nat} {c c' : Caller} {r r' : Recording}
  {t : Caller.Turn} {seat : Option (Nat × Caller)} {added : List Recording}

theorem caller?_set_eq_update (hk : s.seats[k]? = some seat) (seat' : Option (Nat × Caller))
    (recordings : List Recording) (log : List Signal) :
    caller? ⟨recordings, s.seats.set k seat', log⟩ i =
      Function.update (s.caller? i) k (at? i seat') := by
  funext n
  rw [caller?_set hk, Function.update_apply]

theorem caller?_push_eq_update (recordings : List Recording) (log : List Signal) :
    caller? ⟨recordings, s.seats ++ [seat], log⟩ i =
      Function.update (s.caller? i) s.seats.length (at? i seat) := by
  funext n
  rw [caller?_push, Function.update_apply]

theorem at?_of_ne (hj : j ≠ i) : at? j (some (i, c)) = none := by
  simp [at?, Ne.symm hj]

namespace Sourced

theorem move (hb : b.HandsOn) (q : s.Sourced) (hk : s.seats[k]? = some (some (i, c)))
    (hr : s.recordings[i]? = some r) (m : c.Move b r t r' c') :
    Sourced ⟨s.recordings.set i r', s.seats.set k (some (i, c')), s.log ++ c.signals t c'⟩ := by
  have hc : s.caller? i k = some c := caller?_eq_some_iff.2 hk
  obtain ⟨hlt, -⟩ := List.getElem?_eq_some_iff.1 hr
  constructor
  · intro j n d hd
    rw [List.length_set]
    rcases caller?_set_cases hk hd with ⟨-, rfl, -⟩ | ⟨-, hd⟩
    · exact hlt
    · exact q.seated j n d hd
  · intro j r₁ hr₁
    rw [caller?_set_eq_update hk]
    rw [List.getElem?_set] at hr₁
    by_cases hj : i = j
    · subst hj
      obtain rfl : r' = r₁ := by simpa [hlt] using hr₁
      rw [at?, if_pos rfl]
      refine ((q.recordings i r hr).move hb hc m).imp fun id hid => ?_
      rw [brought_append]
      exact List.mem_append.2 hid
    · rw [if_neg hj] at hr₁
      rw [at?_of_ne (Ne.symm hj)]
      refine ((q.recordings j r₁ hr₁).seat ?_ (.inl rfl)).imp
        fun id hid => mem_brought_append_left hid _
      simp [Recording.rolesOf, caller?_eq_none_of_ne hc (Ne.symm hj)]

/-- Recordings are added that nobody works on, and somebody comes to a place, or leaves it, where
nobody was at work. The log may have grown, and what has been brought stays so. -/
theorem renew (q : s.Sourced) (hrec : s'.recordings = s.recordings ++ added)
    (hlog : ∀ id ∈ brought s.log, id ∈ brought s'.log)
    (ha : ∀ r ∈ added, Recording.Sourced (· ∈ brought s'.log) r fun _ => none)
    (hcall : ∀ j, s'.caller? j = Function.update (s.caller? j) k (at? j seat))
    (hk : ∀ j, s.roles j k = .bystander)
    (hseat : seat = none ∨ ∃ i op, seat = some (i, .begun op) ∧ i < s.recordings.length) :
    s'.Sourced := by
  have come (j : Nat) : at? j seat = none ∨ ∃ op, at? j seat = some (.begun op) ∧
      j < s.recordings.length := by
    rcases hseat with rfl | ⟨i, op, rfl, hi⟩
    · exact .inl rfl
    · by_cases hj : j = i
      · exact .inr ⟨op, by simp [at?, hj], hj ▸ hi⟩
      · exact .inl (at?_of_ne hj)
  have old {j m : Nat} {d : Caller} (hd : s'.caller? j m = some d) : j < s.recordings.length := by
    rw [hcall, Function.update_apply] at hd
    split at hd
    · rcases come j with hn | ⟨op, -, hj⟩
      · cases hn.symm.trans hd
      · exact hj
    · exact q.seated j m d hd
  constructor
  · intro j m d hd
    rw [hrec, List.length_append]
    exact Nat.lt_add_right _ (old hd)
  · intro j r hr
    rw [hrec] at hr
    by_cases hj : j < s.recordings.length
    · rw [List.getElem?_append_left hj] at hr
      rw [hcall]
      exact ((q.recordings j r hr).seat (hk j)
        ((come j).imp_right (Exists.imp fun _ => And.left))).imp hlog
    · -- A recording that has just been added has no callers.
      rw [List.getElem?_append_right (Nat.le_of_not_lt hj)] at hr
      have nobody : s'.caller? j = fun _ => none := by
        funext m
        rw [Option.eq_none_iff_forall_ne_some]
        exact fun d hd => hj (old hd)
      rw [nobody]
      exact ha r (List.mem_of_getElem? hr)

theorem depart {o : Outcome Recording.Yield} (q : s.Sourced)
    (hk : s.seats[k]? = some (some (i, .ended o))) (hadd : added.Sublist (Recording.made o))
    (hseat : seat = none ∨ seat = some (i, .begun .close)) :
    Sourced ⟨s.recordings ++ added, s.seats.set k seat, s.log⟩ := by
  have hc : s.caller? i k = some (.ended o) := caller?_eq_some_iff.2 hk
  have hi := q.seated i k _ hc
  refine q.renew rfl (fun _ h => h) ?_ (fun j => caller?_set_eq_update hk ..) ?_
    (hseat.imp_right fun h => ⟨i, .close, h, hi⟩)
  · intro r hr
    have here := q.recordings i _ (List.getElem?_eq_getElem hi)
    exact .of_isCopy (here.brings k _ hc r (hadd.subset hr))
  · intro j
    by_cases hj : j = i
    · subst hj
      exact roles_eq hc
    · exact roles_eq_bystander hc hj

theorem roles_length (j : Nat) : s.roles j s.seats.length = .bystander := by
  rw [roles, caller?_length]
  rfl

theorem enter {op : Recording.Operation} (q : s.Sourced) (hi : i < s.recordings.length) :
    Sourced ⟨s.recordings, s.seats ++ [some (i, .begun op)], s.log⟩ :=
  q.renew (List.append_nil _).symm (fun _ h => h) (by simp)
    (fun _ => caller?_push_eq_update ..) roles_length (.inr ⟨i, op, rfl, hi⟩)

theorem aside {seats : List (Option (Nat × Caller))} (q : s.Sourced)
    (ha : ∀ r ∈ added, r.cell = ⟨.new, .unassigned⟩)
    (hs : seats = s.seats ∨ seats = s.seats ++ [none]) (signals : List Signal) :
    Sourced ⟨s.recordings ++ added, seats, s.log ++ signals⟩ := by
  have same (j : Nat) : caller? ⟨s.recordings ++ added, seats, s.log ++ signals⟩ j =
      Function.update (s.caller? j) s.seats.length (at? j none) := by
    rcases hs with rfl | rfl
    · have nobody : at? j none = s.caller? j s.seats.length := caller?_length.symm
      rw [nobody, Function.update_eq_self]
      rfl
    · exact caller?_push_eq_update ..
  refine q.renew rfl (fun id hid => mem_brought_append_left hid signals) ?_ same roles_length
    (.inl rfl)
  intro r hr
  have hcell := ha r hr
  exact .of_nobody (by rw [hcell]; rfl) (by rw [hcell]; exact fun h => nomatch h)
    fun _ => congrArg Cell.id hcell

end Sourced

/-- Whatever happens, the numbers in use have been brought. -/
theorem Step.sourced (hb : b.HandsOn) (h : Step b s s') (q : s.Sourced) : s'.Sourced := by
  cases h with
  | move hk hr m => exact q.move hb hk hr m
  | depart hk hadd hseat => exact q.depart hk hadd hseat
  | enter hi h => exact q.enter hi
  | aside ha hs hl => exact q.aside ha hs _

end Fleet

/-! ## Requests without a recording

A user may also ask the backend directly, past all recordings. Such a request answers numbers as
well, so it has to be followed along its tree of calls. -/

open Client (Task)

namespace Client

/-- Whether the answer to a request without a recording names only a number that is known. Such
a request makes no recording. -/
def Answers (P : SessionId → Prop) : Except Error Recording.Yield → Prop
  | .ok (.running id) => P id
  | .ok (.cloned _) => False
  | _ => True

variable {b : Backend} {c c' : Client} {P P' : SessionId → Prop} {task task' : Task}
  {rest : Exchange Empty (Except Error Recording.Yield)} {t : Caller.Turn}

theorem hears_of_brings {request : Request SessionId} (h : request.run.Brings P) :
    (request >>= fun id => pure (Recording.Yield.running id)).run.Hears Answers P := by
  rw [ExceptT.run_bind]
  refine h.bind ?_
  rintro P (error | id) hid
  · trivial
  · exact hid

theorem hears_of_silent {α : Type} (request : Request α) {y : α → Recording.Yield}
    (hy : ∀ P a, Answers P (.ok (y a))) :
    (request >>= fun a => pure (y a)).run.Hears Answers P := by
  rw [ExceptT.run_bind]
  refine (Exchange.hears_true request.run).bind ?_
  rintro P (error | a) -
  · trivial
  · exact hy P a

/-- A direct request names a number only if a reply to one of its own calls has brought it. -/
theorem request_hears (hb : b.HandsOn) (r : DirectRequest) :
    (request b r).run.Hears Answers fun _ => False := by
  cases r with
  | start plan =>
    unfold request
    cases h : plan.build with
    | error e =>
      simp only [h]
      trivial
    | ok built =>
      simp only [h]
      exact hears_of_brings (hb.start _ _)
  | clone id stop => exact hears_of_brings (hb.clone id stop)
  | stop id | dump id path | close id | openStream id streamed =>
    exact hears_of_silent _ fun _ _ => trivial

theorem hears_imp (h : rest.Hears Answers P) (hP : ∀ id, P id → P' id) :
    rest.Hears Answers P' := by
  refine h.imp ?_ hP
  rintro P P' (error | made) hP hid
  · trivial
  · cases made with
    | running id => exact hP id hid
    | cloned clone => exact hid
    | _ => trivial

/-- Whether a task works on a recording, makes no calls about sessions, or answers only with a
number that is known. -/
def Task.Sourced (P : SessionId → Prop) : Task → Prop
  | direct rest => rest.Hears Answers P
  | stream _ _ rest => rest.AllCalls Call.IsForeign
  | _ => True

theorem Task.IsPlain.sourced (h : task.IsPlain) : task.Sourced P := by
  cases task with
  | direct rest => exact h.elim
  | stream i chore rest => exact h
  | _ => trivial

theorem Task.Sourced.imp (h : task.Sourced P) (hP : ∀ id, P id → P' id) : task.Sourced P' := by
  cases task with
  | direct rest => exact hears_imp h hP
  | stream i chore rest => exact h
  | _ => trivial

/-- Without a recording a request is carried on, or it is answered. -/
theorem Advance.direct (h : Advance c (.direct rest) t c' task') (hears : rest.Hears Answers P) :
    c'.connection = c.connection ∧ c'.contents = c.contents ∧ task'.seat? = none ∧
      task'.Sourced fun id => P id ∨ id ∈ brought (Task.signals (.direct rest) t task') := by
  cases h with
  | @conclude result =>
    obtain ⟨hconn, hc⟩ := conclude_contents (c := c) result
    refine ⟨hconn, ?_, rfl, trivial⟩
    rw [hc, List.append_right_eq_self]
    rcases result with error | made
    · rfl
    · cases made with
      | cloned clone => exact hears.elim
      | _ => rfl
  | directNote => exact ⟨rfl, rfl, rfl, hears_imp hears fun _ => .inl⟩
  | @directReply request next reply =>
    refine ⟨rfl, rfl, rfl, hears_imp (hears reply) fun id => .imp_right fun hid => ?_⟩
    exact List.mem_filterMap.2 ⟨.returned request reply,
      by simp [Task.signals, Caller.Turn.signals, Task.pending?], hid⟩
  | directCut text => exact ⟨rfl, rfl, rfl, trivial⟩

end Client

/-! ## Rushing

Here steps may begin while others are at work on the same recording. Nothing that is said about
numbers depends on anybody waiting for his turn. -/

namespace Traffic

/-- A client that has just been connected to a target of either generation. -/
def connected (generation : Generation) (object : ObjectName) (settings : Settings) : Traffic where
  client := { connection := { backend := .ofGeneration generation object, settings } }

/-- The traffic after an event, if nothing is forbidden: a step may begin whoever is at work. -/
def rush? (s : Traffic) : Event → Option Traffic
  | .begin step =>
    let (client, task) := s.client.begin step
    some ⟨client, s.tasks ++ [task], s.log ++ task.arrival⟩
  | .turn k t => s.step? (.turn k t)

/-- Runs a schedule in which nothing is forbidden. -/
def rush : Traffic → List Event → Option Traffic
  | s, [] => some s
  | s, e :: schedule => do
    let s ← s.rush? e
    s.rush schedule

/-- Whether the numbers in use have a property. Those are the numbers of recordings that run or
have been stopped, and those that starts and clones answer. New recordings have none. -/
structure Numbered (P : SessionId → Prop) (s : Traffic) : Prop where
  new : ∀ r ∈ s.client.contents, r.cell.phase = .new → r.id = .unassigned
  recorded : ∀ r ∈ s.client.contents, r.cell.phase = .active ∨ r.cell.phase = .stopped → P r.id
  started : ∀ t ∈ s.tasks, ∀ i id,
    t.seat? = some (i, .ended (.returned (.ok (.running id)))) → P id
  cloned : ∀ t ∈ s.tasks, ∀ i clone,
    t.seat? = some (i, .ended (.returned (.ok (.cloned clone)))) →
      (clone.cell.phase = .active ∨ clone.cell.phase = .stopped) ∧ P clone.id
  answered : ∀ id, Task.direct (.done (.ok (.running id))) ∈ s.tasks → P id

/-- What a schedule preserves. -/
structure Sourced (b : Backend) (s : Traffic) : Prop where
  backend : s.client.connection.backend = b
  tasks : ∀ t ∈ s.tasks, t.Sourced (· ∈ brought s.log)
  fleet : s.fleet.Sourced

variable {generation : Generation} {object : ObjectName} {settings : Settings} {b : Backend}
  {s s' : Traffic} {e : Event} {schedule : List Event} {k : Nat}

namespace Sourced

theorem of_connected :
    (connected generation object settings).Sourced (.ofGeneration generation object) := by
  have nobody (i k : Nat) : (connected generation object settings).fleet.caller? i k = none := rfl
  refine ⟨rfl, fun t ht => (nomatch ht), ⟨?_, ?_⟩⟩
  · intro i k c hc
    exact nomatch (nobody i k).symm.trans hc
  · intro i r hr
    cases hr

/-- The tasks that were there before keep to numbers that are known. -/
theorem old (q : s.Sourced b) (later : List Signal) {task : Task} (h : task ∈ s.tasks) :
    task.Sourced (· ∈ brought (s.log ++ later)) :=
  (q.tasks task h).imp fun _ hid => mem_brought_append_left hid later

/-- A step that a user begins brings no number, and leaves all the others as they are. -/
theorem begin (hb : b.HandsOn) (q : s.Sourced b) {step : Client.Step}
    (h : s.rush? (.begin step) = some s') : s'.Sourced b := by
  by_cases hd : ∃ request, step = .direct request
  · -- A direct request takes a seat, but works on no recording.
    obtain ⟨request, rfl⟩ := hd
    obtain rfl := Option.some.inj h
    have hears := Client.request_hears (q.backend ▸ hb) request
    let task : Task := .direct (Client.request s.client.connection.backend request).run
    refine ⟨q.backend, List.forall_mem_append.2 ⟨fun t => q.old _, ?_⟩, ?_⟩
    · intro t ht
      obtain rfl := List.mem_singleton.1 ht
      exact Client.hears_imp hears fun _ => False.elim
    · have he : Traffic.fleet ⟨s.client, s.tasks ++ [task], s.log ++ task.arrival⟩ =
          ⟨s.fleet.recordings ++ [], s.fleet.seats ++ [none], s.fleet.log ++ task.arrival⟩ := by
        simp [Traffic.fleet, task, Task.seat?]
      exact he ▸ q.fleet.aside (by simp) (.inr rfl) _
  · obtain ⟨c', task, hb'⟩ : ∃ c' task, s.client.begin step = (c', task) := ⟨_, _, rfl⟩
    obtain ⟨hconn, hplain, hf⟩ := begun_fleet (fun request hr => hd ⟨request, hr⟩) hb'
    obtain rfl : ⟨c', s.tasks ++ [task], s.log ++ task.arrival⟩ = s' := by
      simpa [rush?, hb'] using h
    refine ⟨hconn ▸ q.backend, List.forall_mem_append.2 ⟨fun t => q.old _, ?_⟩, ?_⟩
    · intro t ht
      obtain rfl := List.mem_singleton.1 ht
      exact hplain.sourced
    · rcases hf with ⟨i, op, -, hi, he⟩ | ⟨added, hadd, -, he⟩
      · rw [he]
        exact q.fleet.enter hi
      · rw [he]
        exact q.fleet.aside hadd (.inr rfl) _

/-- A turn of a task brings at most the number that comes with a reply in it. -/
theorem turn (hb : b.HandsOn) (q : s.Sourced b) {t : Caller.Turn}
    (h : s.step? (.turn k t) = some s') : s'.Sourced b := by
  obtain ⟨task, c', task', hk, ht, rfl⟩ := step?_turn h
  have mem := List.mem_of_getElem? hk
  suffices c'.connection = s.client.connection ∧
      task'.Sourced (· ∈ brought (s.log ++ task.signals t task')) ∧
      (Traffic.fleet ⟨c', s.tasks.set k task', s.log ++ task.signals t task'⟩).Sourced by
    obtain ⟨hconn, htask, hf⟩ := this
    exact ⟨hconn ▸ q.backend, fun t ht => (List.mem_or_eq_of_mem_set ht).elim (q.old _)
      fun h => h ▸ htask, hf⟩
  by_cases hd : ∃ rest, task = .direct rest
  · obtain ⟨rest, rfl⟩ := hd
    have advance := Client.advance_of_take? (by intro _ _ h; cases h) ht
    obtain ⟨hconn, hc, hseat, hs⟩ := advance.direct (q.tasks _ mem)
    refine ⟨hconn, hs.imp fun id hid => ?_, ?_⟩
    · rw [brought_append]
      exact List.mem_append.2 hid
    · rw [fleet_of_aside rfl hc hseat hk]
      exact q.fleet.aside (by simp) (.inl rfl) _
  · have hplain : task.IsPlain := by
      have hs := q.tasks _ mem
      cases task with
      | direct rest => exact (hd ⟨rest, rfl⟩).elim
      | stream i chore rest => exact hs
      | _ => trivial
    obtain ⟨hconn, hplain', hf⟩ := turned_fleet hk hplain q.fleet.seated ht
    rw [q.backend] at hf
    exact ⟨hconn, hplain'.sourced, hf.sourced hb q.fleet⟩

theorem rush (hb : b.HandsOn) (q : s.Sourced b) (h : s.rush schedule = some s') :
    s'.Sourced b := by
  induction schedule generalizing s with
  | nil =>
    obtain rfl := Option.some.inj h
    exact q
  | cons e schedule ih =>
    obtain ⟨s₁, h₁, h₂⟩ := Option.bind_eq_some_iff.1 h
    refine ih ?_ h₂
    cases e with
    | begin step => exact q.begin hb h₁
    | turn k t => exact q.turn hb h₁

theorem caller {task : Task} {i : Nat} {c : Caller} (q : s.Sourced b) (ht : task ∈ s.tasks)
    (hseat : task.seat? = some (i, c)) :
    ∃ r, c.Backed (· ∈ brought s.log) r ∧ c.Brings (· ∈ brought s.log) := by
  obtain ⟨k, hk⟩ := List.mem_iff_getElem?.1 ht
  have hc : s.fleet.caller? i k = some c := caller?_fleet.2 ⟨task, hk, hseat⟩
  have here := q.fleet.recordings i _ (List.getElem?_eq_getElem (q.fleet.seated i k c hc))
  exact ⟨_, here.backed k c hc, here.brings k c hc⟩

/-- Read off the invariant: the numbers that users can see are among those that have been
brought. -/
theorem numbered (q : s.Sourced b) : s.Numbered (· ∈ brought s.log) := by
  have recording (r : Recording) (hr : r ∈ s.client.contents) :
      ∃ callers, Recording.Sourced (· ∈ brought s.log) r callers := by
    obtain ⟨i, hi⟩ := List.mem_iff_getElem?.1 hr
    exact ⟨_, q.fleet.recordings i r hi⟩
  refine ⟨?_, ?_, ?_, ?_, ?_⟩
  · intro r hr hp
    obtain ⟨_, here⟩ := recording r hr
    exact here.new hp
  · intro r hr hp
    obtain ⟨_, here⟩ := recording r hr
    refine here.recording ?_
    rcases hp with hp | hp <;> rw [hp] <;> rfl
  · intro t ht i id hseat
    obtain ⟨_, backed, -⟩ := q.caller ht hseat
    exact backed
  · intro t ht i clone hseat
    obtain ⟨_, -, brings⟩ := q.caller ht hseat
    exact brings clone (List.mem_singleton.2 rfl)
  · intro id hid
    exact q.tasks _ hid

end Sourced

theorem Numbered.imp {P Q : SessionId → Prop} (h : s.Numbered P) (hPQ : ∀ id, P id → Q id) :
    s.Numbered Q :=
  ⟨h.new, fun r hr hp => hPQ _ (h.recorded r hr hp),
    fun t ht i id hs => hPQ _ (h.started t ht i id hs),
    fun t ht i clone hs => (h.cloned t ht i clone hs).imp_right (hPQ _),
    fun id hid => hPQ _ (h.answered id hid)⟩

/-- Whatever the target replies and however steps run side by side, all numbers in use are among
those that the target has named. If it names none that is negative, they are all assigned. -/
theorem numbers_brought {P : SessionId → Prop}
    (h : (connected generation object settings).rush schedule = some s)
    (named : ∀ id ∈ brought s.log, P id) : s.Numbered P :=
  (Sourced.of_connected.rush (Backend.handsOn generation object) h).numbered.imp named

/-- A recording is created and started, and the target replies in turn to the calls of the start. -/
def started (replies : List Reply) : List Event :=
  let calls := replies.flatMap fun reply => [.turn 1 .act, .turn 1 (.reply reply)]
  [.begin (.create {} none), .begin (.operate 0 .start), .turn 1 .act, .turn 1 .act] ++ calls ++
    List.replicate 3 (.turn 1 .act)

/-- After a start there are a clone of the recording and another recording, which is new. -/
def startedAndCloned : List Event :=
  started [.ok (.long 5), .ok .void, .ok .void, .ok .void] ++
    [.begin (.create {} none), .begin (.operate 0 (.clone false))] ++
    List.replicate 3 (.turn 3 .act) ++ [.turn 3 (.reply (.ok (.long 6)))] ++
    List.replicate 3 (.turn 3 .act)

/-- After a start, a clone and another recording, the target has named two numbers. Two recordings
show them, and the new one shows none. -/
theorem numbers_brought_cloned :
    ∃ s, (connected .structured Generation.structured.objectName {}).rush startedAndCloned =
        some s ∧
      s.client.contents.map (·.cell) =
        [⟨.active, ⟨5⟩⟩, ⟨.new, .unassigned⟩, ⟨.active, ⟨6⟩⟩] ∧
      brought s.log = [⟨5⟩, ⟨6⟩] ∧ s.Numbered (·.isAssigned = true) := by
  have h : ((connected .structured Generation.structured.objectName {}).rush startedAndCloned).map
      (fun s => (s.client.contents.map (·.cell), brought s.log)) =
        some ([⟨.active, ⟨5⟩⟩, ⟨.new, .unassigned⟩, ⟨.active, ⟨6⟩⟩], [⟨5⟩, ⟨6⟩]) := by decide
  obtain ⟨s, hs, hl⟩ := Option.map_eq_some_iff.1 h
  obtain ⟨hc, hb⟩ := Prod.mk.inj hl
  exact ⟨s, hs, hc, hb, numbers_brought hs (by rw [hb]; decide)⟩

/-- A negative number is taken over, be it named as a number or in a text. -/
theorem negative_number_taken :
    (∃ s, (connected .structured Generation.structured.objectName {}).rush
        (started [.ok (.long (-7)), .ok .void, .ok .void, .ok .void]) = some s ∧
      s.client.contents.map (·.cell) = [⟨.active, ⟨-7⟩⟩]) ∧
    (∃ s, (connected .diagnostic Generation.diagnostic.objectName {}).rush
        (started [.ok (.text "Started recording -7. ")]) = some s ∧
      s.client.contents.map (·.cell) = [⟨.active, ⟨-7⟩⟩]) ∧
    SessionId.isAssigned ⟨-7⟩ = false := by
  refine ⟨Option.map_eq_some_iff.1 ?_, Option.map_eq_some_iff.1 ?_, rfl⟩
  · decide
  · decide

end Traffic

end RemoteRecorder
