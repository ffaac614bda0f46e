import RemoteRecorder.Proofs.Client.Chronicle
import RemoteRecorder.Proofs.Connection
import RemoteRecorder.Proofs.Stream.Conduct

/-!
# RemoteRecorder.Proofs.Client.Addressing

**Where the calls of a client go**: to the object that its target has been found to have.

The name that the target answers to the look-up is the object of the backend. From there it comes
to every request of a recording and to every stream, and so all calls of all tasks go to it, in
whatever order steps are taken (`Chronicle.Addresses`).
-/

namespace RemoteRecorder

open Client (Task)
open Recording (Caller)

variable {object : ObjectName} {heard : List Contact} {b : Backend}

/-! ## Tasks

A task is judged by all that it may still come to call, over every way in which its calls may come
back. This is more than its next call, and it is what a turn preserves. -/

/-- Whether all that is left of a request goes to an object. -/
abbrev Exchange.GoesTo {α : Type} (object : ObjectName) (past : List Contact)
    (e : Exchange Empty α) : Prop :=
  e.Follows (fun _ c => c.target = object) (fun _ => True) (fun _ _ => True) past

theorem Exchange.Speaks.goesTo {α : Type} {id? : Option SessionId} {R : List Contact → α → Prop}
    {e : Exchange Empty α} (h : e.Speaks object id? R heard) : e.GoesTo object heard :=
  h.imp (fun _ _ hc => hc.1) (fun _ _ => trivial) fun _ _ _ => trivial

namespace Client

theorem goesTo_bind {α : Type} {request : Request α} {y : α → Recording.Yield}
    (h : request.run.GoesTo object heard) :
    (request >>= fun a => pure (y a)).run.GoesTo object heard :=
  Action.follows_bind h (fun _ _ _ => trivial) fun _ _ _ => trivial

/-- A request goes to the object of the backend. -/
theorem request_goesTo (hb : b.Speaks object) (r : DirectRequest) :
    (request b r).run.GoesTo object heard := by
  cases r with
  | start plan =>
    unfold request
    cases h : plan.build with
    | error e => simp [h]; trivial
    | ok built =>
      simp only [h]
      exact goesTo_bind (hb.start _ _ _).goesTo
  | stop id => exact goesTo_bind (hb.stop id _).goesTo
  | dump id path => exact goesTo_bind (hb.dump id path _).goesTo
  | clone id stop => exact goesTo_bind (hb.clone id stop _).goesTo
  | close id => exact goesTo_bind (hb.close id _).goesTo
  | openStream id streamed => exact goesTo_bind (hb.openStream id streamed _).goesTo

/-- Whether all calls that a task can come to go to an object. -/
def Task.Addresses (object : ObjectName) : Task → Prop
  | recording _ x | farewell _ x _ => ∃ heard, x.Speaks object heard
  | direct rest => ∃ heard, rest.GoesTo object heard
  | stream _ _ rest => ∃ heard, rest.Conducts object (fun _ _ => True) heard
  | ended _ => True

variable {c c' : Client} {step : Step} {task task' : Task} {t : Caller.Turn}

theorem Task.Addresses.pending {call : Call} (h : task.Addresses object)
    (hp : task.pending? = some call) : call.target = object := by
  cases task with
  | recording i x | farewell i x answer =>
    obtain ⟨heard, hx⟩ := h
    obtain ⟨e, rest, -, about⟩ := hx.isAbout hp
    exact about.1
  | direct rest =>
    obtain ⟨heard, hr⟩ := h
    cases rest with
    | call request next =>
      obtain rfl := Option.some.inj hp
      exact hr.1
    | _ => cases hp
  | stream i chore rest =>
    obtain ⟨heard, hr⟩ := h
    cases rest with
    | call request next =>
      obtain rfl := Option.some.inj hp
      exact hr.1
    | _ => cases hp
  | ended answer => cases hp

/-- Whether a client is connected to an object, and all its streams are at that object. -/
structure Bound (object : ObjectName) (c : Client) : Prop where
  speaks : c.connection.backend.Speaks object
  backend : c.connection.backend.object = object
  streams : ∀ j s, c.content? j = some s → s.object = object

theorem conducts_weaken {α : Type} {R : List Contact → α → Prop} {e : Exchange Stream α}
    {at' : ObjectName} (h : e.Conducts at' R heard) (ho : at' = object) :
    e.Conducts object (fun _ _ => True) heard := by
  subst ho
  exact h.imp (fun _ _ => id) (fun _ => id) fun _ _ _ => trivial

theorem afterParting_addresses (c : Client) (i : Nat) (answer : Answer) :
    (c.afterParting i answer).Addresses object := by
  unfold afterParting
  split
  · exact ⟨[], trivial⟩
  · trivial

/-- Whatever a user begins, it is at the object of the client. -/
theorem Outset.bound (h : Outset c step c' task) (q : c.Bound object) :
    c'.Bound object ∧ task.Addresses object := by
  refine ⟨⟨h.grows.connection ▸ q.speaks, h.grows.connection ▸ q.backend, ?_⟩, ?_⟩
  · intro j s hs
    rw [h.content?] at hs
    exact q.streams j s hs
  · cases h with
    | operate hr => exact ⟨[], trivial⟩
    | drop hr => exact afterParting_addresses ..
    | read hs =>
      exact ⟨[], conducts_weaken (Stream.read_conducts _ rfl)
        (q.streams _ _ (content?_of_stream? hs))⟩
    | readAll hs =>
      exact ⟨[], conducts_weaken (Stream.readBlock_conducts rfl)
        (q.streams _ _ (content?_of_stream? hs))⟩
    | closeStream hs =>
      exact ⟨[], conducts_weaken (Stream.close_conducts rfl)
        (q.streams _ _ (content?_of_stream? hs))⟩
    | dropStream hs =>
      exact ⟨[], conducts_weaken Stream.abandon_conducts (q.streams _ _ (content?_of_stream? hs))⟩
    | direct => exact ⟨[], request_goesTo q.speaks _⟩
    | _ => trivial

theorem afterChore_addresses (q : c.Bound object) (i : Nat) (chore : Chore)
    (result : Except Error chore.Brings) : (c.afterChore i chore result).Addresses object := by
  unfold afterChore
  split
  all_goals try trivial
  split
  · trivial
  · exact ⟨[], conducts_weaken (Stream.readBlock_conducts rfl)
      (q.streams i _ (by simp [content?, *]))⟩

/-- A turn opens streams at the object of the client only, and sets a stream to one at the object at
which it was. -/
theorem Advance.bound (h : Advance c task t c' task') (q : c.Bound object)
    (ht : task.Addresses object) : c'.Bound object ∧ task'.Addresses object := by
  refine ⟨⟨h.grows.connection ▸ q.speaks, h.grows.connection ▸ q.backend, ?_⟩, ?_⟩
  · intro j s hs
    cases h.streamed j with
    | same hc => exact q.streams j s (hc ▸ hs)
    | opened handle hj hc =>
      obtain rfl := Option.some.inj (hc.symm.trans hs)
      exact q.backend
    | set htask hc =>
      subst htask
      obtain ⟨past, hf⟩ := ht
      obtain ⟨old, -, rfl⟩ := Option.map_eq_some_iff.1 (hc.symm.trans hs)
      exact hf.1
  · cases h with
    | move hr m =>
      obtain ⟨heard, hx⟩ := ht
      exact ⟨_, m.speaks q.speaks hx⟩
    | @depart i o => cases o <;> exact afterParting_addresses ..
    | farewell hr m =>
      obtain ⟨heard, hx⟩ := ht
      exact ⟨_, m.speaks q.speaks hx⟩
    | directNote => exact ht
    | directReply reply =>
      obtain ⟨heard, hr⟩ := ht
      exact ⟨_, hr.2 reply⟩
    | finish => exact afterChore_addresses q ..
    | streamNote => exact ht
    | streamKeep =>
      obtain ⟨heard, hr⟩ := ht
      exact ⟨_, hr.2⟩
    | streamReply reply =>
      obtain ⟨heard, hr⟩ := ht
      exact ⟨_, hr.2 reply⟩
    | _ => trivial

end Client

/-! ## Runs

The invariant holds of the client, of the tasks and of the log. The client is in it because new
streams are made with the object of the backend, and every task on a stream calls the object of its
stream. -/

/-- Whether all that has gone over the wire has gone to an object, and all that will go to it. -/
structure Chronicle.Addresses (object : ObjectName) (c : Chronicle) : Prop where
  client : c.traffic.client.Bound object
  tasks : ∀ task ∈ c.traffic.tasks, task.Addresses object
  log : ∀ x ∈ c.traffic.log, x.call.target = object

namespace Chronicle

variable {c c' : Chronicle} {e : Traffic.Event} {schedule : List Traffic.Event}
  {generation : Generation} {settings : Settings}

theorem arrival_target {task : Task} (h : task.Addresses object) :
    ∀ x ∈ task.arrival, x.call.target = object := by
  intro x hx
  obtain ⟨call, hc, rfl⟩ := List.mem_map.1 hx
  exact h.pending (Option.mem_toList.1 hc)

theorem signals_target {task task' : Task} {t : Caller.Turn} (h : task.Addresses object)
    (h' : task'.Addresses object) : ∀ x ∈ task.signals t task', x.call.target = object := by
  have back (f : Call → Signal) (hf : ∀ call, (f call).call = call) :
      ∀ x ∈ task.pending?.toList.map f, x.call.target = object := by
    intro x hx
    obtain ⟨call, hc, rfl⟩ := List.mem_map.1 hx
    rw [hf]
    exact h.pending (Option.mem_toList.1 hc)
  intro x hx
  cases t with
  | act => exact arrival_target h' x hx
  | reply reply => exact (List.mem_append.1 hx).elim (back _ (fun _ => rfl) x) (arrival_target h' x)
  | unwind text => exact (List.mem_append.1 hx).elim (back _ (fun _ => rfl) x) (arrival_target h' x)

/-- Every event keeps to the object. -/
theorem Addresses.next (q : c.Addresses object) (h : c.Next e c') : c'.Addresses object := by
  cases h with
  | begin ho =>
    obtain ⟨hc, ht⟩ := ho.bound q.client
    refine ⟨hc, ?_, ?_⟩
    · exact List.forall_mem_append.2 ⟨q.tasks, by simpa using ht⟩
    · exact List.forall_mem_append.2 ⟨q.log, arrival_target ht⟩
  | turn hk ha =>
    have old := q.tasks _ (List.mem_of_getElem? hk)
    obtain ⟨hc, ht⟩ := ha.bound q.client old
    refine ⟨hc, ?_, ?_⟩
    · intro task hm
      rcases List.mem_or_eq_of_mem_set hm with hm | rfl
      · exact q.tasks task hm
      · exact ht
    · exact List.forall_mem_append.2 ⟨q.log, signals_target old ht⟩

theorem addresses_connected : (connected generation object settings).Addresses object where
  client := by
    refine ⟨Backend.speaks generation object, ?_, fun j s hs => nomatch hs⟩
    cases generation <;> rfl
  tasks _ h := nomatch h
  log _ h := nomatch h

end Chronicle

/-- Whatever is done in a client, all its calls go to the object that it is connected to. -/
theorem Traffic.target_of_rush {generation : Generation} {settings : Settings}
    {schedule : List Event} {s : Traffic}
    (h : (connected generation object settings).rush schedule = some s) :
    ∀ x ∈ s.log, x.call.target = object := by
  obtain ⟨c, hc, rfl⟩ := Chronicle.exists_rush (c := .connected generation object settings) h
  exact (Chronicle.Reached.induction Chronicle.addresses_connected
    (fun _ _ _ _ q hn => q.next hn) ⟨schedule, hc⟩).log

namespace Connection

/-- A connection that is made is one to an object that has been looked up and found. -/
theorem Connecting.found {host : Host} {settings : Settings} {v : Visit (Except Error Connection)}
    {c : Connection} (h : Connecting host settings v) (hc : v.ending = .ok (.ok c)) :
    0 < settings.blockSize ∧ ∃ generation object,
      c = ⟨.ofGeneration generation object, settings⟩ ∧
      .lookUp generation.objectName (.ok object) ∈ v.log := by
  cases h with
  | @structured object hs h =>
    obtain rfl := Except.ok.inj (Except.ok.inj hc)
    exact ⟨hs, .structured, object, rfl, by simp [Host.first, h]⟩
  | @checked object ending hs hb h hk =>
    dsimp only at hc
    subst hc
    generalize host.check object = back at hk
    cases hk with
    | unlocked hu => exact ⟨hs, .diagnostic, object, rfl, by simp [Host.second, h]⟩
  | _ => cases Except.ok.inj hc

/-- How a target is connected to: invalid settings are refused before it is asked anything, its
answers decide otherwise, and whatever is done with the connection, all calls go to the object
that the target has answered to a look-up. -/
theorem connects_to_what_is_found (settings : Settings) (host : Host) :
    let v := (connect settings).run.visit host []
    (¬ 0 < settings.blockSize →
      v.log = [] ∧ ∃ text, v.ending = .ok (.error (.validation text))) ∧
    (0 < settings.blockSize → Decided host settings v) ∧
    ∀ c, v.ending = .ok (.ok c) → ∃ name object, .lookUp name (.ok object) ∈ v.log ∧
      ∀ schedule s, Traffic.rush { client := { connection := c } } schedule = some s →
        ∀ x ∈ s.log, x.call.target = object := by
  intro v
  have table : Connecting host settings v := connect_visit
  refine ⟨?_, table.decided, ?_⟩
  · intro hs
    generalize v = w at table
    cases table with
    | refused h => exact ⟨rfl, _, rfl⟩
    | _ => exact absurd ‹0 < settings.blockSize› hs
  · intro c hc
    obtain ⟨-, generation, object, rfl, hl⟩ := table.found hc
    refine ⟨_, object, hl, ?_⟩
    intro schedule s hrun
    exact @Traffic.target_of_rush object generation settings schedule s hrun

end Connection

end RemoteRecorder
