import RemoteRecorder.Proofs.Client.Growth
import RemoteRecorder.Proofs.Recording.Addressing

/-!
# RemoteRecorder.Proofs.Client.Chronicle

**A client with its history**: the steps that users have begun, and what has come of each.

* An `Entry` stands for a step: how its calls have come back so far, and which recordings it has
  made. The entries of a `Chronicle` stand in the order of the tasks.
* `Chronicle.rush` and `Chronicle.play` run schedules, in which nothing is forbidden or only some
  things are. `Chronicle.Next` says what an event does to a chronicle.
* `Reached.induction` shows what holds wherever a run has led, and may use what is known already.
  What holds of each entry and its task (`Each`) is shown once for an outset and once for an
  advance.
-/

namespace RemoteRecorder

open Client (Task)
open Recording (Caller)

/-- A step that a user has begun. -/
structure Entry where
  step : Client.Step
  /-- How its calls have come back. -/
  heard : List Contact := []
  /-- The slots of the recordings that it has made. -/
  made : List Nat := []

/-- A client and what has been written down about the steps in it. -/
structure Chronicle where
  traffic : Traffic
  entries : List Entry := []

/-- The call that a task waits for in order to go on with its step. Once it has parted from a
recording it has its answer: whoever then closes the recording does not do so for the step. -/
def Client.Task.awaits? : Task → Option Call
  | farewell _ _ _ => none
  | task => task.pending?

/-- What a step hears in a turn of its task. -/
def Client.Task.hears (t : Caller.Turn) (task : Task) : List Contact :=
  (t.contact? task.awaits?).toList

/-- The slots of the recordings that have been added to a client. -/
def Client.added (before after : Client) : List Nat :=
  List.range' before.recordings.length (after.recordings.length - before.recordings.length)

namespace Entry

/-- Adds what comes of a turn. -/
def add (e : Entry) (heard : List Contact) (made : List Nat) : Entry :=
  { e with heard := e.heard ++ heard, made := e.made ++ made }

@[simp] theorem add_step (e : Entry) (heard : List Contact) (made : List Nat) :
    (e.add heard made).step = e.step := rfl

@[simp] theorem add_nil_nil (e : Entry) : e.add [] [] = e := by
  simp [add]

end Entry

namespace Chronicle

/-- A client that has just been connected to a target of either generation. -/
def connected (generation : Generation) (object : ObjectName) (settings : Settings) : Chronicle :=
  { traffic := .connected generation object settings }

/-- Writes down what an event has led to. -/
def record (c : Chronicle) (e : Traffic.Event) (s : Traffic) : Chronicle where
  traffic := s
  entries :=
    let made := c.traffic.client.added s.client
    match e with
    | .begin step => c.entries ++ [{ step, made }]
    | .turn k t => c.entries.modify k fun entry =>
      entry.add ((c.traffic.tasks[k]?).elim [] (·.hears t)) made

/-- Runs a schedule. -/
def follow (next : Traffic → Traffic.Event → Option Traffic) :
    Chronicle → List Traffic.Event → Option Chronicle
  | c, [] => some c
  | c, e :: schedule => do
    let s ← next c.traffic e
    (c.record e s).follow next schedule

/-- Runs a schedule in which nothing is forbidden. -/
def rush (c : Chronicle) (schedule : List Traffic.Event) : Option Chronicle :=
  c.follow Traffic.rush? schedule

/-- Runs a schedule in which who works on a recording has it to himself, except that it may be
closed and given up during his calls. -/
def play (c : Chronicle) (schedule : List Traffic.Event) : Option Chronicle :=
  c.follow Traffic.step? schedule

variable {next : Traffic → Traffic.Event → Option Traffic} {c c' c₀ : Chronicle} {s : Traffic}
  {e : Traffic.Event} {schedule later : List Traffic.Event} {generation : Generation}
  {object : ObjectName} {settings : Settings} {k : Nat}

/-- A run may be interrupted anywhere. -/
theorem follow_append : c.follow next (schedule ++ later) =
    (c.follow next schedule).bind (·.follow next later) := by
  induction schedule generalizing c with
  | nil => rfl
  | cons e schedule ih =>
    simp only [List.cons_append, follow]
    cases next c.traffic e with
    | none => rfl
    | some s => exact ih

theorem follow_induction {P : Chronicle → Prop} (h₀ : P c)
    (step : ∀ c e s, P c → next c.traffic e = some s → P (c.record e s))
    (h : c.follow next schedule = some c') : P c' := by
  induction schedule generalizing c with
  | nil => exact Option.some.inj h ▸ h₀
  | cons e schedule ih =>
    obtain ⟨s, hs, h⟩ := Option.bind_eq_some_iff.1 h
    exact ih (step c e s h₀ hs) h

/-- The client of a chronicle runs as it does without. -/
theorem traffic_rush (h : c.rush schedule = some c') :
    c.traffic.rush schedule = some c'.traffic := by
  induction schedule generalizing c with
  | nil => exact congrArg (Option.map traffic) h
  | cons e schedule ih =>
    obtain ⟨s, hs, h⟩ := Option.bind_eq_some_iff.1 h
    exact Option.bind_eq_some_iff.2 ⟨s, hs, ih h⟩

theorem traffic_play (h : c.play schedule = some c') :
    c.traffic.play schedule = some c'.traffic := by
  induction schedule generalizing c with
  | nil => exact congrArg (Option.map traffic) h
  | cons e schedule ih =>
    obtain ⟨s, hs, h⟩ := Option.bind_eq_some_iff.1 h
    exact Option.bind_eq_some_iff.2 ⟨s, hs, ih h⟩

/-- Every run of a client can be written down. -/
theorem exists_rush (h : c.traffic.rush schedule = some s) :
    ∃ c', c.rush schedule = some c' ∧ c'.traffic = s := by
  induction schedule generalizing c with
  | nil => exact ⟨c, rfl, Option.some.inj h⟩
  | cons e schedule ih =>
    obtain ⟨s₁, hs, h⟩ := Option.bind_eq_some_iff.1 h
    obtain ⟨c', hc, ht⟩ := ih (c := c.record e s₁) h
    exact ⟨c', Option.bind_eq_some_iff.2 ⟨s₁, hs, hc⟩, ht⟩

/-- Where nothing is forbidden, all that is allowed otherwise can happen as well. -/
theorem rush_of_play (h : c.play schedule = some c') : c.rush schedule = some c' := by
  induction schedule generalizing c with
  | nil => exact h
  | cons e schedule ih =>
    obtain ⟨s, hs, h⟩ := Option.bind_eq_some_iff.1 h
    exact Option.bind_eq_some_iff.2 ⟨s, Traffic.rush?_of_step? hs, ih h⟩

/-! ## What an event does

Every event is one of two things: a step begins, with an outset of the client, or a task takes a
turn, with an advance. An invariant of all runs is shown for these two, and where it is, the
invariants that are known already may be used (`Reached.induction`). -/

/-- What an event does to a chronicle. -/
inductive Next (c : Chronicle) : Traffic.Event → Chronicle → Prop
  | begin {step client task} (h : c.traffic.client.Outset step client task) :
      Next c (.begin step)
        ⟨⟨client, c.traffic.tasks ++ [task], c.traffic.log ++ task.arrival⟩,
          c.entries ++ [{ step, made := c.traffic.client.added client }]⟩
  | turn {k t task client task'} (hk : c.traffic.tasks[k]? = some task)
      (h : c.traffic.client.Advance task t client task') :
      Next c (.turn k t)
        ⟨⟨client, c.traffic.tasks.set k task', c.traffic.log ++ task.signals t task'⟩,
          c.entries.modify k fun entry =>
            entry.add (task.hears t) (c.traffic.client.added client)⟩

/-- What is known of a client wherever a run from its connection has led. -/
abbrev Sourced (generation : Generation) (object : ObjectName) (c : Chronicle) : Prop :=
  c.traffic.Sourced (.ofGeneration generation object)

/-- Whatever happens in a run is one of the two. -/
theorem next_of_rush? (q : c.Sourced generation object) (h : c.traffic.rush? e = some s) :
    c.Next e (c.record e s) := by
  cases e with
  | begin step =>
    obtain ⟨c', task, ho, rfl⟩ := Traffic.rush?_begin h
    exact .begin ho
  | turn k t =>
    obtain ⟨task, c', task', hk, ha, rfl⟩ := Traffic.rush?_turn
      (fun i k x hx => q.fleet.seated i k x hx) h
    have heard : (c.traffic.tasks[k]?).elim [] (·.hears t) = task.hears t := by rw [hk]; rfl
    simp only [record, heard]
    exact .turn hk ha

/-- Whether a chronicle is one of what can happen after the connection. -/
def Reached (generation : Generation) (object : ObjectName) (settings : Settings)
    (c : Chronicle) : Prop :=
  ∃ schedule, (connected generation object settings).rush schedule = some c

theorem sourced_connected : (connected generation object settings).Sourced generation object :=
  Traffic.Sourced.of_connected

theorem sourced_rush (q : c.Sourced generation object) (h : c.rush schedule = some c') :
    c'.Sourced generation object :=
  Traffic.Sourced.rush (Backend.handsOn generation object) q (traffic_rush h)

theorem Reached.sourced (h : c.Reached generation object settings) :
    c.Sourced generation object := by
  obtain ⟨schedule, hs⟩ := h
  exact sourced_rush sourced_connected hs

theorem Reached.record (h : c.Reached generation object settings)
    (hs : c.traffic.rush? e = some s) : (c.record e s).Reached generation object settings := by
  obtain ⟨past, hp⟩ := h
  refine ⟨past ++ [e], ?_⟩
  rw [rush, follow_append]
  refine Option.bind_eq_some_iff.2 ⟨c, hp, ?_⟩
  simp [follow, hs]

/-- What every event keeps holds wherever a run has led. To show that it is kept, all may be used
that is known of such chronicles. -/
theorem Reached.induction {P : Chronicle → Prop} (h₀ : P (connected generation object settings))
    (step : ∀ c e c', c.Reached generation object settings → P c → c.Next e c' → P c')
    (h : c.Reached generation object settings) : P c := by
  obtain ⟨schedule, hs⟩ := h
  refine (follow_induction (P := fun c => c.Reached generation object settings ∧ P c)
    ⟨⟨[], rfl⟩, h₀⟩ ?_ hs).2
  intro c e s ⟨hr, hp⟩ he
  exact ⟨hr.record he, step c e _ hr hp (next_of_rush? hr.sourced he)⟩

theorem Next.grows (h : c.Next e c') : c.traffic.client.Grows c'.traffic.client := by
  cases h with
  | begin ho => exact ho.grows
  | turn hk ha => exact ha.grows

theorem Reached.connection (h : c.Reached generation object settings) :
    c.traffic.client.connection = ⟨.ofGeneration generation object, settings⟩ :=
  h.induction
    (P := fun c => c.traffic.client.connection = ⟨.ofGeneration generation object, settings⟩) rfl
    fun _ _ _ _ hc hn => hn.grows.connection.trans hc

/-! ## What holds of each entry

Most invariants speak of one step at a time, of its entry and of the task that is at work for it.
For such there is a rule of its own, `each_of_reached`, so that nobody has to go through the lists
of entries and tasks again: what is to be shown is that the other events do no harm, that an outset
brings the invariant about, and that an advance keeps it. -/

/-- Whether something holds of each entry and its task in a client. -/
def Each (I : Client → Entry → Task → Prop) (c : Chronicle) : Prop :=
  c.entries.length = c.traffic.tasks.length ∧ ∀ (k : Nat) (entry : Entry) (task : Task),
    c.entries[k]? = some entry → c.traffic.tasks[k]? = some task → I c.traffic.client entry task

variable {I : Client → Entry → Task → Prop}

theorem each_connected (I : Client → Entry → Task → Prop) :
    (connected generation object settings).Each I :=
  ⟨rfl, fun _ _ _ h => nomatch h⟩

theorem Each.entry (q : c.Each I) {task : Task} (hk : c.traffic.tasks[k]? = some task) :
    ∃ entry, c.entries[k]? = some entry ∧ I c.traffic.client entry task := by
  obtain ⟨hlt, -⟩ := List.getElem?_eq_some_iff.1 hk
  have he := List.getElem?_eq_getElem (show k < c.entries.length from q.1 ▸ hlt)
  exact ⟨_, he, q.2 k _ _ he hk⟩

theorem Each.task (q : c.Each I) {entry : Entry} (hk : c.entries[k]? = some entry) :
    ∃ task, c.traffic.tasks[k]? = some task ∧ I c.traffic.client entry task := by
  obtain ⟨hlt, -⟩ := List.getElem?_eq_some_iff.1 hk
  have ht := List.getElem?_eq_getElem (show k < c.traffic.tasks.length from q.1 ▸ hlt)
  exact ⟨_, ht, q.2 k _ _ hk ht⟩

/-- An event brings about one entry, or touches the entry and the task of one turn; the others only
see the client change. -/
theorem Each.step (q : c.Each I)
    (others : ∀ (j : Nat) entry task, c.entries[j]? = some entry → c.traffic.tasks[j]? = some task →
      (∀ t, e ≠ .turn j t) → I c.traffic.client entry task → I c'.traffic.client entry task)
    (begin : ∀ step client task, c.traffic.client.Outset step client task →
      I client { step, made := c.traffic.client.added client } task)
    (turn : ∀ (k : Nat) entry t task client task', c.entries[k]? = some entry →
      c.traffic.tasks[k]? = some task → I c.traffic.client entry task →
      c.traffic.client.Advance task t client task' →
        I client (entry.add (task.hears t) (c.traffic.client.added client)) task')
    (h : c.Next e c') : c'.Each I := by
  cases h with
  | @begin step client task ho =>
    refine ⟨by simp [q.1], ?_⟩
    intro k entry task' hk ht
    -- The old entries stay where they are, and the new one comes last.
    by_cases hlt : k < c.entries.length
    · rw [List.getElem?_append_left hlt] at hk
      rw [List.getElem?_append_left (q.1 ▸ hlt)] at ht
      exact others k entry task' hk ht nofun (q.2 k entry task' hk ht)
    · obtain rfl : k = c.entries.length := by
        have := (List.getElem?_eq_some_iff.1 hk).1
        simp at this
        omega
      obtain rfl : { step, made := c.traffic.client.added client } = entry := by simpa using hk
      obtain rfl : task = task' := by simpa [q.1] using ht
      exact begin step client task ho
  | @turn k t task client task' hk ha =>
    refine ⟨by simp [q.1], ?_⟩
    intro j entry task₁ hj ht
    rw [List.getElem?_modify] at hj
    rw [List.getElem?_set] at ht
    -- Only the entry whose task had its turn has changed.
    by_cases hkj : k = j
    · subst hkj
      obtain ⟨hlt, -⟩ := List.getElem?_eq_some_iff.1 hk
      obtain rfl : task' = task₁ := by simpa [hlt] using ht
      obtain ⟨old, ho, he⟩ := Option.map_eq_some_iff.1 hj
      simp only [if_true] at he
      exact he ▸ turn k old t task client task' ho hk (q.2 k old task ho hk) ha
    · rw [if_neg hkj] at ht
      simp only [if_neg hkj, id_map'] at hj
      exact others j entry task₁ hj ht (by simp [hkj]) (q.2 j entry task₁ hj ht)

/-- What every outset brings about and every advance keeps holds of each entry in every run. -/
theorem each_of_reached
    (others : ∀ client client' entry task, Client.Grows client client' →
      I client entry task → I client' entry task)
    (begin : ∀ (c : Chronicle) step client task, c.Reached generation object settings →
      c.traffic.client.Outset step client task →
        I client { step, made := c.traffic.client.added client } task)
    (turn : ∀ (c : Chronicle) (k : Nat) entry t task client task',
      c.Reached generation object settings → c.entries[k]? = some entry →
      c.traffic.tasks[k]? = some task →
      I c.traffic.client entry task → c.traffic.client.Advance task t client task' →
        I client (entry.add (task.hears t) (c.traffic.client.added client)) task')
    (h : c.Reached generation object settings) : c.Each I :=
  h.induction (each_connected I) fun c _ _ hr q hn => q.step
    (fun _ entry task _ _ _ => others _ _ entry task hn.grows)
    (fun step client task => begin c step client task hr)
    (fun k entry t task client task' => turn c k entry t task client task' hr) hn

end Chronicle

end RemoteRecorder
