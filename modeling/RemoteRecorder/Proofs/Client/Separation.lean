import RemoteRecorder.Proofs.Client.Possession

/-!
# RemoteRecorder.Proofs.Client.Separation

**Recordings have nothing to do with each other**, if who works on one has it to himself but for
those who close it.

* Besides closes at most one operation is at work on a recording (`Chronicle.Alone`).
* So a recording keeps its number while calls about it are under way, and the calls of a step name
  that number, or one that the step itself has brought (`Chronicle.Tied`).
* A step leaves all other recordings and all streams as they are, and its calls name no session that
  is another recording's own (`Chronicle.steps_keep_to_their_recording`).
-/

namespace RemoteRecorder

open Client (Step Task Answer)
open Recording (Caller)

namespace Client

variable {c c' : Client} {task task' : Task} {t : Caller.Turn} {i : Nat} {x' : Caller}

/-- Whether the sessions that a task has to do with are that of its recording, as it is now, and
those that its step has brought. -/
def Tied (c : Client) (entry : Entry) (task : Task) : Prop :=
  ∀ (i : Nat) (x : Caller) (r : Recording), task.seat? = some (i, x) → c.contents[i]? = some r →
    x.Handles (fun id => id = r.id ∨ id ∈ broughtBy entry.heard) r.id

/-- Who is at work on a recording has been so before. -/
theorem Advance.eq_recording (h : Advance c task t c' task') (ht : task' = .recording i x') :
    ∃ x, task = .recording i x := by
  have parted (c : Client) (j : Nat) (answer : Answer) :
      c.afterParting j answer ≠ .recording i x' := by
    unfold afterParting
    split <;> simp
  cases h with
  | @move j x t r r' x₁ hr m =>
    obtain ⟨rfl, -⟩ : j = i ∧ x₁ = x' := by simpa using ht
    exact ⟨x, rfl⟩
  | @depart j o => cases o <;> exact (parted _ _ _ ht).elim
  | finish =>
    unfold afterChore at ht
    split at ht
    all_goals try cases ht
    split at ht <;> cases ht
  | _ => cases ht

end Client

namespace Chronicle

variable {c c' c₀ : Chronicle} {e : Traffic.Event} {i j k n : Nat} {id : SessionId} {entry : Entry}
  {generation : Generation} {object : ObjectName} {settings : Settings} {task : Task} {x : Caller}
  {schedule before after : List Traffic.Event}

/-! ## Runs in which steps begin when they may

A caller reads the number of its recording and uses it in a later call. If another start could come
in between, the call would name a session that the recording does not show any more. The runs here
are therefore those in which a step on a recording begins only while nobody else is at work on it,
apart from closes and drops, which may begin during a call. -/

/-- Whether a chronicle is one of what can happen after the connection if steps begin only when they
may. -/
def Played (generation : Generation) (object : ObjectName) (settings : Settings)
    (c : Chronicle) : Prop :=
  ∃ schedule, (connected generation object settings).play schedule = some c

theorem Played.reached (h : c.Played generation object settings) :
    c.Reached generation object settings :=
  h.imp fun _ => rush_of_play

theorem Played.record {s : Traffic} (h : c.Played generation object settings)
    (hs : c.traffic.step? e = some s) : (c.record e s).Played generation object settings := by
  obtain ⟨past, hp⟩ := h
  refine ⟨past ++ [e], ?_⟩
  rw [play, follow_append]
  refine Option.bind_eq_some_iff.2 ⟨c, hp, ?_⟩
  simp [follow, hs]

/-- What every event keeps that may happen holds wherever a run has led. -/
theorem Played.induction {P : Chronicle → Prop} (h₀ : P (connected generation object settings))
    (step : ∀ c e c', c.Played generation object settings → P c → c.Next e c' →
      (∀ step, e = .begin step → c.traffic.admits step = true) → P c')
    (h : c.Played generation object settings) : P c := by
  obtain ⟨schedule, hs⟩ := h
  refine (follow_induction (P := fun c => c.Played generation object settings ∧ P c)
    ⟨⟨[], rfl⟩, h₀⟩ ?_ hs).2
  intro c e s ⟨hr, hp⟩ he
  refine ⟨hr.record he, step c e _ hr hp
    (next_of_rush? hr.reached.sourced (Traffic.rush?_of_step? he)) ?_⟩
  rintro step rfl
  exact (Traffic.step?_begin he).1

/-! ## Alone with a recording

A close is admitted during the calls of others, so who works on a recording is alone with it only in
this sense: everybody else has come to close it. -/

/-- Whether a task is at work on a recording for something else than to close it. -/
def Busy (c : Chronicle) (i k : Nat) : Prop :=
  ∃ (entry : Entry) (x : Caller) (op : Recording.Operation), c.entries[k]? = some entry ∧
    c.traffic.tasks[k]? = some (.recording i x) ∧ entry.step = .operate i op ∧ op ≠ .close

/-- Whether at most one task is at work on each recording for something else than to close it. -/
def Alone (c : Chronicle) : Prop := ∀ i k n, c.Busy i k → c.Busy i n → k = n

theorem not_busy_of_isIdle (h : c.traffic.isIdle i = true) : ¬ c.Busy i k := by
  rintro ⟨entry, x, op, -, hk, -⟩
  have idle := List.all_eq_true.1 h _ (List.mem_of_getElem? hk)
  simp [Task.seat?] at idle

/-- Who is busy after an event has been so before, or has just begun. -/
theorem Busy.of_next (hl : c.entries.length = c.traffic.tasks.length) (hn : c.Next e c')
    (h : c'.Busy i k) : c.Busy i k ∨
      k = c.entries.length ∧ ∃ op, e = .begin (.operate i op) ∧ op ≠ .close := by
  obtain ⟨entry, x, op, he, hk, hs, hop⟩ := h
  cases hn with
  | @begin step client task ho =>
    by_cases hlt : k < c.entries.length
    · rw [List.getElem?_append_left hlt] at he
      rw [List.getElem?_append_left (hl ▸ hlt)] at hk
      exact .inl ⟨entry, x, op, he, hk, hs, hop⟩
    · obtain rfl : k = c.entries.length := by
        have := (List.getElem?_eq_some_iff.1 he).1
        simp at this
        omega
      obtain rfl : _ = entry := by simpa using he
      exact .inr ⟨rfl, op, congrArg _ hs, hop⟩
  | @turn m t task client task' hm ha =>
    rw [List.getElem?_set] at hk
    by_cases hmk : m = k
    · subst hmk
      obtain ⟨hlt, -⟩ := List.getElem?_eq_some_iff.1 hm
      obtain rfl : task' = .recording i x := by simpa [hlt] using hk
      obtain ⟨x₀, rfl⟩ := ha.eq_recording rfl
      obtain ⟨old, ho, rfl⟩ : ∃ old, c.entries[m]? = some old ∧
          old.add _ (c.traffic.client.added client) = entry := by simpa using he
      exact .inl ⟨old, x₀, op, ho, hm, hs, hop⟩
    · rw [if_neg hmk] at hk
      have same : c.entries[k]? = some entry := by simpa [hmk] using he
      exact .inl ⟨entry, x, op, same, hk, hs, hop⟩

/-- A step on a recording begins where nobody else is busy with it. -/
theorem Played.alone (h : c.Played generation object settings) : c.Alone := by
  refine h.induction (P := Alone) (fun _ _ _ ⟨_, _, _, he, _⟩ => nomatch he) ?_
  intro c e c' hr q hn may i k n hk hn'
  have hl := hr.reached.engaged.1
  have idle {op : Recording.Operation} (he : e = .begin (.operate i op)) (hop : op ≠ .close)
      (m : Nat) : ¬ c.Busy i m := by
    refine not_busy_of_isIdle ?_
    have admitted := may _ he
    cases op <;> first | exact admitted | exact (hop rfl).elim
  rcases hk.of_next hl hn with hk | ⟨rfl, op, he, hop⟩
  · rcases hn'.of_next hl hn with hn' | ⟨rfl, op, he, hop⟩
    · exact q i k n hk hn'
    · exact (idle he hop k hk).elim
  · rcases hn'.of_next hl hn with hn' | ⟨rfl, -⟩
    · exact (idle he hop n hn').elim
    · rfl

/-! ## The number of a recording

It is written in one place only, by a start that has just brought it. Whoever else is around by then
has come to close the recording, and is not the one that releases its session. -/

/-- Only who has started a session changes the number of a recording. -/
theorem Next.id_cases {r r' : Recording} (hr : c.Reached generation object settings)
    (hn : c.Next e c') (hi : c.traffic.client.contents[i]? = some r)
    (hi' : c'.traffic.client.contents[i]? = some r') : r'.id = r.id ∨
      ∃ n t task, e = .turn n t ∧ c.traffic.tasks[n]? = some task ∧
        task.seat? = some (i, .assigning r'.id) := by
  cases hn with
  | begin ho => exact .inl (congrArg _ (Option.some.inj (hi'.symm.trans (ho.contents hi))))
  | @turn n t task client task' hk ha =>
    cases ha.work (hr.sourced.tasks task (List.mem_of_getElem? hk)) with
    | aside hc hs ha' =>
      have same : client.contents[i]? = some r := hc ▸ Client.getElem?_append_of_some hi
      exact .inl (congrArg _ (Option.some.inj (hi'.symm.trans same)))
    | @move j x r₁ r₁' x' hs hs' hj m hc =>
      by_cases hij : j = i
      · subst hij
        obtain rfl := Option.some.inj (hi.symm.trans hj)
        have moved : client.contents[j]? = some r₁' := by
          rw [hc, List.getElem?_set_self (List.getElem?_eq_some_iff.1 hj).1]
        obtain rfl := Option.some.inj (hi'.symm.trans moved)
        rcases m.id_cases with hid | rfl
        · exact .inl hid
        · exact .inr ⟨n, t, task, rfl, hk, hs⟩
      · have same : client.contents[i]? = some r := by
          rw [hc, List.getElem?_set_ne hij]
          exact hi
        exact .inl (congrArg _ (Option.some.inj (hi'.symm.trans same)))

/-- While somebody writes the number of a recording, the others are there only to close it, and do
not release a session. -/
theorem Played.closes_of_assigning (hr : c.Played generation object settings) {task' : Task}
    (hn : c.traffic.tasks[n]? = some task') (hs' : task'.seat? = some (i, .assigning id))
    (hk : c.traffic.tasks[k]? = some task) (hs : task.seat? = some (i, x)) (hne : n ≠ k) :
    x.role = .bystander ∧ ∃ terms, x.Pursues terms .close := by
  have hx : c.traffic.fleet.caller? i k = some x := Traffic.caller?_fleet.2 ⟨task, hk, hs⟩
  have hn' : c.traffic.fleet.caller? i n = some (.assigning id) :=
    Traffic.caller?_fleet.2 ⟨task', hn, hs'⟩
  have hlt := hr.reached.sourced.fleet.seated i k x hx
  have order := (hr.reached.sourced.fleet.recordings i _ (List.getElem?_eq_getElem hlt)).order
  obtain ⟨entry', he', engaged'⟩ := hr.reached.engaged.entry hn
  obtain ⟨entry, he, engaged⟩ := hr.reached.engaged.entry hk
  refine ⟨?_, ?_⟩
  · rw [← Recording.Sourced.rolesOf_eq hx]
    refine order.others (k := n) ?_ (Ne.symm hne)
    rw [Recording.Sourced.rolesOf_eq hn']
    exact nofun
  · -- Whoever writes a number is starting the recording, and alone with it.
    have starter : c.Busy i n := by
      obtain ⟨terms, op, pursues, h⟩ := engaged'.pursues hs'
      obtain rfl : op = .start := pursues
      obtain ⟨rfl, hstep⟩ := h.resolve_left nofun
      exact ⟨entry', _, .start, he', hn, hstep, nofun⟩
    obtain ⟨terms, op, pursues, h⟩ := engaged.pursues hs
    by_cases hop : op = .close
    · exact ⟨terms, hop ▸ pursues⟩
    · obtain ⟨rfl, hstep⟩ := h.resolve_left hop
      exact (hne (hr.alone i n k starter ⟨entry, x, op, he, hk, hstep, hop⟩)).elim

/-- Who is about to leave the transition to a session has just brought it. -/
theorem Reached.brought_of_settling (hr : c.Reached generation object settings)
    (he : c.entries[k]? = some entry) (hk : c.traffic.tasks[k]? = some task)
    (hs : task.seat? = some (i, .settlingStart id)) : id ∈ broughtBy entry.heard := by
  obtain ⟨terms, op, pursues, h⟩ := (hr.engaged.2 k entry task he hk).pursues hs
  obtain rfl : op = .start := pursues
  obtain ⟨rfl, -⟩ := h.resolve_left nofun
  exact hr.speaks.2 k entry _ he hk

/-- Callers have to do with the session of their recording, as it is now. -/
theorem Played.tied (h : c.Played generation object settings) : c.Each Client.Tied := by
  refine h.induction (P := Each Client.Tied) (each_connected _) ?_
  intro c e c' hr q hn may
  have reached := hr.reached
  refine q.step ?_ ?_ ?_ hn
  · -- The others notice at most that the number changes.
    intro k entry task he hk hne tied i x r' hs hi'
    have hx : c.traffic.fleet.caller? i k = some x := Traffic.caller?_fleet.2 ⟨task, hk, hs⟩
    have hi := List.getElem?_eq_getElem (reached.sourced.fleet.seated i k x hx)
    have old := tied i x _ hs hi
    rcases hn.id_cases reached hi hi' with hid | ⟨n, t, task', rfl, hn', hs'⟩
    · rw [hid]
      exact old
    · have other : n ≠ k := by
        rintro rfl
        exact hne t rfl
      obtain ⟨bystander, terms, pursues⟩ := hr.closes_of_assigning hn' hs' hk hs other
      exact Caller.handles_of_close pursues bystander
  · intro step client task ho i x r hs hi
    rcases ho.seat? with h | ⟨i', op, h, -⟩
    · cases h.symm.trans hs
    · obtain ⟨rfl, rfl⟩ : i' = i ∧ .begun op = x := by simpa using h.symm.trans hs
      trivial
  · intro k entry t task client task' he hk tied ha i x' r' hs' hi'
    cases ha.work (reached.sourced.tasks task (List.mem_of_getElem? hk)) with
    | aside hc hs ha' =>
      rcases hs with hs | ⟨i', x, -, hs⟩
      · cases hs.symm.trans hs'
      · obtain ⟨rfl, rfl⟩ : i' = i ∧ .begun .close = x' := by simpa using hs.symm.trans hs'
        trivial
    | @move j x r r₁' x₁' hs hs₁' hj m hc =>
      obtain ⟨rfl, rfl⟩ : j = i ∧ x₁' = x' := by simpa using hs₁'.symm.trans hs'
      have moved : client.contents[j]? = some r₁' := by
        rw [hc, List.getElem?_set_self (List.getElem?_eq_some_iff.1 hj).1]
      obtain rfl := Option.some.inj (hi'.symm.trans moved)
      have settling (id : SessionId) (hx : x = .settlingStart id) :
          id = r.id ∨ id ∈ broughtBy entry.heard :=
        .inr (reached.brought_of_settling he hk (hx ▸ hs))
      have kept := m.handles (fun _ => .inl rfl) settling (tied j x r hs hj)
      rcases m.id_cases with hid | rfl
      · refine kept.imp ?_
        rintro id (rfl | hb)
        · exact .inl hid.symm
        · exact .inr (Backend.mem_broughtBy_append hb)
      · exact m.handles_of_assigning

/-! ## What calls name

Two things are put together: a call names what its caller has to do with (`Tied`), and no two
recordings have a session in common (`Reached.eq_of_owns`). -/

/-- A call of somebody who works on a recording names the session that he has to do with, or, until
he parts from the recording, one that his step has brought. -/
theorem Reached.names_cases {call : Call} (hr : c.Reached generation object settings)
    (he : c.entries[k]? = some entry) (hk : c.traffic.tasks[k]? = some task)
    (hs : task.seat? = some (i, x)) (hp : task.pending? = some call) (hn : call.Names id) :
    (∃ errand rest, x = .asking errand rest ∧ errand.session? = some id) ∨
      id ∈ broughtBy entry.heard ∧ task = .recording i x := by
  have speaks := hr.speaks.2 k entry task he hk
  obtain rfl | ⟨answer, rfl⟩ := Task.seat?_eq_some_iff.1 hs
  · obtain ⟨errand, rest, rfl, -, about⟩ := Caller.Speaks.isAbout speaks hp
    exact (about id hn).imp (fun h => ⟨errand, rest, rfl, h⟩) fun h => ⟨h, rfl⟩
  · obtain ⟨heard, quiet, spoken, -⟩ := speaks
    obtain ⟨errand, rest, rfl, -, about⟩ := spoken.isAbout hp
    refine .inl ⟨errand, rest, rfl, (about id hn).resolve_right ?_⟩
    simp [quiet]

/-- Whether the steps of a client keep to the sessions of the recordings that they are about. -/
structure KeepsApart (c : Chronicle) : Prop where
  /-- The calls about a recording are made for a step on it. They name the session that the
  recording shows, or one that the step has brought. -/
  named : ∀ (k i : Nat) (entry : Entry) (task : Task) (x : Caller) (r : Recording) (call : Call)
    (id : SessionId), c.entries[k]? = some entry → c.traffic.tasks[k]? = some task →
    task.seat? = some (i, x) → task.pending? = some call →
    c.traffic.client.contents[i]? = some r → call.Names id →
      entry.step.recording? = some i ∧ (id = r.id ∨ id ∈ broughtBy entry.heard)
  /-- The sessions that recordings show are their own. -/
  shown : ∀ (j : Nat) (r : Recording), c.traffic.client.contents[j]? = some r →
    r.cell.phase.hasSession = true → c.Owns j r.id
  /-- If the target names no session twice, a call about one recording names no session that is the
  own of another one. -/
  apart : (brought c.traffic.log).Nodup → ∀ (k i j : Nat) (task : Task) (x : Caller) (call : Call)
    (id : SessionId), c.traffic.tasks[k]? = some task → task.seat? = some (i, x) →
    task.pending? = some call → call.Names id → c.Owns j id → j = i

theorem Played.keepsApart (hr : c.Played generation object settings) : c.KeepsApart := by
  have reached := hr.reached
  refine ⟨?_, fun j r hj => (reached.possession hj).recording, ?_⟩
  · intro k i entry task x r call id he hk hs hp hi hn
    refine ⟨(reached.engaged.2 k entry task he hk).recording? hs, ?_⟩
    rcases reached.names_cases he hk hs hp hn with ⟨errand, rest, rfl, hid⟩ | ⟨hb, -⟩
    · exact hr.tied.2 k entry task he hk i _ r hs hi id hid
    · exact .inr hb
  · intro nodup k i j task x call id hk hs hp hn owns
    have hx : c.traffic.fleet.caller? i k = some x := Traffic.caller?_fleet.2 ⟨task, hk, hs⟩
    obtain ⟨entry, he, engaged⟩ := reached.engaged.entry hk
    rcases reached.names_cases he hk hs hp hn with ⟨errand, rest, rfl, hid⟩ | ⟨hb, rfl⟩
    · have hi := List.getElem?_eq_getElem (reached.sourced.fleet.seated i k _ hx)
      have own : c.Owns i id := (reached.possession hi).handles k _ hx id hid
      exact reached.eq_of_owns nodup owns own
    · -- The step has brought the session and is still at work, so it has made nothing of it.
      obtain ⟨n, entry', hn', ho, hb'⟩ := owns
      obtain rfl := reached.eq_of_brought nodup he hn' hb hb'
      obtain rfl := Option.some.inj (he.symm.trans hn')
      have about := engaged.recording? hs
      rcases ho with ho | ho
      · rw [ho] at about
        exact Option.some.inj about
      · rw [engaged.1] at ho
        cases ho

/-- Whether everything is left as it is that no turn of a schedule is about. -/
structure Leaves (c₀ : Chronicle) (meanwhile : List Traffic.Event) (c : Chronicle) : Prop where
  /-- No recording is lost, and none ever gets on other terms. -/
  terms : ∀ (j : Nat) (r : Recording), c₀.traffic.client.contents[j]? = some r →
    ∃ r', c.traffic.client.contents[j]? = some r' ∧ r'.terms = r.terms
  recordings : ∀ (j : Nat) (r : Recording), c₀.traffic.client.contents[j]? = some r →
    (∀ e ∈ meanwhile, ¬ c.Touches Step.recording? j e) → c.traffic.client.contents[j]? = some r
  streams : ∀ (j : Nat) (s : Stream), c₀.traffic.client.content? j = some s →
    (∀ e ∈ meanwhile, ¬ c.Touches Step.stream? j e) → c.traffic.client.content? j = some s

/-- Whatever is done with a recording, and whoever closes it meanwhile: all other recordings and all
streams stay as they are, only a clone that succeeds makes a recording, and one only, and the calls
name no session of another recording. -/
theorem steps_keep_to_their_recording
    (hb : (connected generation object settings).play before = some c₀)
    (ha : c₀.play after = some c) :
    c₀.Leaves after c ∧
    (∀ (k : Nat) (entry : Entry) (answer : Answer), c.entries[k]? = some entry →
      c.traffic.tasks[k]? = some (.ended answer) → c.traffic.client.Concluded entry answer) ∧
    (c.entries.flatMap Entry.made).Perm (List.range c.traffic.client.contents.length) ∧
    c.KeepsApart := by
  have hr₀ : c₀.Reached generation object settings := ⟨before, rush_of_play hb⟩
  have hr : c.Played generation object settings := by
    refine ⟨before ++ after, ?_⟩
    rw [play, follow_append]
    exact Option.bind_eq_some_iff.2 ⟨c₀, hb, ha⟩
  have rushed := rush_of_play ha
  refine ⟨⟨?_, ?_, ?_⟩, ?_, hr.reached.made_perm, hr.keepsApart⟩
  · exact (hr₀.grows rushed).recordings
  · exact fun j r hj => hr₀.recording_stays rushed hj
  · exact fun j s hj => hr₀.stream_stays rushed hj
  · exact fun k entry answer he ht => hr.reached.engaged.2 k entry _ he ht

/-- A recording is started and then cloned. -/
def cloning : List Traffic.Event :=
  Traffic.started [.ok (.long 5), .ok .void, .ok .void, .ok .void] ++ [.turn 1 .act] ++
    [.begin (.operate 0 (.clone false))] ++ List.replicate 3 (.turn 2 .act) ++
    [.turn 2 (.reply (.ok (.long 6)))] ++ List.replicate 3 (.turn 2 .act)

/-- A clone is given up, until its session is about to be stopped. -/
def dropping : List Traffic.Event := .begin (.drop 1) :: List.replicate 3 (.turn 3 .act)

/-- The clone is given up. The recording that has been cloned runs on, with a session that the call
does not name. -/
theorem steps_keep_to_their_recording_dropped :
    ∃ c₀ c, (connected .structured Generation.structured.objectName {}).play cloning = some c₀ ∧
      c₀.play dropping = some c ∧ (brought c.traffic.log).Nodup ∧
      (c.traffic.tasks[3]?).bind Task.pending? =
        some ⟨Generation.structured.objectName, "stopRecording", [.ofId ⟨6⟩]⟩ ∧
      (∃ r, c.traffic.client.contents[0]? = some r ∧ r.cell = ⟨.active, ⟨5⟩⟩) ∧
      c₀.Leaves dropping c ∧ c.KeepsApart := by
  obtain ⟨c₀, c, hb, ha, hn, hp, hr⟩ : ∃ c₀ c,
      (connected .structured Generation.structured.objectName {}).play cloning = some c₀ ∧
      c₀.play dropping = some c ∧ (brought c.traffic.log).Nodup ∧
      (c.traffic.tasks[3]?).bind Task.pending? =
        some ⟨Generation.structured.objectName, "stopRecording", [.ofId ⟨6⟩]⟩ ∧
      ∃ r, c.traffic.client.contents[0]? = some r ∧ r.cell = ⟨.active, ⟨5⟩⟩ := by
    refine ⟨_, _, rfl, rfl, ?_, rfl, _, rfl, rfl⟩
    decide
  obtain ⟨leaves, -, -, apart⟩ := steps_keep_to_their_recording hb ha
  exact ⟨c₀, c, hb, ha, hn, hp, hr, leaves, apart⟩

end Chronicle

end RemoteRecorder
