import RemoteRecorder.Proofs.Client.Separation
import RemoteRecorder.Proofs.Client.Verdict
import RemoteRecorder.Proofs.Recording.Course

/-!
# RemoteRecorder.Proofs.Client.Abandonment

**A start that is unwound abandons the session that it has created**, in every run of a client of
a target with a recorder object.

* Every turn keeps a start on its course, and whoever ends one that was unwound says so
  (`Client.OnCourse`, `Chronicle.Reached.onCourse`).
* Recordings and their callers have only sessions whose start has succeeded (`earning_succeeds`). So
  a session is lost if its start has not (`Reached.lost`).
* There are three things that become of a session that a start has created (`Chronicle.Fate`):
  it is set up, or released after a failure, or abandoned (`released_unless_abandoned`).
-/

namespace RemoteRecorder

open Client (Step Task Answer)
open Recording (Caller StartCourse)
open Backend.Structured (Answered Started created releaseCall setUpCalls)

namespace Client

variable {c c' : Client} {entry : Entry} {step : Step} {task task' : Task} {t : Caller.Turn}
  {answer : Answer} {object : ObjectName} {i : Nat}

/-! ## The course of a start

What has been shown of the calls of a single start holds of each start in a run of a client. A start
is over when its task has ended, or when it only closes the recording because all others have left
it; by then its answer says whether it was cut off. -/

/-- Whether a start has called nothing, or has taken a course that is told by its answer if it has
been unwound. -/
def Completed (object : ObjectName) (c : Client) (entry : Entry) (answer : Answer) : Prop :=
  ∀ i, entry.step = .operate i .start → entry.heard = [] ∨
    ∃ r o, c.contents[i]? = some r ∧ StartCourse object r.terms entry.heard o ∧
      ∀ text, o = .unwound text → ∃ text, answer = .unwound text

/-- How far a start has come by the time that a task has got somewhere. -/
def OnCourse (object : ObjectName) (c : Client) (entry : Entry) : Task → Prop
  | .recording i x => entry.step = .operate i .start →
    ∃ r, c.contents[i]? = some r ∧ x.OnCourse object r.terms entry.heard
  | .farewell _ _ answer | .ended answer => c.Completed object entry answer
  | _ => True

theorem Completed.grows (h : c.Completed object entry answer) (g : c.Grows c') :
    c'.Completed object entry answer := by
  intro i hs
  refine (h i hs).imp_right ?_
  rintro ⟨r, o, hr, hc, ho⟩
  obtain ⟨r', hr', ht⟩ := g.recordings i r hr
  exact ⟨r', o, hr', ht ▸ hc, ho⟩

theorem OnCourse.grows (h : c.OnCourse object entry task) (g : c.Grows c') :
    c'.OnCourse object entry task := by
  cases task with
  | recording i x =>
    intro hs
    obtain ⟨r, hr, hx⟩ := h hs
    obtain ⟨r', hr', ht⟩ := g.recordings i r hr
    exact ⟨r', hr', ht ▸ hx⟩
  | farewell i x answer => exact Completed.grows h g
  | ended answer => exact Completed.grows h g
  | _ => trivial

theorem completed_of_heard (h : entry.heard = []) : c.Completed object entry answer :=
  fun _ _ => .inl h

theorem onCourse_afterParting (h : c.Completed object entry answer) :
    c.OnCourse object entry (c.afterParting i answer) := by
  unfold afterParting
  split <;> exact h

theorem Outset.onCourse (h : Outset c step c' task) (made : List Nat) :
    c'.OnCourse object { step, made } task := by
  cases h with
  | answered | misplanned | created => exact completed_of_heard rfl
  | operate hr =>
    intro _
    exact ⟨_, contents_enterRecording ▸ contents_of_recording? hr, rfl⟩
  | drop hr => exact onCourse_afterParting (completed_of_heard rfl)
  | _ => trivial

/-- Nothing is known of a step that is no start. -/
theorem completed_of_ne (h : ∀ i, entry.step ≠ .operate i .start) :
    c.Completed object entry answer :=
  fun i hs => (h i hs).elim

/-- Where nothing is heard, it does not matter what has been made. -/
theorem OnCourse.quiet (h : c.OnCourse object entry task) (made : List Nat) :
    c.OnCourse object (entry.add [] made) task := by
  have heard : (entry.add [] made).heard = entry.heard := List.append_nil _
  cases task with
  | recording i x =>
    intro hs
    rw [heard]
    exact h hs
  | farewell i x answer | ended answer =>
    intro i hs
    rw [heard]
    exact h i hs
  | _ => trivial

/-- Who parts from a recording at the end of a start says if he has been unwound. -/
theorem OnCourse.depart {o : Outcome Recording.Yield}
    (h : c.OnCourse object entry (.recording i (.ended o)))
    (hs : ∀ j, entry.step = .operate j .start → j = i) (g : c.Grows (c.depart i o).1) :
    (c.depart i o).1.OnCourse object entry (c.depart i o).2 := by
  have completed (answer : Answer)
      (ho : ∀ text, o = .unwound text → ∃ text, answer = .unwound text) :
      (c.depart i o).1.Completed object entry answer := by
    refine Completed.grows ?_ g
    intro j hj
    obtain rfl := hs j hj
    obtain ⟨r, hr, hc⟩ := h hj
    exact .inr ⟨r, o, hr, hc, ho⟩
  cases o with
  | returned result => exact onCourse_afterParting (completed _ nofun)
  | unwound text => exact onCourse_afterParting (completed _ fun _ _ => ⟨text, rfl⟩)

theorem onCourse_afterChore {chore : Chore} {result : Except Error chore.Brings}
    (h : ∀ i, entry.step ≠ .operate i .start) :
    c.OnCourse object entry (c.afterChore i chore result) := by
  unfold afterChore
  split
  all_goals try exact completed_of_ne h
  split
  · exact completed_of_ne h
  · trivial

/-- Who makes a single request or works on a stream does not start a recording. -/
theorem Engaged.ne_start (h : c.Engaged entry task) (hs : task.seat? = none)
    (ht : ∀ answer, task ≠ .ended answer) (i : Nat) : entry.step ≠ .operate i .start := by
  intro he
  cases task with
  | recording | farewell => cases hs
  | direct rest =>
    obtain ⟨-, request, hstep⟩ := h
    cases he.symm.trans hstep
  | stream j chore rest =>
    have about := h.2
    rw [he] at about
    cases about
  | ended answer => exact ht answer rfl

/-- A turn keeps a start on its course. -/
theorem Advance.onCourse (hb : c.connection.backend = .structured object)
    (h : Advance c task t c' task') (engaged : c.Engaged entry task)
    (informed : Informed .structured entry task) (q : c.OnCourse object entry task)
    (made : List Nat) : c'.OnCourse object (entry.add (task.hears t) made) task' := by
  have g := h.grows
  cases h with
  | @move i x t r r' x' hr m =>
    intro hs
    have hs : entry.step = .operate i .start := hs
    obtain ⟨r₁, hr₁, hx⟩ := q hs
    obtain rfl := Option.some.inj (hr.symm.trans hr₁)
    obtain ⟨-, op, r₁, hstep, hr₁, pursues⟩ := engaged
    obtain rfl := Option.some.inj (hr.symm.trans hr₁)
    obtain rfl : op = .start := by simpa [hs] using hstep.symm
    obtain ⟨op, hstep', told⟩ := informed
    obtain rfl : op = .start := by simpa [hs] using hstep'.symm
    refine ⟨r', ?_, ?_⟩
    · rw [contents_setRecording, List.getElem?_set_self (List.getElem?_eq_some_iff.1 hr).1]
    · rw [hb] at m
      rw [m.terms_eq]
      exact m.onCourse pursues told hx
  | @depart i o =>
    obtain ⟨-, op, r, hstep, -⟩ := engaged
    refine OnCourse.quiet (q.depart ?_ g) _
    intro j hj
    rw [hstep] at hj
    cases hj
    rfl
  | @farewell i x t r r' x' answer hr m =>
    have q' : (c.setRecording i r').OnCourse object entry (.farewell i x' answer) :=
      Completed.grows q g
    cases t <;> exact q'.quiet _
  | part => exact q.quiet _
  | @partUnwound i text answer =>
    have q' : c.OnCourse object entry (.ended (.unwound text)) := by
      intro j hj
      refine (q j hj).imp_right ?_
      rintro ⟨r, o, hr, hc, -⟩
      exact ⟨r, o, hr, hc, fun _ _ => ⟨text, rfl⟩⟩
    exact q'.quiet _
  -- A task that asks the connection or a stream is never a start.
  | conclude | directCut text | streamCut text =>
    exact completed_of_ne (engaged.ne_start rfl (by simp))
  | finish => exact onCourse_afterChore (engaged.ne_start rfl (by simp))
  | directNote | directReply reply => trivial
  | streamNote | streamKeep | streamReply reply => trivial

end Client

namespace Chronicle

variable {c : Chronicle} {i k : Nat} {id : SessionId} {entry : Entry} {object : ObjectName}
  {settings : Settings} {answer : Answer} {schedule : List Traffic.Event}

/-- All starts are on their course, wherever a run has led. -/
theorem Reached.onCourse (h : c.Reached .structured object settings) :
    c.Each fun client entry task => client.OnCourse object entry task := by
  refine each_of_reached (fun _ _ _ _ g q => q.grows g) (fun _ _ _ _ _ ho => ho.onCourse _) ?_ h
  intro c k entry t task client task' hr he hk q ha
  refine ha.onCourse ?_ (hr.engaged.2 k entry task he hk) (hr.informed.2 k entry task he hk) q _
  rw [hr.connection]
  rfl

/-! ## What becomes of the session

A session that a start has created can be found in the calls of that start alone, because no other
call of it creates one. So it is enough to look at how far the calls have come: all of them have
succeeded, one of them has failed, or one of them has unwound. -/

/-- Whether calls begin with those of a start that has succeeded. -/
def Succeeds (object : ObjectName) (heard : List Contact) : Prop :=
  ∃ options configuration contacts later id,
    Started object options configuration contacts (.ok id) ∧ heard = contacts ++ later

/-- Only who has started a session gets to know it. -/
theorem earning_succeeds : Earning .structured object settings (Succeeds object) := by
  refine ⟨?_, ?_⟩
  · rintro heard more ⟨options, configuration, contacts, later, id, hs, rfl⟩
    exact ⟨options, configuration, contacts, later ++ more, id, hs, List.append_assoc ..⟩
  · intro c k i entry l id hr he hs hk
    obtain ⟨r, -, course⟩ := hr.onCourse.2 k entry _ he hk hs
    exact ⟨r.options, r.configuration, entry.heard, [], id, course, (List.append_nil _).symm⟩

/-- Whether a session is lost to a client: no recording has it, and nobody who works on a recording
is making a call that names it. -/
structure Lost (c : Chronicle) (id : SessionId) : Prop where
  shown : ∀ (j : Nat) (r : Recording), c.traffic.client.contents[j]? = some r →
    r.cell.phase.hasSession = true → r.id ≠ id
  unnamed : ∀ (m j : Nat) (task : Task) (x : Caller) (call : Call),
    c.traffic.tasks[m]? = some task → task.seat? = some (j, x) → task.pending? = some call →
      ¬ call.Names id

/-- A session is lost if the start that has brought it is over and has not succeeded. -/
theorem Reached.lost (hr : c.Reached .structured object settings)
    (nodup : (brought c.traffic.log).Nodup) (he : c.entries[k]? = some entry)
    (hs : entry.step = .operate i .start) (ht : c.traffic.tasks[k]? = some (.ended answer))
    (hb : id ∈ broughtBy entry.heard) (failed : ¬ Succeeds object entry.heard) : c.Lost id := by
  have unearned (j : Nat) : ¬ c.Earns (Succeeds object) j id := by
    rintro ⟨m, entry', hm, ho, hb'⟩
    obtain rfl := hr.eq_of_brought nodup he hm hb hb'
    obtain rfl := Option.some.inj (he.symm.trans hm)
    rcases ho with ⟨-, succeeds⟩ | made
    · exact failed succeeds
    · obtain hm | ⟨n, -, no, -⟩ := (hr.engaged.2 k entry _ he ht).made_cases
      · rw [hm] at made
        cases made
      · exact no i hs
  have possessive := hr.possessive earning_succeeds
  refine ⟨?_, ?_⟩
  · rintro j r hj session rfl
    exact unearned j ((possessive j r hj).recording session)
  · intro m j task x call hm seat pending names
    have hx : c.traffic.fleet.caller? j m = some x := Traffic.caller?_fleet.2 ⟨task, hm, seat⟩
    obtain ⟨entry', he', -⟩ := hr.engaged.entry hm
    rcases hr.names_cases he' hm seat pending names with ⟨errand, rest, rfl, hid⟩ | ⟨hb', rfl⟩
    · have hj := List.getElem?_eq_getElem (hr.sourced.fleet.seated j m _ hx)
      exact unearned j ((possessive j _ hj).handles m _ hx id hid)
    · -- Who has brought the session has parted from the recording.
      obtain rfl := hr.eq_of_brought nodup he he' hb hb'
      cases ht.symm.trans hm

/-- What becomes of a session that a start has created, told by the calls of the start and by its
answer. -/
inductive Fate (c : Chronicle) (object : ObjectName) (terms : Recording.Terms) (n : Int64) :
    List Contact → Answer → Prop
  /-- It has been set up. If it was released, the recording had been closed meanwhile. -/
  | launched {contacts later answer}
      (made : contacts.map Prod.fst = setUpCalls object terms.options terms.configuration ⟨n⟩)
      (answered : Answered contacts)
      (clears : ∀ x ∈ later, Recording.Operation.start.clearsUp x.1 = true) :
      Fate c object terms n (created object n :: (contacts ++ later)) answer
  /-- A call that sets it up has failed, and then its release has been called for. -/
  | released {contacts call rest f back answer}
      (made : contacts.map Prod.fst ++ call :: rest =
        setUpCalls object terms.options terms.configuration ⟨n⟩)
      (answered : Answered contacts) :
      Fate c object terms n (created object n :: (contacts ++
        [(call, .reply (.error f)), (releaseCall object ⟨n⟩, back)])) answer
  /-- A call that sets it up has unwound the start. The session has not been released, and nobody
  is going to do so. -/
  | abandoned {contacts call rest text text' heard}
      (made : contacts.map Prod.fst ++ call :: rest =
        setUpCalls object terms.options terms.configuration ⟨n⟩)
      (answered : Answered contacts)
      (heard_eq : heard = created object n :: (contacts ++ [(call, .unwinding text)]))
      (unreleased : ∀ x ∈ heard, x.1 ≠ releaseCall object ⟨n⟩)
      (lost : (brought c.traffic.log).Nodup → c.Lost ⟨n⟩) :
      Fate c object terms n heard (.unwound text')

section Fate

variable {options : Options} {configuration : Configuration} {contacts later : List Contact}
  {call : Call} {rest : List Call} {text : String} {n m : Int64}

/-- No call that sets a session up creates one, or releases one. -/
theorem operation_of_mem_setUpCalls (h : call ∈ setUpCalls object options configuration id) :
    call.operation ≠ "newRecording" ∧ call.operation ≠ "closeRecording" := by
  rcases List.mem_cons.1 h with rfl | h
  · cases configuration <;> simp [Backend.Structured.configureCall]
  rcases List.mem_cons.1 h with rfl | h
  · simp
  obtain rfl := List.mem_singleton.1 h
  simp

/-- The calls of a start are those that set the session up, one after the other. -/
theorem mem_setUpCalls
    (made : contacts.map Prod.fst ++ call :: rest = setUpCalls object options configuration id) :
    (∀ x ∈ contacts, x.1 ∈ setUpCalls object options configuration id) ∧
      call ∈ setUpCalls object options configuration id := by
  rw [← made]
  refine ⟨?_, by simp⟩
  intro x hx
  exact List.mem_append_left _ (List.mem_map_of_mem hx)

/-- A start creates one session. -/
theorem eq_of_created (h : created object n ∈ created object m :: (contacts ++ later))
    (known : ∀ x ∈ contacts, x.1 ∈ setUpCalls object options configuration id)
    (others : ∀ x ∈ later, x.1.operation ≠ "newRecording") : n = m := by
  rcases List.mem_cons.1 h with h | h
  · simpa using h
  rcases List.mem_append.1 h with h | h
  · exact ((operation_of_mem_setUpCalls (known _ h)).1 rfl).elim
  · exact (others _ h rfl).elim

theorem not_creates_of_clearsUp (h : Recording.Operation.start.clearsUp call = true) :
    call.operation ≠ "newRecording" := by
  intro hc
  simp [Recording.Operation.clearsUp, Call.isRelease, Call.isStop, hc] at h

/-- A start that is cut off while it sets the session up has not succeeded. -/
theorem not_succeeds
    (made : contacts.map Prod.fst ++ call :: rest = setUpCalls object options configuration ⟨n⟩) :
    ¬ Succeeds object (created object n :: (contacts ++ [(call, .unwinding text)])) := by
  rintro ⟨options', configuration', heard, later, id', succeeded, h⟩
  cases succeeded with
  | @created m contacts' _ setUp =>
    cases setUp with
    | complete made' answered =>
      have three : contacts'.length = 3 := by simpa [setUpCalls] using congrArg List.length made'
      have fewer : contacts.length < 3 := by
        have := congrArg List.length made
        simp [setUpCalls] at this
        omega
      -- The call that unwinds is among those that have been answered.
      have h : contacts ++ [(call, .unwinding text)] = contacts' ++ later :=
        List.tail_eq_of_cons_eq h
      have unwinds := congrArg (·[contacts.length]?) h
      rw [List.getElem?_concat_length, List.getElem?_append_left (three ▸ fewer)] at unwinds
      obtain ⟨v, hv⟩ := answered _ (List.mem_of_getElem? unwinds.symm)
      cases hv

/-- What becomes of the session if the start is cut off. -/
theorem fate_of_cutOff {terms : Recording.Terms} {heard : List Contact} {text' : String}
    (h : Recording.CutOff object terms heard) (hb : created object n ∈ heard)
    (lost : ¬ Succeeds object heard → (brought c.traffic.log).Nodup → c.Lost ⟨n⟩) :
    c.Fate object terms n heard (.unwound text') := by
  obtain ⟨past, call, text, start, rfl⟩ := h
  cases start with
  | create => simp at hb
  | setUp made answered =>
    obtain ⟨known, hc⟩ := mem_setUpCalls made
    obtain ⟨creates, releases⟩ := operation_of_mem_setUpCalls hc
    obtain rfl := eq_of_created hb known (by simp [creates])
    refine .abandoned made answered rfl ?_ (lost (not_succeeds made))
    refine List.forall_mem_cons.2 ⟨by simp, List.forall_mem_append.2 ⟨?_, ?_⟩⟩
    · intro x hx release
      exact (operation_of_mem_setUpCalls (known x hx)).2 (congrArg Call.operation release)
    · intro x hx release
      obtain rfl := List.mem_singleton.1 hx
      exact releases (congrArg Call.operation release)
  | @release m contacts call rest f made answered =>
    obtain ⟨known, hc⟩ := mem_setUpCalls made
    obtain ⟨creates, -⟩ := operation_of_mem_setUpCalls hc
    rw [List.cons_append, List.append_assoc] at hb ⊢
    obtain rfl := eq_of_created hb known (by simp [creates])
    exact .released made answered

/-- A session that a start has created is set up, or its release is called for as soon as a call
fails that sets it up. If such a call unwinds the start instead, the session is abandoned: it is not
released, no recording has it, and nobody is going to name it. -/
theorem released_unless_abandoned
    (h : (connected .structured object settings).rush schedule = some c)
    (he : c.entries[k]? = some entry) (hs : entry.step = .operate i .start)
    (ht : c.traffic.tasks[k]? = some (.ended answer)) (hb : created object n ∈ entry.heard) :
    ∃ r, c.traffic.client.contents[i]? = some r ∧ c.Fate object r.terms n entry.heard answer := by
  have hr : c.Reached .structured object settings := ⟨schedule, h⟩
  have lost (failed : ¬ Succeeds object entry.heard) (nodup : (brought c.traffic.log).Nodup) :
      c.Lost ⟨n⟩ :=
    hr.lost nodup he hs ht (List.mem_filterMap.2 ⟨_, hb, rfl⟩) failed
  obtain quiet | ⟨r, o, hi, course, told⟩ := hr.onCourse.2 k entry _ he ht i hs
  · rw [quiet] at hb
    cases hb
  refine ⟨r, hi, ?_⟩
  revert hb lost
  generalize entry.heard = heard at course ⊢
  intro hb lost
  -- How far the calls of the start have come decides what has become of the session.
  cases course with
  | quiet => cases hb
  | failed started =>
    cases started with
    | refused => simp at hb
    | unnumbered hv =>
      obtain rfl : Value.long n = _ := by simpa using hb
      cases hv
    | created setUp =>
      cases setUp with
      | broken made answered =>
        obtain ⟨known, hc⟩ := mem_setUpCalls made
        obtain ⟨creates, -⟩ := operation_of_mem_setUpCalls hc
        obtain rfl := eq_of_created hb known (by simp [creates])
        exact .released made answered
  | launched launched =>
    obtain ⟨contacts, later, id, started, clears, rfl⟩ := launched
    cases started with
    | @created m contacts _ setUp =>
      cases setUp with
      | complete made answered =>
        have known : ∀ x ∈ contacts, x.1 ∈ _ := fun x hx => made ▸ List.mem_map_of_mem hx
        obtain rfl := eq_of_created hb known fun x hx => not_creates_of_clearsUp (clears x hx)
        exact .launched made answered clears
  | cut cutOff =>
    obtain ⟨text, rfl⟩ := told _ rfl
    exact fate_of_cutOff cutOff hb lost

end Fate

/-- A start is unwound after certain replies, and then the recording is given up. -/
def unwound (replies : List Reply) : List Traffic.Event :=
  let calls := replies.flatMap fun reply => [.turn 1 .act, .turn 1 (.reply reply)]
  [.begin (.create {} none), .begin (.operate 0 .start), .turn 1 .act, .turn 1 .act] ++ calls ++
    [.turn 1 .act, .turn 1 (.unwind "boom"), .turn 1 .act, .turn 1 .act] ++
    [.begin (.drop 0), .turn 2 .act, .turn 2 .act]

/-- The last call of the start unwinds, when the session has got its configuration and options. -/
theorem released_unless_abandoned_last :
    ∃ (c : Chronicle) (entry : Entry) (answer : Answer) (r : Recording),
      (connected .structured Generation.structured.objectName {}).rush
        (unwound [.ok (.long 5), .ok .void, .ok .void]) = some c ∧
      c.entries[1]? = some entry ∧ entry.step = .operate 0 .start ∧
      c.traffic.tasks[1]? = some (.ended answer) ∧
      created Generation.structured.objectName 5 ∈ entry.heard ∧ entry.heard.length = 4 ∧
      c.traffic.client.contents[0]? = some r ∧
      c.Fate Generation.structured.objectName r.terms 5 entry.heard answer := by
  obtain ⟨c, entry, answer, h, he, hs, ht, hb, hl⟩ : ∃ c entry answer,
      (connected .structured Generation.structured.objectName {}).rush
        (unwound [.ok (.long 5), .ok .void, .ok .void]) = some c ∧
      c.entries[1]? = some entry ∧ entry.step = .operate 0 .start ∧
      c.traffic.tasks[1]? = some (.ended answer) ∧
      created Generation.structured.objectName 5 ∈ entry.heard ∧ entry.heard.length = 4 :=
    ⟨_, _, _, rfl, rfl, rfl, rfl, List.mem_cons_self, rfl⟩
  obtain ⟨r, hr, fate⟩ := released_unless_abandoned h he hs ht hb
  exact ⟨c, entry, answer, r, h, he, hs, ht, hb, hl, hr, fate⟩

/-- The call unwinds that gives the session its configuration. Nobody releases the session, neither
the start nor who gives the recording up, which has no session. -/
theorem unwound_start_unreleased :
    ∃ c entry, (connected .structured Generation.structured.objectName {}).rush
        (unwound [.ok (.long 5)]) = some c ∧
      c.entries[1]? = some entry ∧ entry.step = .operate 0 .start ∧
      c.traffic.tasks.map Task.pending? = [none, none, none] ∧
      c.traffic.tasks[1]? = some (.ended (.unwound "boom")) ∧
      entry.heard = [created Generation.structured.objectName 5,
        (⟨Generation.structured.objectName, "setPredefinedConfiguration",
          [.ofId ⟨5⟩, .text "profile"]⟩, .unwinding "boom")] ∧
      c.traffic.client.contents.map (·.cell) = [⟨.closed, .unassigned⟩] ∧
      brought c.traffic.log = [⟨5⟩] ∧ released c.traffic.log = [] :=
  ⟨_, _, rfl, rfl, rfl, rfl, rfl, rfl, rfl, rfl, rfl⟩

end Chronicle

end RemoteRecorder
