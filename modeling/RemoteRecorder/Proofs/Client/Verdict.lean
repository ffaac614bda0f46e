import RemoteRecorder.Proofs.Client.Frame
import RemoteRecorder.Proofs.Recording.Restoration
import RemoteRecorder.Proofs.Recording.Verdict
import RemoteRecorder.Proofs.Stream.Conduct

/-!
# RemoteRecorder.Proofs.Client.Verdict

**What the error of a step says of its calls**, in every run of a client.

* A step on a recording, a read and a close answer with the error that the first failed call
  causes, or with none if no call has failed. Calls that only clear up do not count.
* Besides there is the error of a recording in the wrong state, and on the diagnostic commands those
  of requests that are refused without a call. Such a request leaves everything as it was.
-/

namespace RemoteRecorder

open Client (Step Answer Task)
open Recording (Caller Operation)

namespace Client

/-- Whether a step uses a recording or a stream in a way that may fail. -/
def Step.isSession : Step → Bool
  | operate _ _ | read _ _ | readAll _ | closeStream _ | dropStream _ => true
  | _ => false

/-- The calls of a step that only clear up. Whoever gives a stream up has no use for it any more. -/
def Step.clearsUp : Step → Call → Bool
  | operate _ op => op.clearsUp
  | dropStream _ => fun _ => true
  | _ => noneClearsUp

/-- What is to be said of the error of a step, if it has one, after certain calls. -/
def Step.Reports (generation : Generation) (heard : List Contact) (e? : Option Error) :
    Step → Prop
  | operate _ op => Verdict generation op.clearsUp heard e?
  | read _ _ | readAll _ | closeStream _ =>
    Option.Rel Contact.Causes (decider noneClearsUp heard) e?
  | dropStream _ => e? = none
  | _ => True

/-- Whether the answer of a step is what its calls make of it, unless it was cut off. -/
def Accounted (generation : Generation) (entry : Entry) (answer : Answer) : Prop :=
  (∀ text, answer ≠ .unwound text) → entry.step.Reports generation entry.heard answer.failure?

/-- What is known of the calls of a step from the task that is at work for it. -/
def Informed (generation : Generation) (entry : Entry) : Task → Prop
  | .recording i x => ∃ op, entry.step = .operate i op ∧ x.Told generation op entry.heard
  | .farewell _ _ answer | .ended answer => Accounted generation entry answer
  | .direct _ => True
  | .stream _ chore rest => (∀ taken, chore = .readAll taken → ∃ i, entry.step = .readAll i) ∧
    rest.Results (fun heard x => entry.step.Reports generation heard (errorOf? x)) entry.heard

variable {c c' : Client} {entry : Entry} {step : Step} {answer : Answer} {task task' : Task}
  {t : Caller.Turn} {generation : Generation} {object : ObjectName} {i : Nat}

/-- Before its first call a step has no failure to report. -/
theorem reports_nothing : step.Reports generation [] none := by
  cases step with
  | operate i op => exact verdict_none rfl
  | read i size | readAll i | closeStream i => exact .none
  | dropStream i => rfl
  | _ => trivial

/-- What is reported tells how the first failed call failed that did not only clear up. Only an
operation on a recording may report that something is not supported. -/
theorem Step.Reports.tells {heard : List Contact} {e? : Option Error} (hs : step.isSession = true)
    (h : step.Reports generation heard e?) :
    Tells (decider step.clearsUp heard) e? ∧ (∀ e, e? = some e → e.isOfSession = true) ∧
    ∀ e, e? = some e → e.isUnsupported = true →
      (∃ i op, step = .operate i op) ∧ generation = .diagnostic ∧ heard = [] := by
  cases step with
  | operate i op =>
    obtain ⟨ht, hk⟩ := Verdict.tells h
    refine ⟨ht, hk, ?_⟩
    rintro e rfl he
    exact ⟨⟨i, op, rfl⟩, Verdict.unsupported_eq h he⟩
  | read i size | readAll i | closeStream i =>
    obtain ⟨ht, hk⟩ := (@Verdict.decided generation _ _ _ h).tells
    refine ⟨ht, hk, ?_⟩
    rintro e rfl he
    have hu := Error.not_isUnsupported_of_rel h
    rw [hu] at he
    cases he
  | dropStream i =>
    obtain rfl := h
    have quiet : decider (Step.dropStream i).clearsUp heard = none := by
      simp [decider, Step.clearsUp]
    rw [quiet]
    exact ⟨tells_none (by simp) (by simp), by simp, by simp⟩
  | _ => cases hs

/-- An operation that fails has made no recording. -/
theorem Concluded.made_of_failure {op : Operation} (h : c.Concluded entry answer)
    (hs : entry.step = .operate i op) (hf : answer.failure? ≠ none) : entry.made = [] := by
  cases h with
  | nothing hm ha => exact hm
  | created he hm hn hb =>
    rw [hs] at he
    cases he
  | cloned he hm hi hn ht ha =>
    rcases ha with ha | ⟨text, rfl⟩
    · cases answer <;> first | exact (hf rfl).elim | cases ha
    · exact (hf rfl).elim

theorem accounted_unwound (text : String) : Accounted generation entry (.unwound text) :=
  fun h => (h text rfl).elim

theorem afterParting_informed (h : Accounted generation entry answer) :
    Informed generation entry (c.afterParting i answer) := by
  unfold afterParting
  split <;> exact h

theorem results_of_conducts {α : Type} {e : Exchange Stream (Except Error α)}
    {R : List Contact → Except Error α → Prop} {heard : List Contact}
    (h : e.Conducts object R heard)
    (hR : ∀ heard x, R heard x → step.Reports generation heard (errorOf? x)) :
    e.Results (fun heard x => step.Reports generation heard (errorOf? x)) heard :=
  h.imp (fun _ _ _ => trivial) (fun _ _ => trivial) hR

/-- A step begins with nothing to report. -/
theorem Outset.informed (h : Outset c step c' task) :
    Informed generation { step, made := c.added c' } task := by
  cases h with
  | answered hf ho => exact fun _ => hf ▸ reports_nothing
  | misplanned hs hb =>
    cases step with
    | create plan size | createBare plan size => exact fun _ => trivial
    | _ => cases hs
  | created hs hb => exact fun _ => reports_nothing
  | operate hr => exact ⟨_, rfl, rfl⟩
  | drop hr => exact afterParting_informed fun _ => trivial
  | read hs =>
    exact ⟨nofun, results_of_conducts (Stream.read_conducts _ rfl) fun _ _ hx => hx⟩
  | readAll hs =>
    exact ⟨fun _ _ => ⟨_, rfl⟩,
      results_of_conducts (Stream.readBlock_conducts rfl) fun _ _ hx => hx⟩
  | closeStream hs =>
    exact ⟨nofun, results_of_conducts (Stream.close_conducts rfl) fun _ _ hx => hx⟩
  | dropStream hs =>
    refine ⟨nofun, results_of_conducts Stream.abandon_conducts ?_⟩
    rintro _ _ rfl
    rfl
  | direct => trivial

/-- The answer of an operation reports the error with which the operation has ended. -/
theorem failure?_conclude (result : Except Error Recording.Yield) :
    (c.conclude result).2.failure? = errorOf? result := by
  cases result with
  | error e => rfl
  | ok made => cases made <;> rfl

/-- The verdict of an operation becomes that of its step. -/
theorem depart_informed {op : Operation} {o : Outcome Recording.Yield}
    (hs : entry.step = .operate i op)
    (h : Recording.Outcome.Judged generation op.clearsUp entry.heard o) :
    Informed generation entry (c.depart i o).2 := by
  cases o with
  | unwound text => exact afterParting_informed (accounted_unwound text)
  | returned result =>
    have said : entry.step.Reports generation entry.heard (c.conclude result).2.failure? := by
      rw [failure?_conclude, hs]
      exact h
    exact afterParting_informed fun _ => said

theorem afterChore_informed {chore : Chore} {result : Except Error chore.Brings}
    (h : Informed generation entry (.stream i chore (.done result))) :
    Informed generation entry (c.afterChore i chore result) := by
  obtain ⟨hc, hr⟩ := h
  cases chore with
  | read => cases result <;> exact fun _ => hr
  | close => cases result <;> exact fun _ => hr
  | readAll taken =>
    cases result with
    | error e => exact fun _ => hr
    | ok block =>
      cases block with
      | nil => exact fun _ => hr
      | cons byte block =>
        simp only [afterChore]
        cases c.streams[i]? with
        | none => exact fun _ => hr
        | some slot =>
          -- No call has failed so far, and the next read goes on from here.
          obtain ⟨j, hj⟩ := hc taken rfl
          refine ⟨fun _ _ => ⟨j, hj⟩, ?_⟩
          have quiet : Blames noneClearsUp entry.heard (.ok (byte :: block)) := by
            have hr : entry.step.Reports generation entry.heard none := hr
            rw [hj] at hr
            exact hr
          refine results_of_conducts (Stream.readBlock_conducts (decider_of_blames_ok quiet)) ?_
          intro heard x hx
          rw [hj]
          exact hx

/-- A turn adds what the task hears, and leaves the answer to report it. -/
theorem Advance.informed (hb : c.connection.backend.Accountable generation)
    (h : Advance c task t c' task') (engaged : c.Engaged entry task)
    (q : Informed generation entry task) :
    Informed generation (entry.add (task.hears t) (c.added c')) task' := by
  -- Where nothing is heard, it does not matter what has been made.
  have quiet {made : List Nat} {task : Task} (h : Informed generation entry task) :
      Informed generation (entry.add [] made) task := by
    have same : entry.add [] made = { entry with made := entry.made ++ made } := by
      simp [Entry.add]
    rw [same]
    cases task <;> exact h
  cases h with
  | move hr m =>
    obtain ⟨-, op, r, hs, hr', hx⟩ := engaged
    obtain ⟨op', hs', ht⟩ := q
    obtain rfl : op = op' := by simpa [hs] using hs'
    obtain rfl := Option.some.inj (hr.symm.trans hr')
    exact ⟨op, hs, m.told hb hx ht⟩
  | depart =>
    obtain ⟨op, hs, ht⟩ := q
    exact quiet (depart_informed hs ht)
  | @farewell i x t r r' x' answer hr m => cases t <;> exact quiet q
  | part => exact quiet q
  | partUnwound => exact accounted_unwound _
  | conclude | directCut text =>
    obtain ⟨-, request, hs⟩ := engaged
    intro _
    rw [Entry.add_step, hs]
    trivial
  | directNote | directReply reply => trivial
  | finish => exact quiet (afterChore_informed q)
  | streamNote => exact quiet q
  | streamKeep => exact quiet ⟨q.1, q.2.2⟩
  | streamReply reply => exact ⟨q.1, q.2.2 reply⟩
  | streamCut text => exact accounted_unwound _

/-- What becomes of a recording that was `r₀` when a step on it began, by the time that a task of
the step has got somewhere. -/
def Restoring (i : Nat) (r₀ r : Recording) (task : Task) : Prop :=
  (∃ x, task = .recording i x ∧ x.Restores r₀ r) ∨
    ∃ answer, task = .ended answer ∧ (answer.failure? ≠ none → r = r₀)

variable {r₀ r : Recording}

theorem Outset.restoring {op : Operation} (h : Outset c (.operate i op) c' task)
    (hr : c.recording? i = some r) :
    c'.recording? i = some r ∧ Restoring i r r task := by
  refine ⟨h.recording? nofun hr, ?_⟩
  cases h with
  | answered hf ho => exact .inr ⟨_, rfl, fun he => (he hf).elim⟩
  | misplanned hs hb | created hs hb => cases hs
  | operate hi => exact .inl ⟨_, rfl, rfl⟩

/-- A turn of a step on a recording keeps in mind what the recording was. -/
theorem Advance.restoring (h : Advance c task t c' task') (hr : c.recording? i = some r)
    (q : Restoring i r₀ r task) :
    ∃ r', c'.recording? i = some r' ∧ Restoring i r₀ r' task' := by
  rcases q with ⟨x, rfl, hx⟩ | ⟨answer, rfl, ha⟩
  · cases h with
    | move hc m =>
      obtain rfl := Option.some.inj ((contents_of_recording? hr).symm.trans hc)
      exact ⟨_, recording?_setRecording_self hr _, .inl ⟨_, rfl, m.restores hx⟩⟩
    | @depart _ o =>
      have held := recording?_depart (i := i) hr o
      refine ⟨r, held, .inr ?_⟩
      cases o with
      | unwound text => exact ⟨_, afterParting_of_recording? held _, fun hf => (hf rfl).elim⟩
      | returned result =>
        refine ⟨_, afterParting_of_recording? held _, ?_⟩
        cases result with
        | error e => exact fun _ => hx
        | ok made => exact fun hf => (hf (failure?_conclude (.ok made))).elim
  · cases h

end Client

namespace Chronicle

variable {c₀ c : Chronicle} {schedule after : List Traffic.Event} {k i : Nat} {r₀ : Recording}
  {generation : Generation} {object : ObjectName} {settings : Settings} {answer : Answer}

theorem Reached.informed (h : c.Reached generation object settings) :
    c.Each fun _ => Client.Informed generation := by
  refine each_of_reached (fun _ _ _ _ _ q => q) (fun _ _ _ _ _ ho => ho.informed) ?_ h
  intro c k entry t task client task' hr he hk q ha
  have hb : c.traffic.client.connection.backend.Accountable generation := by
    rw [hr.connection]
    exact Backend.accountable generation object
  exact ha.informed hb (hr.engaged.2 k entry task he hk) q

/-- An operation that fails leaves the recording as it was, if no other step on it takes a turn
meanwhile, and it is not given up. -/
theorem Reached.failure_restores {op : Operation} (hr : c₀.Reached generation object settings)
    (h : c₀.rush (.begin (.operate i op) :: after) = some c)
    (hi : c₀.traffic.client.recording? i = some r₀)
    (alone : ∀ e ∈ after, c.Touches Step.recording? i e → ∃ t, e = .turn c₀.entries.length t)
    (kept : .begin (.drop i) ∉ after)
    (ht : c.traffic.tasks[c₀.entries.length]? = some (.ended answer))
    (hf : answer.failure? ≠ none) :
    c.traffic.client.recording? i = some r₀ := by
  have length := hr.engaged.1
  obtain ⟨c₁, hn, hr₁, h⟩ := hr.cons h
  suffices ∃ r task, c.traffic.client.recording? i = some r ∧
      c.traffic.tasks[c₀.entries.length]? = some task ∧ Client.Restoring i r₀ r task by
    obtain ⟨r, task, hi', hk, q⟩ := this
    obtain rfl := Option.some.inj (ht.symm.trans hk)
    rcases q with ⟨x, hx, -⟩ | ⟨answer', ha, q⟩
    · cases hx
    · obtain rfl : answer = answer' := by simpa using ha
      exact q hf ▸ hi'
  refine hr₁.along (P := fun c => ∃ r task, c.traffic.client.recording? i = some r ∧
    c.traffic.tasks[c₀.entries.length]? = some task ∧ Client.Restoring i r₀ r task) h ?_ ?_
  · cases hn with
    | begin ho =>
      obtain ⟨hi', q⟩ := ho.restoring hi
      exact ⟨r₀, _, hi', by simp [length], q⟩
  · intro c₁ e c₂ hr₁ hx he ⟨r, task, hi', hk, q⟩ hn
    by_cases own : ∃ t, e = .turn c₀.entries.length t
    · obtain ⟨t, rfl⟩ := own
      cases hn with
      | turn hk' ha =>
        obtain rfl := Option.some.inj (hk.symm.trans hk')
        obtain ⟨r', hi'', q'⟩ := ha.restoring hi' q
        exact ⟨r', _, hi'', by simp [(List.getElem?_eq_some_iff.1 hk).1], q'⟩
    · -- Somebody else does something that has nothing to do with the recording.
      refine ⟨r, task, ?_, ?_, q⟩
      · refine hn.recording? hr₁ hi' ?_ fun ht => own (alone e he (hx.touches ht))
        rintro rfl
        exact kept he
      · cases hn with
        | begin ho => exact Client.getElem?_append_of_some hk
        | @turn n t task client task' hn ha =>
          have hne : n ≠ c₀.entries.length := fun hn => own ⟨t, by rw [hn]⟩
          rw [List.getElem?_set_ne hne]
          exact hk

/-- Whether a user has at a later moment what he has had, except for what other steps than the
`k`-th have worked on meanwhile, or he has given up. -/
def Spares (k : Nat) (meanwhile : List Traffic.Event) (c₀ c : Chronicle) : Prop :=
  let only (about : Step → Option Nat) (j : Nat) :=
    ∀ e ∈ meanwhile, c.Touches about j e → ∃ t, e = .turn k t
  (∀ j r, c₀.traffic.client.recording? j = some r → only Step.recording? j →
    .begin (.drop j) ∉ meanwhile → c.traffic.client.recording? j = some r) ∧
  ∀ j s, c₀.traffic.client.content? j = some s → only Step.stream? j →
    c.traffic.client.content? j = some s

/-- A request on a recording that has failed leaves everything as it was that others have not worked
on meanwhile. -/
theorem Reached.spares {op : Operation} {entry : Entry}
    (hr : c₀.Reached generation object settings)
    (h : c₀.rush (.begin (.operate i op) :: after) = some c)
    (he : c.entries[c₀.entries.length]? = some entry) (hs : entry.step = .operate i op)
    (ht : c.traffic.tasks[c₀.entries.length]? = some (.ended answer))
    (hf : answer.failure? ≠ none) :
    c₀.Spares c₀.entries.length after c := by
  -- The only recording that the step works on is its own, and it works on no stream.
  have own {about : Step → Option Nat} {j : Nat} {t : Caller.Turn}
      (ht : c.Touches about j (.turn c₀.entries.length t)) : about (.operate i op) = some j := by
    obtain ⟨entry', he', ha⟩ := ht
    obtain rfl := Option.some.inj (he.symm.trans he')
    exact hs ▸ ha
  refine ⟨?_, ?_⟩
  · intro j r hj alone kept
    by_cases hij : i = j
    · subst hij
      exact hr.failure_restores h hj alone kept ht hf
    · refine hr.held_stays h hj (by simpa using kept) ?_
      intro e hm htouch
      rcases List.mem_cons.1 hm with rfl | hm
      · exact htouch
      · obtain ⟨t, rfl⟩ := alone e hm htouch
        exact hij (Option.some.inj (own htouch))
  · intro j s hj alone
    refine hr.stream_stays h hj ?_
    intro e hm htouch
    rcases List.mem_cons.1 hm with rfl | hm
    · exact htouch
    · obtain ⟨t, rfl⟩ := alone e hm htouch
      cases own htouch

/-- Whatever is done with a connection, an error tells how the first call failed that did not only
clear up. It is never one of those that belong to connecting and to configuring. Requests for which
there is no command are refused without a call, and leave everything as it was. -/
theorem errors_tell_failed_calls
    (h : (connected generation object settings).rush schedule = some c) {entry : Entry}
    (he : c.entries[k]? = some entry) (hs : entry.step.isSession = true)
    (ht : c.traffic.tasks[k]? = some (.ended answer)) (hu : ∀ text, answer ≠ .unwound text) :
    Tells (decider entry.step.clearsUp entry.heard) answer.failure? ∧
    (∀ e, answer.failure? = some e → e.isOfSession = true) ∧
    ∀ e, answer.failure? = some e → e.isUnsupported = true →
      generation = .diagnostic ∧ entry.heard = [] ∧ entry.made = [] ∧
      ∀ before after c₀, schedule = before ++ .begin entry.step :: after →
        (connected generation object settings).rush before = some c₀ → c₀.entries.length = k →
        c₀.Spares k after c := by
  obtain ⟨hn, hall⟩ := (show c.Reached generation object settings from ⟨schedule, h⟩).informed
  obtain ⟨tells, kind, unsupported⟩ := (hall k entry _ he ht hu).tells hs
  refine ⟨tells, kind, ?_⟩
  intro e hf hunsupported
  obtain ⟨⟨i, op, hstep⟩, hg, hh⟩ := unsupported e hf hunsupported
  have failed : answer.failure? ≠ none := by simp [hf]
  have engaged : c.traffic.client.Concluded entry answer :=
    (show c.Reached generation object settings from ⟨schedule, h⟩).engaged.2 k entry _ he ht
  refine ⟨hg, hh, engaged.made_of_failure hstep failed, ?_⟩
  rintro before after c₀ rfl hb rfl
  have rest : c₀.rush (.begin entry.step :: after) = some c := by
    rw [rush, follow_append] at h
    obtain ⟨c₁, h₁, h₂⟩ := Option.bind_eq_some_iff.1 h
    obtain rfl := Option.some.inj (hb.symm.trans h₁)
    exact h₂
  rw [hstep] at rest
  exact Reached.spares ⟨before, hb⟩ rest he hstep ht failed

/-- The channel breaks down while a session is set up, and then the session cannot be released
either. What is reported is that the channel has broken down. -/
theorem errors_tell_failed_calls_lost :
    ∃ c entry, (connected .structured Generation.structured.objectName {}).rush
        (Traffic.started [.ok (.long 5), .error (.communication "channel lost"),
          .error (.invocation "gone")] ++ [.turn 1 .act]) = some c ∧
      c.entries[1]? = some entry ∧ entry.step = .operate 0 .start ∧ entry.heard.length = 3 ∧
      c.traffic.tasks[1]? = some (.ended (.error (.transport "channel lost"))) ∧
      Tells (decider entry.step.clearsUp entry.heard) (some (.transport "channel lost")) := by
  obtain ⟨c, entry, h, he, hs, hl, ht⟩ : ∃ c entry,
      (connected .structured Generation.structured.objectName {}).rush
        (Traffic.started [.ok (.long 5), .error (.communication "channel lost"),
          .error (.invocation "gone")] ++ [.turn 1 .act]) = some c ∧
      c.entries[1]? = some entry ∧ entry.step = .operate 0 .start ∧ entry.heard.length = 3 ∧
      c.traffic.tasks[1]? = some (.ended (.error (.transport "channel lost"))) := by
    refine ⟨_, _, rfl, rfl, rfl, rfl, rfl⟩
  have session : entry.step.isSession = true := by
    rw [hs]
    rfl
  exact ⟨c, entry, h, he, hs, hl, ht, (errors_tell_failed_calls h he session ht nofun).1⟩

end Chronicle

end RemoteRecorder
