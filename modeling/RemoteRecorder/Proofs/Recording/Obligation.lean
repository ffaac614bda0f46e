import RemoteRecorder.Backend.Structured
import RemoteRecorder.Proofs.Recording.Number

/-!
# RemoteRecorder.Proofs.Recording.Obligation

**No session is left running**: a session that has been started is asked to stop before the
recording starts another one, and before the recording is gone.

* A session that runs and has not been asked to stop is somebody's charge: the recording's as
  long as that is active, else that of one caller (`Crowd.Bears`).
* Whoever takes a step, a charge is handed on or met (`Step.bears`), and nobody starts a
  session while there is one.
* A recording that has been dropped is closed and nobody works on it, so there is nobody left
  to bear a charge (`Crowd.no_session_left_running`).
-/

namespace RemoteRecorder.Recording

/-- Whether a session is asked to stop in what is said before another one is started. -/
def StopsFirst (id : SessionId) (l : List Remark) : Prop :=
  ∃ before after, l = before ++ .asked (.stop id) :: after ∧ .asked .start ∉ before

/-- What is said later does not undo a request to stop. -/
theorem StopsFirst.append {id : SessionId} {l : List Remark} (h : StopsFirst id l)
    (l' : List Remark) : StopsFirst id (l ++ l') := by
  obtain ⟨before, after, rfl, hb⟩ := h
  exact ⟨before, after ++ l', by simp, hb⟩

/-- Nor does what has been said before, if it asked for no start. -/
theorem StopsFirst.prepend {id : SessionId} {l l' : List Remark} (h : StopsFirst id l')
    (hl : .asked .start ∉ l) : StopsFirst id (l ++ l') := by
  obtain ⟨before, after, rfl, hb⟩ := h
  exact ⟨l ++ before, after, by simp, by simp [hl, hb]⟩

/-- Whether a session runs by the recording itself. -/
def Bears (r : Recording) (id : SessionId) : Prop := r.cell.phase = .active ∧ r.cell.id = id

namespace Caller

variable {b : Backend} {r r' : Recording} {c c' : Caller} {t : Turn} {id : SessionId}

/-- Whether a caller has to see to it that a session is asked to stop, in a recording with the
number `current`. -/
def Bears (current id : SessionId) : Caller → Prop
  | fetching .stop | fetching .release => current = id
  | assigning started => started = id
  | settlingStart started => started = id ∧ current = id
  | _ => False

/-- Whether a caller is at its end. -/
def isEnded : Caller → Bool
  | ended _ => true
  | _ => false

/-- Who is at its end bears no charge. -/
theorem not_bears_of_isEnded {current : SessionId} (h : c.isEnded = true) :
    ¬ c.Bears current id := by
  cases c with
  | ended o => exact fun hb => hb
  | _ => cases h

/-- Who bears a charge owns a transition, or is the heir of an active recording. -/
theorem Bears.role (h : c.Bears id₁ id) : c.role = .heir ∨ ∃ f, c.role = .owner f := by
  cases c with
  | fetching u => cases u <;> first | exact .inl rfl | exact .inr ⟨_, rfl⟩ | cases h
  | assigning started => exact .inr ⟨_, rfl⟩
  | settlingStart started => exact .inr ⟨_, rfl⟩
  | _ => cases h

/-- Only who wins a transition to active asks for the start of a session. -/
theorem Move.source_of_asks_start (m : Move b r c t r' c')
    (h : .asked .start ∈ c.remarks c') : ∃ launch : Launch, r.cell.phase = launch.source := by
  cases m with
  | @claim t hp =>
    cases t with
    | start launch => exact ⟨launch, hp⟩
    | stop => simp [remarks, afterClaim, asks] at h
  | close | look hop hp => simp [remarks] at h
  | @fetch u => cases u <;> simp [remarks, use, ask, asks, Errand.demand] at h
  | @cut e _ _ text => cases e <;> simp [remarks] at h
  | @report e result =>
    cases e <;> cases result <;>
      simp [remarks, afterErrand, ofResult, ask, asks, Errand.demand] at h
  | @settleStop id result hp => simp [remarks, ofResult, asks] at h
  | _ => simp [remarks, ask, asks, Errand.demand] at h

/-- Who is told that a session has started bears it, and says no more for now. -/
theorem Move.bears_of_started (m : Move b r c t r' c')
    (h : .told (.start (.returned (.ok id))) ∈ c.remarks c') :
    c.remarks c' = [.told (.start (.returned (.ok id)))] ∧ c'.Bears r'.cell.id id := by
  cases m with
  | @report e result =>
    cases e with
    | start launch =>
      cases result with
      | ok started =>
        obtain rfl : id = started := by
          simpa [remarks, afterErrand, asks, Errand.report] using h
        exact ⟨rfl, rfl⟩
      | error e => simp [remarks, afterErrand, asks, Errand.report] at h
    | _ =>
      cases result <;>
        simp [remarks, afterErrand, ofResult, ask, asks, Errand.report, Errand.demand] at h
  | @cut e _ _ text => cases e <;> simp [remarks, Errand.report, afterUnwinding, cutBy?] at h
  | @claim t hp => cases t <;> simp [remarks, afterClaim, ask, asks] at h
  | close | look hop hp => simp [remarks] at h
  | answer reply => simp [remarks, cutBy?] at h
  | @fetch u => cases u <;> simp [remarks, use, ask, asks] at h
  | @settleStop id result hp => simp [remarks, ofResult, asks] at h
  | _ => simp [remarks, ask, asks] at h

/-- Who bears a charge meets it or hands it on. -/
theorem Move.bears_own (m : Move b r c t r' c') (h : c.Bears r.cell.id id) :
    StopsFirst id (c.remarks c') ∨ r'.Bears id ∨ c'.Bears r'.cell.id id := by
  cases m with
  | @fetch u =>
    cases u with
    | stop | release =>
      obtain rfl : r.cell.id = id := h
      exact .inl ⟨[], [], rfl, by simp⟩
    | _ => cases h
  | assign => exact .inr (.inr ⟨h, h⟩)
  | activate hp => exact .inr (.inl ⟨rfl, h.2⟩)
  | startOvertaken hp =>
    obtain ⟨rfl, -⟩ := h
    exact .inl ⟨[], [], rfl, by simp⟩
  | _ => cases h

/-- A step of a bystander on a recording that bears a charge leaves it there, or takes it over. -/
theorem Move.bears_of_active (m : Move b r c t r' c') (hc : c.role = .bystander)
    (h : r.Bears id) : r'.Bears id ∨ c'.Bears r'.cell.id id := by
  obtain ⟨hp, rfl⟩ := h
  cases m with
  | close =>
    rw [hp]
    exact .inr rfl
  | @claim t ht =>
    cases t with
    | start launch => cases launch <;> cases hp.symm.trans ht
    | stop => exact .inr rfl
  | assign => cases hc
  | activate hs | revert hs | settleStop hs => cases hc
  | unwindTransition hs => cases hc
  | _ => exact .inl ⟨hp, rfl⟩

end Caller

namespace Crowd

variable {b : Backend} {s s' : Crowd} {r : Recording} {given : Option SessionId} {id : SessionId}
  {l : List Remark} {schedule : List Event}

/-- Whether a session that runs is the charge of the recording or of a caller. -/
def Bears (s : Crowd) (id : SessionId) : Prop :=
  s.recording.Bears id ∨
    ∃ (k : Nat) (c : Caller), s.callers[k]? = some c ∧ c.Bears s.recording.cell.id id

/-- While a session is somebody's charge, the recording is in no source of a start. -/
theorem Bears.phase_ne (h : s.Bears id) (o : Orderly s.phase s.roles) (launch : Launch) :
    s.phase ≠ launch.source := by
  intro hp
  rcases h with ⟨ha, -⟩ | ⟨k, c, hc, h⟩
  · cases launch <;> cases ha.symm.trans hp
  · -- A settled phase that is not closed has neither owner nor heir.
    have idle := o.idle (by simp [hp]) (hp ▸ launch.source_ne_closed) k
    rw [roles_eq hc] at idle
    rcases h.role with hr | ⟨f, hr⟩ <;> cases idle.symm.trans hr

/-- A step of somebody else leaves a caller his charge. -/
theorem bears_of_other {k j : Nat} {c c' d : Caller} {t : Caller.Turn} {r' : Recording}
    (o : Orderly s.phase s.roles) (hc : s.callers[k]? = some c)
    (m : c.Move b s.recording t r' c') (hd : s.callers[j]? = some d) (hj : j ≠ k)
    (h : d.Bears s.recording.cell.id id) : (s.record k c r' c').Bears id := by
  have hd' : (s.record k c r' c').callers[j]? = some d := by
    rw [record_caller hc, if_neg hj, hd]
  have hn : s.roles j ≠ .bystander := by
    rw [roles_eq hd]
    rcases h.role with hr | ⟨f, hr⟩ <;> rw [hr] <;> simp
  refine .inr ⟨j, d, hd', ?_⟩
  -- Only an owner changes the number, and the owner is the one with the charge.
  rcases m.id_cases with hid | rfl
  · change d.Bears r'.cell.id id
    rw [hid]
    exact h
  · have hb := o.others hn hj.symm
    rw [roles_eq hc] at hb
    cases hb

/-- A charge is handed on or met, and nobody starts a session meanwhile. -/
theorem Step.bears (h : Step b s s') (o : Orderly s.phase s.roles) (hb : s.Bears id) :
    ∃ l, s'.talk = s.talk ++ l ∧ (StopsFirst id l ∨ .asked .start ∉ l ∧ s'.Bears id) := by
  cases h with
  | join operation =>
    refine ⟨[], (List.append_nil _).symm, .inr ⟨by simp, hb.imp_right ?_⟩⟩
    rintro ⟨k, c, hc, h⟩
    exact ⟨k, c, receive_caller.2 (.inl hc), h⟩
  | @turn k c t r' c' hc m =>
    refine ⟨c.remarks c', talk_record .., ?_⟩
    have quiet : .asked .start ∉ c.remarks c' := by
      intro hs
      obtain ⟨launch, hp⟩ := m.source_of_asks_start hs
      exact hb.phase_ne o launch hp
    have here : (s.record k c r' c').callers[k]? = some c' := by
      rw [record_caller hc, if_pos rfl]
    rcases hb with ha | ⟨j, d, hd, h⟩
    · have idle := o.idle (by rw [phase, ha.1]; rfl) (by simp [phase, ha.1]) k
      rw [roles_eq hc] at idle
      exact .inr ⟨quiet, (m.bears_of_active idle ha).imp_right fun h => ⟨k, c', here, h⟩⟩
    · by_cases hj : j = k
      · subst hj
        obtain rfl := Option.some.inj (hd.symm.trans hc)
        rcases m.bears_own h with hs | hr | h'
        · exact .inl hs
        · exact .inr ⟨quiet, .inl hr⟩
        · exact .inr ⟨quiet, .inr ⟨j, c', here, h'⟩⟩
      · exact .inr ⟨quiet, bears_of_other o hc m hd hj h⟩

/-! ## Whole runs

A charge is met by a request to stop the session, and until then nobody asks for a start. So what
has been said since the session was started either holds such a request before any start, or no
start at all and the charge is still somebody's. -/

/-- Whether a session that has been running since `l` began is accounted for: it has been asked
to stop before any start, or is somebody's charge. -/
def Accounted (s : Crowd) (id : SessionId) (l : List Remark) : Prop :=
  StopsFirst id l ∨ .asked .start ∉ l ∧ s.Bears id

theorem Step.accounted (h : Step b s s') (o : Orderly s.phase s.roles) (ha : s.Accounted id l) :
    ∃ l', s'.talk = s.talk ++ l' ∧ s'.Accounted id (l ++ l') := by
  rcases ha with hs | ⟨hl, hb⟩
  · cases h with
    | join operation => exact ⟨[], (List.append_nil _).symm, .inl (hs.append _)⟩
    | turn hc m => exact ⟨_, talk_record .., .inl (hs.append _)⟩
  · obtain ⟨l', hl', hs | ⟨hn, hb'⟩⟩ := h.bears o hb
    · exact ⟨l', hl', .inl (hs.prepend hl)⟩
    · exact ⟨l', hl', .inr ⟨by simp [hl, hn], hb'⟩⟩

/-- What is kept about the sessions that have been running. -/
structure Dutiful (r : Recording) (s : Crowd) : Prop where
  /-- The session that a clone came with. -/
  given : r.cell.phase = .active → s.Accounted r.cell.id s.talk
  started : ∀ before id after,
    s.talk = before ++ .told (.start (.returned (.ok id))) :: after → s.Accounted id after

/-- The sessions that have been running stay accounted for, and one that is started is a new charge.
A step that is told of a start says nothing else, so the account begins with nothing said. -/
theorem Step.dutiful (h : Step b s s') (o : Orderly s.phase s.roles) (q : s.Dutiful r) :
    s'.Dutiful r := by
  constructor
  · intro ha
    obtain ⟨l, hl, h'⟩ := h.accounted o (q.given ha)
    rw [hl]
    exact h'
  · intro before id after ht
    -- The session was started before, or just now.
    have old {rest : List Remark}
        (hs : s.talk = before ++ .told (.start (.returned (.ok id))) :: rest) :
        s'.Accounted id after := by
      obtain ⟨l, hl, h'⟩ := h.accounted o (q.started _ _ _ hs)
      have hr : after = rest ++ l := by simpa [hl, hs, eq_comm] using ht
      rw [hr]
      exact h'
    cases h with
    | join operation => exact old ht
    | @turn k c t r' c' hc m =>
      have new {mid : List Remark}
          (hm : c.remarks c' = mid ++ .told (.start (.returned (.ok id))) :: after) :
          (s.record k c r' c').Accounted id after := by
        have told : .told (.start (.returned (.ok id))) ∈ c.remarks c' := by rw [hm]; simp
        obtain ⟨he, hb⟩ := m.bears_of_started told
        obtain ⟨-, rfl⟩ : mid = [] ∧ after = [] := by
          rw [he] at hm
          cases mid with
          | nil => simpa using hm
          | cons x mid => simp at hm
        exact .inr ⟨by simp, .inr ⟨k, c', by rw [record_caller hc, if_pos rfl], hb⟩⟩
      rw [talk_record] at ht
      rcases List.append_eq_append_iff.1 ht with ⟨mid, -, hm⟩ | ⟨mid, hs, hm⟩
      · exact new hm
      · cases mid with
        | nil => exact new (show c.remarks c' = [] ++ _ from hm.symm)
        | cons x mid =>
          obtain ⟨rfl, -⟩ := List.cons.inj hm
          exact old hs

/-- At every moment all sessions that have been running are accounted for. -/
theorem dutiful_of_play (h : Born r given) (hs : play b ⟨r, [], []⟩ schedule = some s) :
    s.Dutiful r := by
  have start : Dutiful r ⟨r, [], []⟩ :=
    ⟨fun ha => .inr ⟨by simp [talk], .inl ⟨ha, rfl⟩⟩, by simp [talk]⟩
  have kept : Orderly s.phase s.roles ∧ s.Dutiful r :=
    play_induction (motive := fun s => Orderly s.phase s.roles ∧ s.Dutiful r) hs
      ⟨orderly_of_born h, start⟩ fun _ _ q step => ⟨step.orderly q.1, step.dutiful q.1 q.2⟩
  exact kept.2

/-! ## Dropping a recording

Whoever holds a recording when it is dropped closes it. Here it does not matter who drops it and
why: what counts is that the last thing that is done with a recording is a close. -/

/-- Whether everybody who has come is at his end. -/
def IsOver (s : Crowd) : Prop := ∀ c ∈ s.callers, c.isEnded = true

instance (s : Crowd) : Decidable s.IsOver := inferInstanceAs (Decidable (∀ c ∈ _, _))

/-- The runs that end with the recording being dropped: when all are at their end it is closed
once more, and nobody comes any more. -/
inductive Dropped (b : Backend) (r : Recording) : Crowd → Prop where
  | mk {schedule : List Event} {s s' : Crowd} (turns : List Caller.Turn)
      (hs : play b ⟨r, [], []⟩ schedule = some s) (idle : s.IsOver)
      (hd : (s.receive .close).play b (turns.map (.turn s.callers.length)) = some s')
      (done : s'.IsOver) : Dropped b r s'

theorem Dropped.exists_play (h : Dropped b r s) :
    ∃ schedule, play b ⟨r, [], []⟩ schedule = some s := by
  obtain ⟨turns, hs, idle, hd, done⟩ := h
  have come {s₀ : Crowd} : s₀.step? b (.join .close) = some (s₀.receive .close) := rfl
  exact ⟨_, play_append hs (play_cons.2 ⟨_, come, hd⟩)⟩

/-- Nobody is left who could bear a charge. -/
theorem Dropped.not_bears (h : Dropped b r s) : ¬ s.Bears id := by
  obtain ⟨turns, hs, idle, hd, done⟩ := h
  rename_i schedule s₀
  have come : (s₀.receive .close).callers[s₀.callers.length]? = some (.begun .close) :=
    receive_caller.2 (.inr ⟨rfl, rfl⟩)
  rintro (⟨ha, -⟩ | ⟨k, c, hc, hb⟩)
  · rcases closed_of_close come hd with hk | hp
    · cases done _ (List.mem_of_getElem? hk)
    · cases ha.symm.trans hp
  · exact Caller.not_bears_of_isEnded (done c (List.mem_of_getElem? hc)) hb

/-- Whether every session that a recording has had running was asked to stop in time. -/
structure LeavesNoneRunning (r : Recording) (s : Crowd) : Prop where
  /-- The session that an active clone came with. -/
  given : r.cell.phase = .active → StopsFirst r.cell.id s.talk
  /-- Each session that has been started. -/
  started : ∀ before id after,
    s.talk = before ++ .told (.start (.returned (.ok id))) :: after → StopsFirst id after

/-- Each session of a recording is asked to stop before the recording starts another one, and
before the drop of the recording is over. -/
theorem no_session_left_running (h : Born r given) (hd : Dropped b r s) :
    s.LeavesNoneRunning r := by
  obtain ⟨schedule, hs⟩ := hd.exists_play
  have q := dutiful_of_play h hs
  have met {id : SessionId} {l : List Remark} (ha : s.Accounted id l) : StopsFirst id l :=
    ha.resolve_right fun hb => hd.not_bears hb.2
  exact ⟨fun ha => met (q.given ha), fun before id after ht => met (q.started before id after ht)⟩

/-- A session is started, and stopped at the second attempt; another one is started, and a
close overtakes that. -/
def restarted : List Event :=
  let call (k : Nat) (reply : Reply) : List Event := [.turn k .act, .turn k (.reply reply)]
  let acts (k n : Nat) : List Event := List.replicate n (.turn k .act)
  let start (k : Nat) (n : Int64) : List Event :=
    [.join .start] ++ acts k 2 ++ call k (.ok (.long n)) ++ call k (.ok .void) ++
      call k (.ok .void) ++ call k (.ok .void)
  start 0 5 ++ acts 0 3 ++ [.join .stop] ++ acts 1 4 ++ [.turn 1 (.unwind "cut")] ++ acts 1 1 ++
    [.join .stop] ++ acts 2 3 ++ call 2 (.ok .void) ++ acts 2 2 ++ start 3 6 ++
    [.join .close] ++ acts 4 1 ++ acts 3 3 ++ call 3 (.error (.communication "down")) ++ acts 3 1

/-- Of the two sessions of such a run each is stopped in its time, although one stop was unwound and
one start was overtaken. -/
theorem no_session_left_running_restarted :
    ∃ s, Dropped (.structured Generation.structured.objectName) (create {} .profile 50000) s ∧
      s.talk.filterMap Remark.started? = [⟨5⟩, ⟨6⟩] ∧
      s.LeavesNoneRunning (create {} .profile 50000) := by
  have hd : ∃ s, Dropped (.structured Generation.structured.objectName)
      (create {} .profile 50000) s ∧ s.talk.filterMap Remark.started? = [⟨5⟩, ⟨6⟩] :=
    ⟨_, .mk [.act] (show play _ _ restarted = some _ from rfl) (by decide) rfl (by decide),
      by decide⟩
  obtain ⟨s, hd, hs⟩ := hd
  exact ⟨s, hd, hs, no_session_left_running (.created {} .profile 50000) hd⟩

end Crowd

end RemoteRecorder.Recording
