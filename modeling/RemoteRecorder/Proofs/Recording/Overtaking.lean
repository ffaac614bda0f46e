import RemoteRecorder.Backend.Structured
import RemoteRecorder.Proofs.Recording.Crowd
import RemoteRecorder.Proofs.Recording.Solo

/-!
# RemoteRecorder.Proofs.Recording.Overtaking

**Closing during a transition**: a close that lands while a session is being started or
stopped leaves the release to the owner of the transition.

* `Teardown` lists what the owner says and how it ends once it has been overtaken.
* What a caller sees of a schedule is a `Walk` among moves of others (`walk_of_play`).
  The others leave a closed recording closed, and that is all the owner relies on.
* `Crowd.close_overtakes` says it of every schedule, whatever else goes on.
-/

namespace RemoteRecorder

/-- What comes of a request that an operation makes before it ends with `outcome`: a call
that unwinds takes the operation with it. -/
def Outcome.before {α : Type} : Outcome Unit → Outcome α → Outcome α
  | .returned _, outcome => outcome
  | .unwound text, _ => .unwound text

namespace Recording

/-- What the owner of a transition says, from its request on, and how its operation ends
if the recording is closed during the request. -/
inductive Teardown : Errand → List Report → Outcome Yield → Prop where
  | startFailed {launch e} :
      Teardown (.start launch) [.start (.returned (.error e))] (.returned (.error e))
  /-- The session that has been started cannot be stopped, and is left as it is. -/
  | startUnstopped {launch id e} :
      Teardown (.start launch)
        [.start (.returned (.ok id)), .stop id (.returned (.error e))]
        (refused .closed State.anyOpen)
  /-- The session that has been started is released. -/
  | startReleased {launch id ending} :
      Teardown (.start launch)
        [.start (.returned (.ok id)), .stop id (.returned (.ok ())), .close id ending]
        (ending.before (refused .closed State.anyOpen))
  /-- The session is released, whether or not it could be stopped. -/
  | stop {id result ending} :
      Teardown (.stop id) [.stop id (.returned result), .close id ending]
        (ending.before (.returned (result.map fun _ => .done)))
  /-- Who is unwound out of its transition releases nothing. -/
  | cut {e : Errand} {text} : Teardown e [e.report (.unwound text)] (.unwound text)
  | stopCut {launch id text} :
      Teardown (.start launch) [.start (.returned (.ok id)), .stop id (.unwound text)]
        (.unwound text)

/-- Whether a request is that of a transition. -/
def Errand.isTransition : Errand → Bool
  | start _ | stop _ => true
  | _ => false

namespace Caller

variable {b : Backend} {r r' : Recording} {c c' : Caller} {t : Turn} {l : List Remark}
  {o : Outcome Yield}

/-! ## Before anything has been told

What the owner of a transition says from its request on is only all it says if it has said nothing
before. That this is so has to be known of every caller at its first request. -/

/-- Whether a caller has been told nothing yet, and has asked at most for a transition. -/
def isOpening : Caller → Bool
  | begun _ | claiming _ | fetching _ => true
  | asking e _ => e.isTransition
  | _ => false

/-- Who is at its first request has said nothing but that. -/
theorem Move.opening (m : Move b r c t r' c') (h : c'.isOpening = true) :
    c.isOpening = true ∧ c.asks ++ c.remarks c' = c'.asks := by
  cases m with
  | close => exact ⟨rfl, by simp [asks, remarks]⟩
  | look hop hp => exact ⟨rfl, by simp [asks, remarks]⟩
  | claim hp => exact ⟨rfl, rfl⟩
  | lose hp => exact ⟨rfl, rfl⟩
  | fetch => exact ⟨rfl, rfl⟩
  | note => exact ⟨h, rfl⟩
  | answer reply => exact ⟨h, rfl⟩
  | @cut e _ _ text => cases e <;> cases h
  | @report e result => cases e <;> cases result <;> cases h
  | _ => cases h

/-! ## Runs on a closed recording

Once a recording is closed nothing can bring it back, so what the others do is of no account and a
single caller can be followed to its end. The lemmas go backwards along the code of an operation:
each says how a run ends that begins at a certain point, from those about the points after it. -/

/-- What the others do to a recording while a caller does not look. -/
def Others (b : Backend) (r r' : Recording) : Prop :=
  ∃ c t c', Caller.Move b r c t r' c'

/-- Others leave a closed recording closed. The owner relies on nothing else about them. -/
theorem Others.closed (h : Others b r r') (hp : r.cell.phase = .closed) :
    r'.cell.phase = .closed := by
  obtain ⟨c, t, c', m⟩ := h
  exact m.closed hp

/-- Who is at its end stays there. -/
theorem walk_of_ended (w : Walk b (Others b) r (ended o) l r' c') : l = [] ∧ c' = ended o := by
  generalize hc : ended o = c at w
  induction w with
  | here => exact ⟨rfl, rfl⟩
  | wait h w ih => exact ih hc
  | take h w ih =>
    subst hc
    cases take?_eq_some_iff.1 h

theorem walk_ended {o' : Outcome Yield} (w : Walk b (Others b) r (ended o') l r' (ended o)) :
    l = [] ∧ o = o' := by
  obtain ⟨hl, ho⟩ := walk_of_ended w
  exact ⟨hl, ended.inj ho⟩

/-- A run to the end on a closed recording begins, whatever the others do, with a step. -/
theorem walk_step (w : Walk b (Others b) r c l r' (ended o)) (hr : r.cell.phase = .closed)
    (hc : ∀ o', c ≠ ended o') :
    ∃ r₁ t c₁ l₁ r₂, r₁.cell.phase = .closed ∧ Move b r₁ c t r₂ c₁ ∧ l = c.remarks c₁ ++ l₁ ∧
      Walk b (Others b) r₂ c₁ l₁ r' (ended o) := by
  generalize hc' : ended o = c' at w
  induction w with
  | here => exact (hc o hc'.symm).elim
  | wait h w ih => exact ih (h.closed hr) hc hc'
  | @take r c t r₁ c₁ l r' c' h w ih =>
    subst hc'
    exact ⟨r, t, c₁, l, r₁, hr, take?_eq_some_iff.1 h, rfl, w⟩

/-- How a request ends on a closed recording: with a result, or cut off. -/
theorem walk_asking {e : Errand} {rest : Exchange Empty (Except Error e.Brings)}
    (w : Walk b (Others b) r (asking e rest) l r' (ended o)) (hr : r.cell.phase = .closed) :
    ∃ r₁ l₁, r₁.cell.phase = .closed ∧
      ((∃ result, l = .told (e.report (.returned result)) ::
          ((afterErrand b r₁ e result).1.asks ++ l₁) ∧
        Walk b (Others b) r₁ (afterErrand b r₁ e result).1 l₁ r' (ended o)) ∨
      ∃ text, l = .told (e.report (.unwound text)) :: l₁ ∧
        Walk b (Others b) r₁ (afterUnwinding text e) l₁ r' (ended o)) := by
  induction rest generalizing r l with
  | done result =>
    -- In each case there is one step that can come next, and it is taken on a closed recording.
    obtain ⟨r₁, t, c₁, l₁, r₂, hr₁, m, rfl, w⟩ := walk_step w hr (by simp)
    cases m with
    | report => exact ⟨r₁, l₁, hr₁, .inl ⟨result, rfl, w⟩⟩
  | note n rest ih =>
    obtain ⟨r₁, t, c₁, l₁, r₂, hr₁, m, rfl, w⟩ := walk_step w hr (by simp)
    cases m with
    | note => exact ih w hr₁
  | keep s rest => exact s.elim
  | call request next ih =>
    obtain ⟨r₁, t, c₁, l₁, r₂, hr₁, m, rfl, w⟩ := walk_step w hr (by simp)
    cases m with
    | answer reply => exact ih reply w hr₁
    | cut text => exact ⟨r₁, l₁, hr₁, .inr ⟨text, by simp [remarks], w⟩⟩

/-- Who releases a session says so, and is told what has become of it. The outcome has been settled
before, so an error of the release is swallowed. -/
theorem walk_release {id : SessionId} {o' : Outcome Yield}
    {rest : Exchange Empty (Except Error Unit)}
    (w : Walk b (Others b) r (asking (.release id o') rest) l r' (ended o))
    (hr : r.cell.phase = .closed) :
    ∃ ending, l = [.told (.close id ending)] ∧ o = ending.before o' := by
  obtain ⟨r₁, l₁, -, ⟨result, rfl, w₁⟩ | ⟨text, rfl, w₁⟩⟩ := walk_asking w hr
  · cases result with
    | ok _ =>
      obtain ⟨rfl, rfl⟩ := walk_ended w₁
      exact ⟨.returned (.ok ()), rfl, rfl⟩
    | error e =>
      obtain ⟨rfl, rfl⟩ := walk_ended w₁
      exact ⟨.returned (.error e), rfl, rfl⟩
  · obtain ⟨rfl, rfl⟩ := walk_ended w₁
    exact ⟨.unwound text, rfl, rfl⟩

/-- Who has started a session and cannot leave the transition releases the session. -/
theorem walk_settlingStart {id : SessionId} {launch : Launch}
    (w : Walk b (Others b) r (settlingStart id) l r' (ended o)) (hr : r.cell.phase = .closed) :
    ∃ reports, (Report.start (.returned (.ok id))).talk ++ l = reports.flatMap Report.talk ∧
      Teardown (.start launch) reports o := by
  obtain ⟨r₁, t, c₁, l₁, r₂, hr₁, m, rfl, w₁⟩ := walk_step w hr (by simp)
  cases m with
  | activate hp =>
    -- The phase of a closed recording is no longer that of the transition.
    simp [hr₁] at hp
  | startOvertaken hp =>
    obtain ⟨r₂, l₂, hr₂, ⟨result, rfl, w₂⟩ | ⟨text, rfl, w₂⟩⟩ := walk_asking w₁ hr₁
    · cases result with
      | ok _ =>
        obtain ⟨ending, rfl, rfl⟩ := walk_release w₂ hr₂
        exact ⟨_, rfl, .startReleased⟩
      | error e =>
        obtain ⟨rfl, rfl⟩ := walk_ended w₂
        exact ⟨_, rfl, .startUnstopped⟩
    · obtain ⟨rfl, rfl⟩ := walk_ended w₂
      exact ⟨_, rfl, .stopCut⟩

/-- Who is unwound out of a transition says nothing more. -/
theorem walk_unwinding {transition : Transition} {text : String}
    (w : Walk b (Others b) r (unwinding transition text) l r' (ended o))
    (hr : r.cell.phase = .closed) : l = [] ∧ o = .unwound text := by
  obtain ⟨r₁, t, c₁, l₁, r₂, hr₁, m, rfl, w₁⟩ := walk_step w hr (by simp)
  cases m with
  | unwindTransition hp =>
    obtain ⟨rfl, rfl⟩ := walk_ended w₁
    exact ⟨rfl, rfl⟩
  | unwindOvertaken hp =>
    obtain ⟨rfl, rfl⟩ := walk_ended w₁
    exact ⟨rfl, rfl⟩

/-- A start ends in one of the ways that are listed, whatever its request comes back with. -/
theorem teardown_of_walk_start {launch : Launch}
    {rest : Exchange Empty (Except Error SessionId)}
    (w : Walk b (Others b) r (asking (.start launch) rest) l r' (ended o))
    (hr : r.cell.phase = .closed) :
    ∃ reports, .asked .start :: l = reports.flatMap Report.talk ∧
      Teardown (.start launch) reports o := by
  obtain ⟨r₁, l₁, hr₁, ⟨result, rfl, w₁⟩ | ⟨text, rfl, w₁⟩⟩ := walk_asking w hr
  · cases result with
    | ok id =>
      obtain ⟨r₂, t, c₁, l₂, r₃, hr₂, m, hl, w₂⟩ := walk_step w₁ hr₁ (by simp [afterErrand])
      subst hl
      cases m with
      | assign => exact walk_settlingStart w₂ hr₂
    | error e =>
      obtain ⟨r₂, t, c₁, l₂, r₃, hr₂, m, hl, w₂⟩ := walk_step w₁ hr₁ (by simp [afterErrand])
      subst hl
      cases m with
      | revert hp => simp [hr₂] at hp
      | revertOvertaken hp =>
        obtain ⟨rfl, rfl⟩ := walk_ended w₂
        exact ⟨_, rfl, .startFailed⟩
  · obtain ⟨rfl, rfl⟩ := walk_unwinding w₁ hr₁
    exact ⟨[(Errand.start launch).report (.unwound text)], rfl, .cut⟩

/-- A stop likewise: it goes on to the release with either result, unless it is unwound. -/
theorem teardown_of_walk_stop {id : SessionId} {rest : Exchange Empty (Except Error Unit)}
    (w : Walk b (Others b) r (asking (.stop id) rest) l r' (ended o))
    (hr : r.cell.phase = .closed) :
    ∃ reports, .asked (.stop id) :: l = reports.flatMap Report.talk ∧
      Teardown (.stop id) reports o := by
  obtain ⟨r₁, l₁, hr₁, ⟨result, rfl, w₁⟩ | ⟨text, rfl, w₁⟩⟩ := walk_asking w hr
  · obtain ⟨r₂, t, c₁, l₂, r₃, hr₂, m, hl, w₂⟩ := walk_step w₁ hr₁ (by simp [afterErrand])
    subst hl
    cases m with
    | settleStop hp => simp [hr₂] at hp
    | stopOvertaken hp =>
      obtain ⟨ending, rfl, rfl⟩ := walk_release w₂ hr₂
      exact ⟨_, rfl, .stop⟩
  · obtain ⟨rfl, rfl⟩ := walk_unwinding w₁ hr₁
    exact ⟨[(Errand.stop id).report (.unwound text)], rfl, .cut⟩

/-- What the owner of a transition says and how it ends if the recording is closed. -/
theorem teardown_of_walk {e : Errand} {rest : Exchange Empty (Except Error e.Brings)}
    (he : e.isTransition = true) (w : Walk b (Others b) r (asking e rest) l r' (ended o))
    (hr : r.cell.phase = .closed) :
    ∃ reports, .asked e.demand :: l = reports.flatMap Report.talk ∧ Teardown e reports o := by
  cases e with
  | start launch => exact teardown_of_walk_start w hr
  | stop id => exact teardown_of_walk_stop w hr
  | _ => cases he

/-- On a closed recording nobody has to wait. -/
theorem Free.of_closed (h : Free r c) (hr' : r'.cell.phase = .closed) : Free r' c := by
  cases c with
  | begun op => exact .inr (by rw [hr']; rfl)
  | claiming t => exact (by rw [hr']; rfl : r'.cell.phase.isSettled = true)
  | asking e rest => cases e <;> exact h
  | ended outcome => cases outcome <;> exact h
  | _ => exact h

theorem free_of_walk (w : Walk b (Others b) r c l r' c') (hr : r.cell.phase = .closed)
    (h : Free r c) (hl : Uncut l) : Free r' c' := by
  induction w with
  | here => exact h
  | wait ho w ih => exact ih (ho.closed hr) (h.of_closed (ho.closed hr)) hl
  | take hm w ih =>
    obtain ⟨hl₁, hl₂⟩ := uncut_append.1 hl
    have m := take?_eq_some_iff.1 hm
    rcases m.free h with hf | ⟨e, text, ht⟩
    · exact ih (m.closed hr) hf hl₂
    · exact (hl₁ e text ht).elim

end Caller

/-! ## Closing during a transition

What remains is to get from a schedule of many callers to the run of one of them. A caller sees only
its own steps and that the recording changes in between. -/

namespace Crowd

variable {b : Backend} {s s' : Crowd} {r r' : Recording} {k : Nat} {c c' : Caller}
  {t : Caller.Turn} {given : Option SessionId} {schedule later : List Event}

/-- What a caller sees of a schedule: its own steps, and moves of others in between. -/
theorem walk_of_play (hc : s.callers[k]? = some c) (hs : s.play b schedule = some s') :
    ∃ c' l, s'.callers[k]? = some c' ∧ s'.said k = s.said k ++ l ∧
      Walk b (Caller.Others b) s.recording c l s'.recording c' := by
  induction schedule generalizing s c with
  | nil =>
    obtain rfl := Option.some.inj hs
    exact ⟨c, [], hc, (List.append_nil _).symm, .here⟩
  | cons e schedule ih =>
    -- An event is a step of the caller, a move of somebody else, or nothing to the recording.
    obtain ⟨s₁, h₁, hs⟩ := play_cons.1 hs
    cases e with
    | join operation =>
      obtain rfl := Option.some.inj h₁
      have hc' : (s.receive operation).callers[k]? = some c := receive_caller.2 (.inl hc)
      obtain ⟨d, l, hd, hl, w⟩ := ih hc' hs
      exact ⟨d, l, hd, hl, w⟩
    | turn j t =>
      obtain ⟨d, r₁, d', hd, m, rfl⟩ := step?_turn h₁
      by_cases hj : k = j
      · subst hj
        obtain rfl := Option.some.inj (hc.symm.trans hd)
        obtain ⟨c', l, hc', hl, w⟩ := ih (by rw [record_caller hd, if_pos rfl]) hs
        refine ⟨c', c.remarks d' ++ l, hc', ?_, .take m.take?_eq w⟩
        rw [hl, said_record, if_pos rfl, List.append_assoc]
      · obtain ⟨c', l, hc', hl, w⟩ := ih (by rw [record_caller hd, if_neg hj]; exact hc) hs
        refine ⟨c', l, hc', ?_, .wait ⟨d, t, d', m⟩ w⟩
        rw [hl, said_record, if_neg hj, List.append_nil]

/-- What callers have said who have been told nothing yet. -/
structure Openings (s : Crowd) : Prop where
  absent : ∀ k, s.callers[k]? = none → s.said k = []
  opening : ∀ (k : Nat) (c : Caller), s.callers[k]? = some c → c.isOpening = true →
    s.said k = c.asks

/-- No event makes anybody forget: who has been told nothing has said nothing but its first
request. -/
theorem Step.openings (h : Step b s s') (q : s.Openings) : s'.Openings := by
  cases h with
  | join operation =>
    constructor
    · intro k hk
      refine q.absent k (List.getElem?_eq_none ?_)
      have := List.getElem?_eq_none_iff.1 hk
      simp only [receive, List.length_append] at this
      omega
    · intro k c hc ho
      rcases receive_caller.1 hc with hc | ⟨rfl, rfl⟩
      · exact q.opening k c hc ho
      · exact q.absent _ (List.getElem?_eq_none (Nat.le_refl _))
  | @turn k c t r' c' hc m =>
    constructor
    · intro j hj
      rw [record_caller hc] at hj
      by_cases hjk : j = k
      · simp [hjk] at hj
      · rw [if_neg hjk] at hj
        rw [said_record, if_neg hjk, q.absent j hj]
        rfl
    · intro j d hd ho
      rw [record_caller hc] at hd
      rw [said_record]
      by_cases hjk : j = k
      · subst hjk
        rw [if_pos rfl] at hd
        obtain rfl := Option.some.inj hd
        obtain ⟨ho, hl⟩ := m.opening ho
        rw [q.opening j c hc ho, if_pos rfl, hl]
      · rw [if_neg hjk] at hd
        rw [if_neg hjk, q.opening j d hd ho, List.append_nil]

theorem openings_of_play (hs : play b ⟨r, [], []⟩ schedule = some s) : s.Openings :=
  play_induction (motive := Openings) hs ⟨fun _ _ => rfl, fun _ _ hc => by simp at hc⟩
    fun _ _ q step => step.openings q

/-- A close that is over and has not said a word. -/
def Silent (s : Crowd) (j : Nat) : Prop :=
  s.callers[j]? = some (.ended finished) ∧ s.said j = []

/-- A close on a recording in transition or closed is over in its one step. -/
theorem silent_of_close (q : s.Openings) (hj : s.callers[k]? = some (.begun .close))
    (hp : s.phase.isSettled = false ∨ s.phase = .closed)
    (h : s.step? b (.turn k t) = some s') : s'.phase = .closed ∧ s'.Silent k := by
  obtain ⟨c, r', c', hc, m, rfl⟩ := step?_turn h
  obtain rfl := Option.some.inj (hj.symm.trans hc)
  cases m with
  | look hop _ => exact (hop rfl).elim
  | close =>
    have hend : (Caller.afterClose s.recording.cell.phase).1 = .ended finished := by
      rcases hp with hp | hp
      · cases hs : s.recording.cell.phase <;> first | rfl | simp [phase, hs, Phase.isSettled] at hp
      · rw [show s.recording.cell.phase = .closed from hp]
        rfl
    refine ⟨rfl, ?_, ?_⟩
    · rw [record_caller hc, if_pos rfl, hend]
    · rw [said_record, if_pos rfl, q.opening k _ hc rfl, hend]
      rfl

/-- A close that is over stays silent, since whoever is at his end takes no more steps. -/
theorem Silent.play (q : s.Silent k) (hs : s.play b schedule = some s') : s'.Silent k := by
  obtain ⟨c', l, hc', hl, w⟩ := walk_of_play q.1 hs
  obtain ⟨rfl, rfl⟩ := Caller.walk_of_ended w
  refine ⟨hc', ?_⟩
  rw [hl, q.2]
  rfl

/-- What holds of a recording after caller `k` has been overtaken by a close at the request
of the transition it owns. -/
structure Overtaken (b : Backend) (k : Nat) (e : Errand) (s : Crowd) : Prop where
  phase : s.phase = .closed
  /-- Other closes are over in one step, and say nothing at all. -/
  closes : ∀ (i : Nat) (t : Caller.Turn) (s₁ : Crowd), s.callers[i]? = some (.begun .close) →
    s.step? b (.turn i t) = some s₁ →
    ∀ later s₂, s₁.play b later = some s₂ → s₂.phase = .closed ∧ s₂.Silent i
  /-- From its request on the owner says what it has to, and nothing else. -/
  ending : ∀ o, s.callers[k]? = some (.ended o) →
    ∃ reports, s.said k = reports.flatMap Report.talk ∧ Teardown e reports o
  /-- The owner can always get to its end, whatever has been replied so far. -/
  completes : Uncut (s.said k) → ∃ c, s.callers[k]? = some c ∧ c.Completes b s.recording

/-- From the moment at which the recording is closed the owner is on its own, and its teardown can
be read off its run. Other closes that come later find nothing to do. -/
theorem overtaken_of_closed {e : Errand} {rest : Exchange Empty (Except Error e.Brings)}
    (q : s.Openings) (hk : s.callers[k]? = some (.asking e rest)) (he : e.isTransition = true)
    (hp : s.phase = .closed) (q' : s'.Openings) (hs : s.play b schedule = some s') :
    s'.Overtaken b k e := by
  obtain ⟨c', l, hc', hl, w⟩ := walk_of_play hk hs
  have said : s'.said k = .asked e.demand :: l := by
    rw [hl, q.opening k _ hk he]
    rfl
  have closed := closed_of_play hp hs
  refine ⟨closed, ?_, ?_, ?_⟩
  · intro i t s₁ hi h₁ later s₂ h₂
    obtain ⟨hp₁, quiet⟩ := silent_of_close q' hi (.inr closed) h₁
    exact ⟨closed_of_play hp₁ h₂, quiet.play h₂⟩
  · intro o ho
    obtain rfl := Option.some.inj (hc'.symm.trans ho)
    rw [said]
    exact Caller.teardown_of_walk he w hp
  · intro hu
    rw [said] at hu
    have free : Caller.Free s.recording (.asking e rest) := by
      cases e with
      | start | stop => exact trivial
      | _ => cases he
    have uncut : Uncut l := fun e text ht => hu e text (List.mem_cons_of_mem _ ht)
    exact ⟨c', hc', (Caller.free_of_walk w hp free uncut).completes⟩

/-- The request of a transition is under way only in its phase, or after a close. -/
theorem phase_of_transition (o : Orderly s.phase s.roles) {e : Errand}
    {rest : Exchange Empty (Except Error e.Brings)} (hk : s.callers[k]? = some (.asking e rest))
    (he : e.isTransition = true) : s.phase.isSettled = false ∨ s.phase = .closed := by
  have hr := roles_eq hk
  cases e with
  | start launch =>
    rcases (o.owner k _ hr).2 with hp | hp
    · exact .inl (by rw [hp]; rfl)
    · exact .inr hp
  | stop id =>
    rcases (o.owner k _ hr).2 with hp | hp
    · exact .inl (by rw [hp]; rfl)
    · exact .inr hp
  | _ => cases he

/-- A close that lands while the request of a transition is under way leaves the release to
the owner of the transition. -/
theorem close_overtakes (h : Born r given) (hs : play b ⟨r, [], []⟩ schedule = some s)
    {e : Errand} {rest : Exchange Empty (Except Error e.Brings)}
    (hk : s.callers[k]? = some (.asking e rest)) (he : e.isTransition = true) {j : Nat}
    (hj : s.callers[j]? = some (.begun .close)) (hs' : s.step? b (.turn j t) = some s')
    {s'' : Crowd} (hl : s'.play b later = some s'') :
    s''.Silent j ∧ s''.Overtaken b k e := by
  have q : s.Openings := openings_of_play hs
  have q' : s'.Openings := (Step.of_step? hs').openings q
  have q'' : s''.Openings := play_induction (motive := Openings) hl q'
    fun _ _ q step => step.openings q
  obtain ⟨hp, quiet⟩ := silent_of_close q hj (phase_of_transition (orderly_of_play h hs) hk he) hs'
  have hk' : s'.callers[k]? = some (.asking e rest) := by
    obtain ⟨c, r', c', hc, m, rfl⟩ := step?_turn hs'
    have hne : k ≠ j := by
      rintro rfl
      cases hk.symm.trans hj
    rw [record_caller hc, if_neg hne, hk]
  exact ⟨quiet.play hl, overtaken_of_closed q' hk' he hp q'' hl⟩

/-- A start, and a close during the second of its remote calls. -/
def overtakenStart : List Event :=
  [.join .start, .join .close, .turn 0 .act, .turn 0 .act, .turn 0 .act,
    .turn 0 (.reply (.ok (.long 5))), .turn 0 .act]

/-- The rest of the start, with a second close before the end. -/
def teardownOfStart : List Event :=
  [.turn 0 (.reply (.ok .void)), .turn 0 .act, .turn 0 (.reply (.ok .void)), .turn 0 .act,
    .turn 0 (.reply (.ok .void)), .turn 0 .act, .turn 0 .act, .turn 0 .act, .turn 0 .act,
    .join .close, .turn 2 .act, .turn 0 (.reply (.ok .void)), .turn 0 .act, .turn 0 .act,
    .turn 0 (.reply (.ok .void)), .turn 0 .act]

/-- A start is overtaken at its second call, and releases its session after it has stopped it.
Another close in between adds nothing. -/
theorem close_overtakes_start :
    ∃ s s' s'' rest,
      play (.structured Generation.structured.objectName) ⟨create {} .profile 50000, [], []⟩
        overtakenStart = some s ∧
      s.callers[0]? = some (.asking (.start .first) rest) ∧
      s.callers[1]? = some (.begun .close) ∧
      s.step? (.structured Generation.structured.objectName) (.turn 1 .act) = some s' ∧
      s'.play (.structured Generation.structured.objectName) teardownOfStart = some s'' ∧
      s''.callers[0]? = some (.ended (refused .closed State.anyOpen)) ∧
      s''.Silent 1 ∧
      s''.Overtaken (.structured Generation.structured.objectName) 0 (.start .first) := by
  refine ⟨_, _, _, _, rfl, rfl, rfl, rfl, rfl, rfl, ?_⟩
  exact close_overtakes (.created {} .profile 50000)
    (show play _ _ overtakenStart = some _ from rfl) rfl rfl rfl
    (show step? _ _ (.turn 1 .act) = some _ from rfl)
    (show play _ _ teardownOfStart = some _ from rfl)

end Crowd

end Recording

end RemoteRecorder
