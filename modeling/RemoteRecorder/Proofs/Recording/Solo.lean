import RemoteRecorder.Proofs.Exchange
import RemoteRecorder.Proofs.Recording.Dialogue

/-!
# RemoteRecorder.Proofs.Recording.Solo

**An operation on its own**: what a caller does whom nobody disturbs.

Alone, a caller has one next step unless it waits for a reply, so a run to the end is
that step and a run to the end from there (`Move.solo_iff`). A request may take many
replies, but all that matters is what it can come to (`solo_asking_iff`).
-/

namespace RemoteRecorder.Recording.Caller

variable {b : Backend} {r r₁ r' : Recording} {c c₁ : Caller} {l : List Remark}
  {o : Outcome Yield} {x : Except Error Yield}

/-- A caller that can take a step by itself waits for no reply. -/
theorem Move.pending?_eq_none (m : Move b r c .act r₁ c₁) : c.pending? = none := by
  cases m <;> rfl

/-- A caller at its end takes no step. -/
theorem solo_ended_iff {o' : Outcome Yield} :
    Solo b r (ended o') l r' (ended o) ↔ l = [] ∧ r' = r ∧ o' = o := by
  constructor
  · intro w
    cases w with
    | here => exact ⟨rfl, rfl, rfl⟩
    | wait h w => exact h.elim
    | take h w => cases take?_eq_some_iff.1 h
  · rintro ⟨rfl, rfl, rfl⟩
    exact .here

/-- A run to the end is the next step and a run to the end from there. -/
theorem Move.solo_iff (m : Move b r c .act r₁ c₁) :
    Solo b r c l r' (ended o) ↔ ∃ l₁, l = c.remarks c₁ ++ l₁ ∧ Solo b r₁ c₁ l₁ r' (ended o) := by
  constructor
  · intro w
    cases w with
    | here => cases m
    | wait h w => exact h.elim
    | @take _ _ t r₂ c₂ l₁ _ _ h w =>
      have ht : t = .act := by
        cases t with
        | act => rfl
        | reply reply => simp [take?, m.pending?_eq_none] at h
        | unwind text => simp [take?, m.pending?_eq_none] at h
      subst ht
      obtain ⟨rfl, rfl⟩ : r₁ = r₂ ∧ c₁ = c₂ := by simpa [m.take?_eq] using h
      exact ⟨l₁, rfl, w⟩
  · rintro ⟨l₁, rfl, w⟩
    exact .take m.take?_eq w

/-- Who has been cut off gets no result. -/
theorem not_solo_afterUnwinding {text : String} {e : Errand} :
    ¬ Solo b r (afterUnwinding text e) l r' (ended (.returned x)) := by
  have unwinding_end {t : Transition} :
      ¬ Solo b r (unwinding t text) l r' (ended (.returned x)) := by
    intro w
    cases w with
    | wait h w => exact h.elim
    | take h w =>
      cases take?_eq_some_iff.1 h with
      | unwindTransition hp => simpa using solo_ended_iff.1 w
      | unwindOvertaken hp => simpa using solo_ended_iff.1 w
  have ended_end : ¬ Solo b r (ended (.unwound text)) l r' (ended (.returned x)) := by
    rw [solo_ended_iff]
    simp
  cases e with
  | start launch => exact unwinding_end
  | stop id => exact unwinding_end
  | _ => exact ended_end

/-- A run to the end of a caller that has just got where it is, with what it asks on
getting there. -/
def Runs (b : Backend) (r : Recording) (c : Caller) (l : List Remark) (r' : Recording)
    (o : Outcome Yield) : Prop :=
  ∃ l₁, l = c.asks ++ l₁ ∧ Solo b r c l₁ r' (ended o)

theorem runs_begun_iff {op : Operation} :
    Runs b r (begun op) l r' o ↔ Solo b r (begun op) l r' (ended o) := by
  constructor
  · rintro ⟨_, rfl, w⟩
    exact w
  · exact fun w => ⟨l, rfl, w⟩

theorem runs_ended_iff {o' : Outcome Yield} :
    Runs b r (ended o') l r' o ↔ l = [] ∧ r' = r ∧ o' = o := by
  constructor
  · rintro ⟨_, rfl, w⟩
    exact solo_ended_iff.1 w
  · exact fun h => ⟨l, rfl, solo_ended_iff.2 h⟩

/-- Outside a request, what is said in a step is what is asked after it. -/
theorem Move.runs_iff (m : Move b r c .act r₁ c₁) (hc : c.asks = []) :
    Runs b r c l r' o ↔ Runs b r₁ c₁ l r' o := by
  have hr : c.remarks c₁ = c₁.asks := by
    cases c with
    | asking e rest => cases hc
    | _ => rfl
  rw [Runs, hc]
  constructor
  · rintro ⟨_, rfl, w⟩
    rw [m.solo_iff, hr] at w
    exact w
  · intro w
    rw [Runs, ← hr, ← m.solo_iff] at w
    exact ⟨l, rfl, w⟩

/-- A run that gets a result out of a request: one that the request can come to. -/
theorem solo_asking_iff {e : Errand} {rest : Exchange Empty (Except Error e.Brings)} :
    Solo b r (asking e rest) l r' (ended (.returned x)) ↔
      ∃ result, rest.MayEnd result ∧ ∃ l₁, l = .told (e.report (.returned result)) :: l₁ ∧
        Runs b r (afterErrand b r e result).1 l₁ r' (.returned x) := by
  induction rest generalizing l with
  | done result =>
    rw [Move.report.solo_iff]
    constructor
    · rintro ⟨l₁, rfl, w⟩
      exact ⟨result, .done result, _, rfl, l₁, rfl, w⟩
    · rintro ⟨_, ⟨⟩, _, rfl, l₁, rfl, w⟩
      exact ⟨l₁, rfl, w⟩
  | note n rest ih =>
    rw [Move.note.solo_iff]
    constructor
    · rintro ⟨_, rfl, w⟩
      obtain ⟨result, hr, w⟩ := ih.1 w
      exact ⟨result, .note hr, w⟩
    · rintro ⟨result, ⟨⟩ | hr, w⟩
      exact ⟨l, rfl, ih.2 ⟨result, ‹_›, w⟩⟩
  | keep s rest => exact s.elim
  | call request next ih =>
    constructor
    · intro w
      cases w with
      | wait h w => exact h.elim
      | take h w =>
        cases take?_eq_some_iff.1 h with
        | answer reply =>
          obtain ⟨result, hr, w⟩ := (ih reply).1 w
          exact ⟨result, .call reply hr, w⟩
        | cut text => exact (not_solo_afterUnwinding w).elim
    · rintro ⟨result, hr, w⟩
      cases hr with
      | call reply hr =>
        exact .take (Move.answer reply).take?_eq ((ih reply).2 ⟨result, hr, w⟩)

/-- A request that has just been made asks for what it is for, and then ends in one of the ways it
can come to. -/
theorem runs_ask_iff {e : Errand} :
    Runs b r (ask b r e) l r' (.returned x) ↔
      ∃ result, (e.request b r.options r.configuration).run.MayEnd result ∧
        ∃ l₁, l = (e.report (.returned result)).talk ++ l₁ ∧
          Runs b r (afterErrand b r e result).1 l₁ r' (.returned x) := by
  constructor
  · rintro ⟨_, rfl, w⟩
    obtain ⟨result, hr, l₁, rfl, w₁⟩ := solo_asking_iff.1 w
    exact ⟨result, hr, l₁, by simp [Report.talk, ask, asks], w₁⟩
  · rintro ⟨result, hr, l₁, rfl, w⟩
    exact ⟨_, by simp [Report.talk, ask, asks], solo_asking_iff.2 ⟨result, hr, l₁, rfl, w⟩⟩

/-! ## Getting to the end

A caller may be followed to its end only if it gets there, and it does unless it waits for somebody
else or has been cut off. The requests are the point: a tree of calls is finite, so replying to each
of them brings it to a result. -/

/-- Whether a caller who is alone gets a result: it waits for no transition, and has not
been cut off. -/
def Free (r : Recording) : Caller → Prop
  | begun op => op = .close ∨ r.cell.phase.isSettled = true
  | claiming _ => r.cell.phase.isSettled = true
  | asking (.stopForRelease _ outcome) _ | asking (.release _ outcome) _ =>
    ∃ x, outcome = .returned x
  | unwinding _ _ | ended (.unwound _) => False
  | _ => True

/-- A caller who is alone can get to the end with a result. -/
def Completes (b : Backend) (r : Recording) (c : Caller) : Prop :=
  ∃ l r' x, Solo b r c l r' (ended (.returned x))

theorem completes_returned : Completes b r (ended (.returned x)) :=
  ⟨[], r, x, .here⟩

theorem Move.completes {t : Turn} (m : Move b r c t r₁ c₁) (h : Completes b r₁ c₁) :
    Completes b r c := by
  obtain ⟨l, r', x, w⟩ := h
  exact ⟨_, r', x, .take m.take?_eq w⟩

/-- A request can be brought to a result. -/
theorem completes_asking {e : Errand} {rest : Exchange Empty (Except Error e.Brings)}
    (h : ∀ result, Completes b r (afterErrand b r e result).1) : Completes b r (asking e rest) := by
  obtain ⟨result, hr⟩ := rest.exists_mayEnd
  obtain ⟨l, r', x, w⟩ := h result
  exact ⟨_, r', x, solo_asking_iff.2 ⟨result, hr, _, rfl, l, rfl, w⟩⟩

theorem completes_release {id : SessionId} {rest : Exchange Empty (Except Error Unit)} :
    Completes b r (asking (.release id (.returned x)) rest) := by
  refine completes_asking ?_
  intro result
  cases result <;> exact completes_returned

theorem completes_stopForRelease {id : SessionId} {rest : Exchange Empty (Except Error Unit)} :
    Completes b r (asking (.stopForRelease id (.returned x)) rest) := by
  refine completes_asking ?_
  intro result
  cases result with
  | ok _ => exact completes_release
  | error e => exact completes_returned

theorem completes_settlingStart {id : SessionId} : Completes b r (settlingStart id) := by
  by_cases hp : r.cell.phase = .starting
  · exact (Move.activate hp).completes completes_returned
  · exact (Move.startOvertaken hp).completes completes_stopForRelease

theorem completes_revertingStart {launch : Launch} {e : Error} :
    Completes b r (revertingStart launch e) := by
  by_cases hp : r.cell.phase = .starting
  · exact (Move.revert hp).completes completes_returned
  · exact (Move.revertOvertaken hp).completes completes_returned

theorem completes_settlingStop {id : SessionId} {result : Except Error Unit} :
    Completes b r (settlingStop id result) := by
  by_cases hp : r.cell.phase = .stopping
  · exact (Move.settleStop hp).completes completes_returned
  · exact (Move.stopOvertaken hp).completes completes_release

theorem completes_asking_of_free {e : Errand} {rest : Exchange Empty (Except Error e.Brings)}
    (h : Free r (asking e rest)) : Completes b r (asking e rest) := by
  cases e with
  | start launch =>
    refine completes_asking ?_
    intro result
    cases result with
    | ok id => exact Move.assign.completes completes_settlingStart
    | error e => exact completes_revertingStart
  | stop id => exact completes_asking fun result => completes_settlingStop
  | dump id path => exact completes_asking fun result => completes_returned
  | clone id andStop state =>
    refine completes_asking ?_
    intro result
    cases result with
    | ok id => exact Move.reportClone.completes completes_returned
    | error e => exact completes_returned
  | openStream id request => exact completes_asking fun result => completes_returned
  | stopForRelease id outcome =>
    obtain ⟨x, rfl⟩ := h
    exact completes_stopForRelease
  | release id outcome =>
    obtain ⟨x, rfl⟩ := h
    exact completes_release

theorem completes_fetching (u : Use) : Completes b r (fetching u) := by
  refine Move.fetch.completes ?_
  cases u with
  | answer => exact completes_returned
  | release => exact completes_asking_of_free ⟨_, rfl⟩
  | stop | dump | clone | openStream => exact completes_asking_of_free trivial

theorem completes_won {t : Transition} (hp : r.cell.phase = t.source) :
    Completes b r (claiming t) := by
  refine (Move.claim hp).completes ?_
  cases t with
  | start launch => exact completes_asking_of_free trivial
  | stop => exact completes_fetching .stop

/-- Who sees a phase goes on from what it sees, and so wins what it claims. -/
theorem completes_afterLook (op : Operation) : Completes b r (afterLook r r.cell.phase op) := by
  have h := looked r r.cell.phase op
  generalize afterLook r r.cell.phase op = c at h
  cases h with
  | claim t ht => exact completes_won ht
  | running hp => exact completes_fetching .answer
  | @read op u hop hu => exact completes_fetching u
  | idle hx => exact completes_returned

theorem completes_begun {op : Operation} (h : op = .close ∨ r.cell.phase.isSettled = true) :
    Completes b r (begun op) := by
  by_cases hop : op = .close
  · subst hop
    refine Move.close.completes ?_
    cases r.cell.phase with
    | active => exact completes_fetching .release
    | new | stopped | closed | starting | stopping => exact completes_returned
  · exact (Move.look hop (h.resolve_left hop)).completes (completes_afterLook op)

/-- A caller who waits for nobody and has not been cut off can get to a result. The cases go
backwards along the code, as those of a run do. -/
theorem Free.completes (h : Free r c) : Completes b r c := by
  cases c with
  | begun op => exact completes_begun h
  | claiming t =>
    by_cases hp : r.cell.phase = t.source
    · exact completes_won hp
    · exact (Move.lose hp).completes (completes_begun (.inr h))
  | fetching u => exact completes_fetching u
  | asking e rest => exact completes_asking_of_free h
  | assigning id => exact Move.assign.completes completes_settlingStart
  | settlingStart id => exact completes_settlingStart
  | revertingStart launch e => exact completes_revertingStart
  | settlingStop id result => exact completes_settlingStop
  | unwinding t text => exact h.elim
  | reportingClone clone state => exact Move.reportClone.completes completes_returned
  | ended outcome =>
    cases outcome with
    | returned x => exact completes_returned
    | unwound text => exact h.elim

/-- A step leaves a free caller free unless it cuts it off. -/
theorem Move.free {t : Turn} (m : Move b r c t r₁ c₁) (h : Free r c) :
    Free r₁ c₁ ∨ ∃ e text, .told (Errand.report e (.unwound text)) ∈ c.remarks c₁ := by
  cases m with
  | close => cases r.cell.phase <;> exact .inl trivial
  | @look op hop hp =>
    have looked := looked r r.cell.phase op
    generalize afterLook r r.cell.phase op = c at looked
    cases looked with
    | claim t ht => exact .inl hp
    | _ => exact .inl trivial
  | @claim t hp => cases t <;> exact .inl trivial
  | lose hp => exact .inl (.inr h)
  | @fetch u => cases u <;> first | exact .inl trivial | exact .inl ⟨_, rfl⟩
  | @note e _ rest => cases e <;> exact .inl h
  | @answer e _ _ reply => cases e <;> exact .inl h
  | @cut e _ _ text => exact .inr ⟨e, text, by simp [remarks]⟩
  | @report e result =>
    cases e with
    | stopForRelease id outcome =>
      obtain ⟨x, rfl⟩ := h
      cases result <;> first | exact .inl trivial | exact .inl ⟨_, rfl⟩
    | release id outcome =>
      obtain ⟨x, rfl⟩ := h
      cases result <;> exact .inl trivial
    | _ => cases result <;> exact .inl trivial
  | startOvertaken hp => exact .inl ⟨_, rfl⟩
  | stopOvertaken hp => exact .inl ⟨_, rfl⟩
  | unwindTransition hp => exact h.elim
  | unwindOvertaken hp => exact h.elim
  | _ => exact .inl trivial

/-- Alone, a caller stays free unless a call cuts it off. -/
theorem free_of_solo (w : Solo b r c l r₁ c₁) (h : Free r c) (hl : Uncut l) : Free r₁ c₁ := by
  induction w with
  | here => exact h
  | wait never w ih => exact never.elim
  | take hm w ih =>
    obtain ⟨hl₁, hl₂⟩ := uncut_append.1 hl
    rcases (take?_eq_some_iff.1 hm).free h with hf | ⟨e, text, ht⟩
    · exact ih hf hl₂
    · exact (hl₁ e text ht).elim

end RemoteRecorder.Recording.Caller
