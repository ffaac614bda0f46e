import RemoteRecorder.Recording.Caller

/-!
# RemoteRecorder.Proofs.Recording.Move

**What a step of a caller can do**, said once.

`Caller.take?` is any single step of a caller: one by itself, a reply, or being cut off
at a remote call. `Caller.Move` lists these steps with the phase in which each is taken,
and `take?_eq_some_iff` says that the list is exact. Whatever callers keep or promise is
proved by cases on a move, and nobody opens the code of the operations again.
-/

namespace RemoteRecorder.Recording

@[simp] theorem setPhase_cell (r : Recording) (p : Phase) :
    (r.setPhase p).cell = { r.cell with phase := p } := rfl

@[simp] theorem setId_cell (r : Recording) (id : SessionId) :
    (r.setId id).cell = { r.cell with id } := rfl

/-- A transition is made by comparing and setting the phase in one step. It succeeds if the phase is
the expected one. -/
theorem move?_of_phase_eq {r : Recording} {p q : Phase} (h : r.cell.phase = p) :
    r.move? p q = some (r.setPhase q) :=
  move?_eq_some_iff.2 ⟨h, rfl⟩

theorem move?_of_phase_ne {r : Recording} {p q : Phase} (h : r.cell.phase ≠ p) :
    r.move? p q = none :=
  move?_eq_none_iff.2 h

/-- Whether somebody needs the session number only for reading. -/
def Use.isReading : Use → Bool
  | dump _ | clone _ _ | openStream _ => true
  | _ => false

/-- Whether an operation only reads the session. -/
def Operation.isReading : Operation → Bool
  | dump _ | clone _ | openStream _ _ _ => true
  | _ => false

/-- Whether an errand is of a kind that only reads the session. -/
def Errand.isReading : Errand → Bool
  | dump _ _ | clone _ _ _ | openStream _ _ => true
  | _ => false

namespace Caller

/-! ## Looking at the phase

An operation first looks at the phase and decides by it what to do. The decision is stale as soon as
it has been made, since somebody else may change the phase before the next step; this is why winning
a transition is a step of its own that looks again. -/

/-- What an operation can do after it has seen a phase. -/
inductive Looked (p : Phase) : Operation → Caller → Prop where
  /-- It may win a transition. -/
  | claim (t : Transition) (h : p = t.source) : Looked p t.operation (claiming t)
  /-- The session runs already. -/
  | running (h : p.isSettled = true → p = .active) : Looked p .start (fetching .answer)
  /-- There is data to be read. -/
  | read {op u} (hop : op.isReading = true) (hu : u.isReading = true)
      (h : p.state.hasRemoteData = true) : Looked p op (fetching u)
  /-- There is nothing to do, or nothing that can be done. -/
  | idle {op result} (h : result = .ok .done ∨ ∃ e, result = .error e) :
      Looked p op (ended (.returned result))

theorem looked (r : Recording) (p : Phase) (op : Operation) : Looked p op (afterLook r p op) := by
  cases op with
  | start =>
    cases p with
    | new => exact .claim (.start .first) rfl
    | stopped => exact .claim (.start .again) rfl
    | closed => exact .idle (.inr ⟨_, rfl⟩)
    | active => exact .running fun _ => rfl
    | starting | stopping => exact .running fun hp => nomatch hp
  | stop =>
    cases p with
    | active => exact .claim .stop rfl
    | closed => exact .idle (.inr ⟨_, rfl⟩)
    | _ => exact .idle (.inl rfl)
  | dump path =>
    by_cases hp : p.state.hasRemoteData = true
    · rw [afterLook, if_pos hp]
      exact .read rfl rfl hp
    · rw [afterLook, if_neg hp]
      exact .idle (.inr ⟨_, rfl⟩)
  | clone andStop =>
    by_cases hp : p.state.hasRemoteData = true
    · rw [afterLook, if_pos hp]
      exact .read rfl rfl hp
    · rw [afterLook, if_neg hp]
      exact .idle (.inr ⟨_, rfl⟩)
  | openStream start stop blockSize =>
    by_cases hp : p = .stopped
    · rw [afterLook, if_pos hp]
      exact .read rfl rfl (by rw [hp]; rfl)
    · rw [afterLook, if_neg hp]
      exact .idle (.inr ⟨_, rfl⟩)
  | close => exact .idle (.inl rfl)

/-! ## Steps

The code of the operations is one function of states with a case for each point at which an
operation may stand. `Move` lists the same steps as constructors, each with its guard and its
effect, so that an invariant is proved case by case and no proof has to split the function again. -/

/-- The ways in which a caller takes a step. -/
inductive Turn where
  /-- By itself. -/
  | act
  /-- The remote call it waits for comes back. -/
  | reply (reply : Reply)
  /-- The remote call it waits for unwinds. -/
  | unwind (text : String)

/-- A step of a caller: the recording and the caller after it, if it can be taken. -/
def take? (b : Backend) (r : Recording) (c : Caller) : Turn → Option (Recording × Caller)
  | .act => (c.step? b r).map fun (r, c, _) => (r, c)
  | .reply reply => c.pending?.map fun _ => (r, c.answer reply)
  | .unwind text => c.pending?.map fun _ => (r, c.unwind text)

theorem take?_reply {b : Backend} {r : Recording} {c : Caller} {request : Call} {reply : Reply}
    (h : c.pending? = some request) : c.take? b r (.reply reply) = some (r, c.answer reply) := by
  simp [take?, h]

theorem take?_unwind {b : Backend} {r : Recording} {c : Caller} {request : Call} {text : String}
    (h : c.pending? = some request) : c.take? b r (.unwind text) = some (r, c.unwind text) := by
  simp [take?, h]

/-- The end of an operation that has been overtaken by a close while it started a session. -/
abbrev overtaken : Outcome Yield := refused .closed State.anyOpen

/-- The steps of a caller: the recording and the caller before and after each. -/
inductive Move (b : Backend) (r : Recording) : Caller → Turn → Recording → Caller → Prop where
  | close : Move b r (begun .close) .act (r.setPhase .closed) (afterClose r.cell.phase).1
  | look {op} (hop : op ≠ .close) (hp : r.cell.phase.isSettled = true) :
      Move b r (begun op) .act r (afterLook r r.cell.phase op)
  /-- Winning a transition. -/
  | claim {t : Transition} (hp : r.cell.phase = t.source) :
      Move b r (claiming t) .act (r.setPhase t.inFlight) (afterClaim b (r.setPhase t.inFlight) t)
  /-- Losing a transition to somebody else. -/
  | lose {t : Transition} (hp : r.cell.phase ≠ t.source) :
      Move b r (claiming t) .act r (begun t.operation)
  | fetch {u} : Move b r (fetching u) .act r (use b r r.id u)
  | note {e n rest} : Move b r (asking e (.note n rest)) .act r (asking e rest)
  | answer {e request next} (reply : Reply) :
      Move b r (asking e (.call request next)) (.reply reply) r (asking e (next reply))
  | cut {e request next} (text : String) :
      Move b r (asking e (.call request next)) (.unwind text) r (afterUnwinding text e)
  | report {e} {result : Except Error e.Brings} :
      Move b r (asking e (.done result)) .act r (afterErrand b r e result).1
  | assign {id} : Move b r (assigning id) .act (r.setId id) (settlingStart id)
  | activate {id} (hp : r.cell.phase = .starting) :
      Move b r (settlingStart id) .act (r.setPhase .active) (ended (.returned (.ok (.running id))))
  | startOvertaken {id} (hp : r.cell.phase ≠ .starting) :
      Move b r (settlingStart id) .act r (ask b r (.stopForRelease id overtaken))
  | revert {l : Launch} {e} (hp : r.cell.phase = .starting) :
      Move b r (revertingStart l e) .act (r.setPhase l.source) (ended (.returned (.error e)))
  | revertOvertaken {l e} (hp : r.cell.phase ≠ .starting) :
      Move b r (revertingStart l e) .act r (ended (.returned (.error e)))
  | settleStop {id result} (hp : r.cell.phase = .stopping) :
      Move b r (settlingStop id result) .act (r.setPhase (phaseAfterStop result))
        (ofResult (fun _ => .done) result)
  | stopOvertaken {id result} (hp : r.cell.phase ≠ .stopping) :
      Move b r (settlingStop id result) .act r
        (ask b r (.release id (.returned (result.map fun _ => .done))))
  | unwindTransition {t : Transition} {text} (hp : r.cell.phase = t.inFlight) :
      Move b r (unwinding t text) .act (r.setPhase t.source) (ended (.unwound text))
  | unwindOvertaken {t : Transition} {text} (hp : r.cell.phase ≠ t.inFlight) :
      Move b r (unwinding t text) .act r (ended (.unwound text))
  | reportClone {clone state} :
      Move b r (reportingClone clone state) .act r
        (ended (.returned (.ok (.cloned (r.copy clone state)))))

variable {b : Backend} {r r' : Recording} {c c' : Caller}

/-- Every move can be taken: the list promises nothing that the code does not do. -/
theorem Move.take?_eq {t : Turn} (m : Move b r c t r' c') : c.take? b r t = some (r', c') := by
  cases m <;> simp_all [take?, step?, pending?, Caller.answer, Caller.unwind,
    move?_of_phase_eq, move?_of_phase_ne, Caller.ofResult]

/-- A closed recording stays closed. -/
theorem Move.closed {t : Turn} (m : Move b r c t r' c') (h : r.cell.phase = .closed) :
    r'.cell.phase = .closed := by
  cases m with
  | close => rfl
  | @claim t hp => cases t with
    | start l => cases l <;> simp [h, Transition.source, Launch.source] at hp
    | stop => simp [h, Transition.source] at hp
  | activate hp => simp [h] at hp
  | revert hp => simp [h] at hp
  | settleStop hp => simp [h] at hp
  | @unwindTransition t text hp => cases t <;> simp [h, Transition.inFlight] at hp
  | _ => exact h

/-- A transition that is left leads to its target, or nowhere if it has been overtaken. -/
theorem move?_getD (p q : Phase) :
    (r.cell.phase = p ∧ (r.move? p q).getD r = r.setPhase q) ∨
      (r.cell.phase ≠ p ∧ (r.move? p q).getD r = r) := by
  by_cases h : r.cell.phase = p
  · exact .inl ⟨h, by rw [move?_of_phase_eq h]; rfl⟩
  · exact .inr ⟨h, by rw [move?_of_phase_ne h]; rfl⟩

/-- A step that a caller takes by itself is one of the moves. Here the code of the operations is
opened, for the first and last time. -/
theorem Move.of_step? {n : List Notice} (h : c.step? b r = some (r', c', n)) :
    Move b r c .act r' c' := by
  cases c with
  | begun op =>
    -- A close acts at once, whereas every other operation looks at the cell first.
    by_cases hop : op = .close
    · subst hop
      have found : some (r.setPhase .closed, afterClose r.cell.phase) = some (r', c', n) := h
      obtain ⟨rfl, hc⟩ := Prod.mk.inj (Option.some.inj found)
      obtain rfl : (afterClose r.cell.phase).1 = c' := congrArg Prod.fst hc
      exact .close
    · rw [step?.eq_2 _ _ _ hop] at h
      split at h
      · obtain ⟨rfl, rfl, -⟩ := by simpa using h
        exact .look hop ‹_›
      · cases h
  | claiming t =>
    by_cases hp : r.cell.phase = t.source
    · obtain ⟨rfl, rfl, -⟩ := by simpa [step?, move?_of_phase_eq hp] using h
      exact .claim hp
    · obtain ⟨rfl, rfl, -⟩ := by simpa [step?, move?_of_phase_ne hp] using h
      exact .lose hp
  | fetching u =>
    obtain ⟨rfl, rfl, -⟩ := by simpa [step?] using h
    exact .fetch
  | asking e rest =>
    cases rest with
    | done result =>
      have followed : some (r, afterErrand b r e result) = some (r', c', n) := h
      obtain ⟨rfl, hc⟩ := Prod.mk.inj (Option.some.inj followed)
      obtain rfl : (afterErrand b r e result).1 = c' := congrArg Prod.fst hc
      exact .report
    | note n rest =>
      obtain ⟨rfl, rfl, -⟩ := by simpa [step?] using h
      exact .note
    | keep s rest => exact s.elim
    | call request next => cases h
  | assigning id =>
    obtain ⟨rfl, rfl, -⟩ := by simpa [step?] using h
    exact .assign
  | settlingStart id =>
    by_cases hp : r.cell.phase = .starting
    · obtain ⟨rfl, rfl, -⟩ := by simpa [step?, move?_of_phase_eq hp] using h
      exact .activate hp
    · obtain ⟨rfl, rfl, -⟩ := by simpa [step?, move?_of_phase_ne hp] using h
      exact .startOvertaken hp
  | revertingStart l e =>
    obtain ⟨hr, rfl, -⟩ := by simpa [step?] using h
    -- The caller ends alike whether or not it was overtaken, so the split is on what becomes of the
    -- cell.
    rcases move?_getD (r := r) .starting l.source with ⟨hp, hr'⟩ | ⟨hp, hr'⟩
    · rw [← hr, hr']
      exact .revert hp
    · rw [← hr, hr']
      exact .revertOvertaken hp
  | settlingStop id result =>
    by_cases hp : r.cell.phase = .stopping
    · obtain ⟨rfl, rfl, -⟩ := by simpa [step?, move?_of_phase_eq hp] using h
      exact .settleStop hp
    · obtain ⟨rfl, rfl, -⟩ := by simpa [step?, move?_of_phase_ne hp] using h
      exact .stopOvertaken hp
  | unwinding t text =>
    obtain ⟨hr, rfl, -⟩ := by simpa [step?] using h
    rcases move?_getD (r := r) t.inFlight t.source with ⟨hp, hr'⟩ | ⟨hp, hr'⟩
    · rw [← hr, hr']
      exact .unwindTransition hp
    · rw [← hr, hr']
      exact .unwindOvertaken hp
  | reportingClone clone state =>
    obtain ⟨rfl, rfl, -⟩ := by simpa [step?] using h
    exact .reportClone
  | ended outcome => cases h

/-- Only a caller at a remote call waits for one. -/
theorem pending?_eq_some_iff {request : Call} :
    c.pending? = some request ↔ ∃ e next, c = asking e (.call request next) := by
  constructor
  · intro h
    cases c with
    | asking e rest =>
      cases rest with
      | call request next => exact ⟨e, next, by simpa [pending?] using h⟩
      | _ => cases h
    | _ => cases h
  · rintro ⟨e, next, rfl⟩
    rfl

/-- The list of moves is exact: the steps that can be taken are these, and no others. -/
theorem take?_eq_some_iff {t : Turn} : c.take? b r t = some (r', c') ↔ Move b r c t r' c' := by
  refine ⟨fun h => ?_, Move.take?_eq⟩
  cases t with
  | act =>
    obtain ⟨⟨r₁, c₁, n⟩, h₁, h₂⟩ := Option.map_eq_some_iff.1 h
    obtain ⟨rfl, rfl⟩ := by simpa using h₂
    exact .of_step? h₁
  | reply reply =>
    obtain ⟨request, h₁, h₂⟩ := Option.map_eq_some_iff.1 h
    obtain ⟨e, next, rfl⟩ := pending?_eq_some_iff.1 h₁
    obtain ⟨rfl, rfl⟩ := by simpa using h₂
    exact .answer reply
  | unwind text =>
    obtain ⟨request, h₁, h₂⟩ := Option.map_eq_some_iff.1 h
    obtain ⟨e, next, rfl⟩ := pending?_eq_some_iff.1 h₁
    obtain ⟨rfl, rfl⟩ := by simpa using h₂
    exact .cut text

end Caller

end RemoteRecorder.Recording
