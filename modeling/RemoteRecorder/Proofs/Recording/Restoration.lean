import RemoteRecorder.Proofs.Recording.Lifecycle

/-!
# RemoteRecorder.Proofs.Recording.Restoration

**An operation that returns an error leaves the recording as it found it**, if nobody else works on
it meanwhile.

`Caller.Restores` compares the recording with what it was when a caller began: unchanged, or on its
way through a transition that leads back if the request fails.
-/

namespace RemoteRecorder.Recording

/-- Whether a recording is in a transition that has led it out of what it was. -/
def Underway (r₀ r : Recording) (t : Transition) : Prop :=
  r₀.cell.phase = t.source ∧ r = r₀.setPhase t.inFlight

/-- To go back to the source of a transition undoes it. -/
theorem Underway.back {r₀ r : Recording} {t : Transition} (h : Underway r₀ r t) :
    r.setPhase t.source = r₀ := by
  obtain ⟨hp, rfl⟩ := h
  exact setPhase_setPhase_self hp

theorem Underway.phase {r₀ r : Recording} {t : Transition} (h : Underway r₀ r t) :
    r.cell.phase = t.inFlight := by
  obtain ⟨-, rfl⟩ := h
  rfl

namespace Caller

/-- Whether a recording that was `r₀` when a caller began is going to be so again if the operation
returns an error. -/
def Restores (r₀ r : Recording) : Caller → Prop
  | begun _ | claiming _ | fetching .answer | fetching (.dump _) | fetching (.clone _ _)
  | fetching (.openStream _) | asking (.dump _ _) _ | asking (.clone _ _ _) _
  | asking (.openStream _ _) _ | ended (.returned (.error _)) => r = r₀
  | asking (.start l) _ | revertingStart l _ => Underway r₀ r (.start l)
  | fetching .stop | asking (.stop _) _ | settlingStop _ _ => Underway r₀ r .stop
  | assigning _ | settlingStart _ => r.cell.phase = .starting
  | asking (.stopForRelease _ o) _ | asking (.release _ o) _ => ∀ e, o ≠ .returned (.error e)
  | _ => True

variable {b : Backend} {r₀ r r' : Recording} {c c' : Caller} {t : Turn}

/-- A look changes nothing, so whatever it leads to can still give the recording back. -/
theorem restores_afterLook {p : Phase} (op : Operation) (h : r = r₀) :
    (afterLook r p op).Restores r₀ r := by
  have hl := looked r p op
  generalize afterLook r p op = c at hl
  cases hl with
  | claim t hp => exact h
  | running hp => exact h
  | @read op u hop hu hp =>
    cases u with
    | answer | dump path | clone andStop state | openStream request => exact h
    | stop | release => cases hu
  | @idle op result hx =>
    cases result with
    | ok y => trivial
    | error e => exact h

theorem restores_ofResult {α : Type} {f : α → Yield} {result : Except Error α}
    (h : ∀ e, result = .error e → r = r₀) : (ofResult f result).Restores r₀ r := by
  cases result with
  | ok a => trivial
  | error e => exact h e rfl

theorem restores_ended {o : Outcome Yield} (h : ∀ e, o ≠ .returned (.error e)) :
    (ended o).Restores r₀ r := by
  cases o with
  | unwound text => trivial
  | returned result =>
    cases result with
    | ok y => trivial
    | error e => exact (h e rfl).elim

/-- If an errand fails, the operation ends with the recording as it was or goes back through the
transition. If it succeeds there is nothing to restore, because no error can come any more. -/
theorem restores_afterErrand {e : Errand} {rest : Exchange Empty (Except Error e.Brings)}
    (h : (asking e rest).Restores r₀ r) (result : Except Error e.Brings) :
    (afterErrand b r e result).1.Restores r₀ r := by
  cases e with
  | start l =>
    cases result with
    | ok id => exact Underway.phase h
    | error e => exact h
  | stop id => exact h
  | dump id path => exact restores_ofResult fun _ _ => h
  | clone id andStop state =>
    cases result with
    | ok clone => trivial
    | error e => exact h
  | openStream id request => exact restores_ofResult fun _ _ => h
  | stopForRelease id o =>
    cases result with
    | ok _ => exact h
    | error e => exact restores_ended h
  | release id o => cases result <;> exact restores_ended h

/-- A step keeps the promise: if the operation is going to return an error, the recording will be as
it was. Others are not considered here; nobody else works on the recording meanwhile. -/
theorem Move.restores (m : Move b r c t r' c') (h : c.Restores r₀ r) : c'.Restores r₀ r' := by
  cases m with
  | close =>
    cases r.cell.phase <;> trivial
  | look hop hp => exact restores_afterLook _ h
  | @claim t hp =>
    obtain rfl := h
    cases t <;> exact ⟨hp, rfl⟩
  | lose hp => exact h
  | @fetch u =>
    cases u with
    | answer => trivial
    | release => exact fun _ => nofun
    | _ => exact h
  | @note e n rest => cases e <;> exact h
  | @answer e request next reply => cases e <;> exact h
  | @cut e _ _ text => cases e <;> trivial
  | report => exact restores_afterErrand h _
  | assign => exact h
  | activate hp => trivial
  | startOvertaken hp => exact (hp h).elim
  | revert hp => exact Underway.back h
  | revertOvertaken hp => exact (hp (Underway.phase h)).elim
  | @settleStop id result hp =>
    refine restores_ofResult ?_
    rintro e rfl
    exact Underway.back h
  | stopOvertaken hp => exact (hp (Underway.phase h)).elim
  | unwindTransition hp | unwindOvertaken hp => trivial
  | reportClone => trivial

end Caller

end RemoteRecorder.Recording
