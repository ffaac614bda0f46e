import RemoteRecorder.Proofs.Recording.Holding

/-!
# RemoteRecorder.Proofs.Recording.Service

**What a caller is at work for**: wherever it stands, it pursues the operation with which it began.

* The `Terms` of a recording are all of it but its cell. No step changes them (`Move.terms_eq`).
* `Caller.Pursues` ties what a caller is about to do, and what it asks of the backend, to its
  operation. A stream is asked for with the block size of the terms, if none is given. So it says
  more than in which operations a caller can stand where it does (`Caller.Serves`).
* A clone that succeeds, and no other operation, ends with a recording, which is on the terms of
  its source (`Operation.Ends`).
-/

namespace RemoteRecorder.Recording

/-- What does not change in the life of a recording. -/
structure Terms where
  options : Options
  configuration : Configuration
  blockSize : Int64
  deriving DecidableEq

/-- The terms of a recording. -/
def terms (r : Recording) : Terms := ⟨r.options, r.configuration, r.blockSize⟩

variable {terms : Terms} {op : Operation}

/-- Whether an operation on a recording with certain terms may end in a certain way. -/
def Operation.Ends (terms : Terms) (op : Operation) : Outcome Yield → Prop
  | .returned (.ok (.cloned made)) => (∃ andStop, op = .clone andStop) ∧ made.terms = terms
  | .returned (.ok _) => ∀ andStop, op ≠ .clone andStop
  | .returned (.error _) | .unwound _ => True

/-- Whether a stream is asked for as an operation says. -/
def StreamRequest.Pursues (terms : Terms) (op : Operation) (request : StreamRequest) : Prop :=
  ∃ since till size, op = .openStream since till size ∧
    request = ⟨since, till, size.getD terms.blockSize⟩

/-- Whether the session number is needed for an operation. -/
def Use.Pursues (terms : Terms) (op : Operation) : Use → Prop
  | answer => op = .start
  | stop => op = .stop
  | dump path => op = .dump path
  | clone andStop _ => op = .clone andStop
  | openStream request => StreamRequest.Pursues terms op request
  | release => op = .close

/-- Whether an errand is done for an operation. -/
def Errand.Pursues (terms : Terms) (op : Operation) : Errand → Prop
  | start _ => op = .start
  | stop _ => op = .stop
  | dump _ path => op = .dump path
  | clone _ andStop _ => op = .clone andStop
  | openStream _ request => StreamRequest.Pursues terms op request
  | stopForRelease _ outcome => (op = .start ∨ op = .close) ∧ op.Ends terms outcome
  | release _ outcome => op.Ends terms outcome

namespace Caller

/-- Whether a caller is at work for an operation on a recording with certain terms. -/
def Pursues (terms : Terms) (op : Operation) : Caller → Prop
  | begun op' => op' = op
  | claiming t | unwinding t _ => t.operation = op
  | fetching u => u.Pursues terms op
  | asking e _ => e.Pursues terms op
  | assigning _ | settlingStart _ | revertingStart _ _ => op = .start
  | settlingStop _ _ => op = .stop
  | reportingClone _ _ => ∃ andStop, op = .clone andStop
  | ended outcome => op.Ends terms outcome

variable {b : Backend} {r r' : Recording} {c c' : Caller} {t : Turn}

/-- After a look at the phase the operation is still the same, and its arguments have gone along
with it. -/
theorem pursues_afterLook (r : Recording) (p : Phase) (op : Operation) :
    (afterLook r p op).Pursues r.terms op := by
  cases op with
  | start =>
    cases p with
    | closed => trivial
    | _ => rfl
  | stop =>
    cases p with
    | active => rfl
    | closed => trivial
    | _ => exact fun _ => Operation.noConfusion
  | dump path =>
    by_cases hp : p.state.hasRemoteData = true
    · rw [afterLook, if_pos hp]
      rfl
    · rw [afterLook, if_neg hp]
      trivial
  | clone andStop =>
    by_cases hp : p.state.hasRemoteData = true
    · rw [afterLook, if_pos hp]
      rfl
    · rw [afterLook, if_neg hp]
      trivial
  | openStream since till size =>
    by_cases hp : p = .stopped
    · rw [afterLook, if_pos hp]
      exact ⟨since, till, size, rfl, rfl⟩
    · rw [afterLook, if_neg hp]
      trivial
  | close => exact fun _ => Operation.noConfusion

theorem ends_finished (h : op = .close) : op.Ends terms finished := by
  subst h
  exact fun _ => Operation.noConfusion

theorem pursues_use {u : Use} (h : u.Pursues terms op) (id : SessionId) :
    (use b r id u).Pursues terms op := by
  cases u with
  | answer =>
    obtain rfl := h
    exact fun _ => Operation.noConfusion
  | release => exact ⟨.inr h, ends_finished h⟩
  | _ => exact h

theorem pursues_ofResult {α : Type} {f : α → Yield} {result : Except Error α}
    (h : ∀ a, op.Ends terms (.returned (.ok (f a)))) : (ofResult f result).Pursues terms op := by
  cases result with
  | ok a => exact h a
  | error e => trivial

/-- What follows an errand is done for the same operation. A clone that has been made is on the
terms of its source. -/
theorem pursues_afterErrand {e : Errand} (h : e.Pursues terms op)
    (result : Except Error e.Brings) : (afterErrand b r e result).1.Pursues terms op := by
  cases e with
  | start l => cases result <;> exact h
  | stop id => exact h
  | dump id path =>
    obtain rfl := h
    exact pursues_ofResult fun _ _ => Operation.noConfusion
  | clone id andStop state =>
    cases result with
    | ok clone => exact ⟨andStop, h⟩
    | error e => trivial
  | openStream id request =>
    obtain ⟨since, till, size, rfl, -⟩ := h
    exact pursues_ofResult fun _ _ => Operation.noConfusion
  | stopForRelease id outcome => cases result <;> exact h.2
  | release id outcome => cases result <;> exact h

/-- A step is taken for the same operation as the step before. -/
theorem Move.pursues (m : Move b r c t r' c') (h : c.Pursues r.terms op) :
    c'.Pursues r.terms op := by
  cases m with
  | close =>
    cases r.cell.phase with
    | active => exact Eq.symm h
    | _ => exact @ends_finished r.terms op (Eq.symm h)
  | look hop hp =>
    obtain rfl := h
    exact pursues_afterLook ..
  | @claim t hp => cases t <;> exact Eq.symm h
  | lose hp => exact h
  | fetch => exact pursues_use h _
  | note => exact h
  | answer => exact h
  | @cut e _ _ text =>
    cases e with
    | start l => exact Eq.symm h
    | stop id => exact Eq.symm h
    | _ => trivial
  | report => exact pursues_afterErrand h _
  | assign => exact h
  | activate hp =>
    obtain rfl := h
    exact fun _ => Operation.noConfusion
  | startOvertaken hp => exact ⟨.inl h, trivial⟩
  | settleStop hp =>
    obtain rfl := h
    exact pursues_ofResult fun _ _ => Operation.noConfusion
  | @stopOvertaken id result hp =>
    obtain rfl := h
    cases result with
    | ok _ => exact fun _ => Operation.noConfusion
    | error e => trivial
  | reportClone => exact ⟨h, rfl⟩
  | _ => trivial

/-- A step changes nothing of a recording but its cell. -/
theorem Move.terms_eq (m : Move b r c t r' c') : r'.terms = r.terms := by
  cases m <;> rfl

end Caller

end RemoteRecorder.Recording
