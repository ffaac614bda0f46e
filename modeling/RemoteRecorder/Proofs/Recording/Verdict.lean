import RemoteRecorder.Proofs.Backend.Verdict
import RemoteRecorder.Proofs.Recording.Addressing
import RemoteRecorder.Proofs.Recording.Service

/-!
# RemoteRecorder.Proofs.Recording.Verdict

**What the error of an operation says of its calls**, whatever others do meanwhile.

`Caller.Told` says of a caller, wherever it stands, what it knows of the calls so far. Before its
errand it has heard nothing. Once the errand is over, its result is what the first failed call makes
of it, and what is still to be called only clears up. Every step keeps that (`Move.told`).
-/

namespace RemoteRecorder.Recording

variable {generation : Generation} {op : Operation} {heard : List Contact}

/-- Whether the end of an operation is settled before it clears up: it is what the first failed call
makes of it, or no call has failed and the recording is in the wrong state. -/
def Outcome.Settled (clearsUp : Call → Bool) (heard : List Contact) : Outcome Yield → Prop
  | .returned result => Blames clearsUp heard result ∨
    decider clearsUp heard = none ∧
      ∃ actual expected, result = .error (.invalidState actual expected)
  | .unwound _ => True

theorem settled_refused {actual : State} {expected : List State}
    (h : decider op.clearsUp heard = none) :
    Outcome.Settled op.clearsUp heard (refused actual expected) :=
  .inr ⟨h, actual, expected, rfl⟩

/-- What only clears up changes nothing about a settled end. -/
theorem Outcome.Settled.concat {o : Outcome Yield} {c : Call} (h : Settled op.clearsUp heard o)
    (hc : op.clearsUp c = true) (back : Comeback) :
    Settled op.clearsUp (heard ++ [(c, back)]) o := by
  cases o with
  | returned result =>
    unfold Settled Blames at h ⊢
    rw [decider_concat_of_clearsUp hc]
    exact h
  | unwound text => trivial

/-- What is to be said of the error with which an operation ends. -/
def Outcome.Judged (generation : Generation) (clearsUp : Call → Bool) (heard : List Contact) :
    Outcome Yield → Prop
  | .returned result => Verdict generation clearsUp heard (errorOf? result)
  | .unwound _ => True

theorem Outcome.Settled.judged {o : Outcome Yield} {clearsUp : Call → Bool}
    (h : Settled clearsUp heard o) : Judged generation clearsUp heard o := by
  cases o with
  | returned result =>
    rcases h with h | ⟨hd, actual, expected, rfl⟩
    · exact .decided h
    · exact .refused hd
  | unwound text => trivial

/-- What is known of an errand under way. What it results in is accounted for by its calls, or its
calls only clear up after an end that is settled. -/
def Errand.Told (generation : Generation) (op : Operation) (heard : List Contact) :
    (e : Errand) → Exchange Empty (Except Error e.Brings) → Prop
  | stop _, rest => rest.Results (Blames op.clearsUp) heard
  | stopForRelease _ o, rest | release _ o, rest =>
    rest.AllCalls (op.clearsUp · = true) ∧ Outcome.Settled op.clearsUp heard o
  | start _, rest | clone _ _ _, rest | dump _ _, rest | openStream _ _, rest =>
    rest.Results (fun heard x => Verdict generation op.clearsUp heard (errorOf? x)) heard

namespace Caller

/-- What a caller knows of the calls so far. -/
def Told (generation : Generation) (op : Operation) (heard : List Contact) : Caller → Prop
  | begun _ | claiming _ | fetching _ => heard = []
  | asking e rest => e.Told generation op heard rest
  | assigning _ | settlingStart _ | reportingClone _ _ => decider op.clearsUp heard = none
  | revertingStart _ e => Verdict generation op.clearsUp heard (some e)
  | settlingStop _ result => Blames op.clearsUp heard result
  | unwinding _ _ => True
  | ended o => Outcome.Judged generation op.clearsUp heard o

variable {b : Backend} {r r' : Recording} {c c' : Caller} {t : Turn} {terms : Terms}

theorem told_refused {actual : State} {expected : List State}
    (h : decider op.clearsUp heard = none) :
    (ended (refused actual expected)).Told generation op heard :=
  .refused h

theorem told_ok {y : Yield} (h : decider op.clearsUp heard = none) :
    (ended (.returned (.ok y))).Told generation op heard :=
  verdict_none h

/-- On seeing a phase an operation has made no call yet. If it ends here the recording is to blame,
and not a call. -/
theorem told_afterLook (r : Recording) (p : Phase) :
    (afterLook r p op).Told generation op [] := by
  cases op with
  | start =>
    cases p with
    | closed => exact told_refused rfl
    | _ => rfl
  | stop =>
    cases p with
    | active => rfl
    | closed => exact told_refused rfl
    | _ => exact told_ok rfl
  | dump path =>
    by_cases hp : p.state.hasRemoteData = true
    · rw [afterLook, if_pos hp]
      rfl
    · rw [afterLook, if_neg hp]
      exact told_refused rfl
  | clone andStop =>
    by_cases hp : p.state.hasRemoteData = true
    · rw [afterLook, if_pos hp]
      rfl
    · rw [afterLook, if_neg hp]
      exact told_refused rfl
  | openStream since till size =>
    by_cases hp : p = .stopped
    · rw [afterLook, if_pos hp]
      rfl
    · rw [afterLook, if_neg hp]
      exact told_refused rfl
  | close => exact told_ok rfl

/-- From here on an operation only clears up, so its end is settled whatever the calls come to. -/
theorem told_stopForRelease (hb : b.Accountable generation) {id : SessionId} {o : Outcome Yield}
    (hop : op = .start ∨ op = .close) (h : Outcome.Settled op.clearsUp heard o) :
    (ask b r (.stopForRelease id o)).Told generation op heard := by
  refine ⟨hb.stopping id op ?_, h⟩
  rcases hop with rfl | rfl <;> exact Operation.noConfusion

theorem told_release (hb : b.Accountable generation) {id : SessionId} {o : Outcome Yield}
    (h : Outcome.Settled op.clearsUp heard o) :
    (ask b r (.release id o)).Told generation op heard :=
  ⟨hb.releasing id op, h⟩

theorem told_use (hb : b.Accountable generation) {u : Use} (h : u.Pursues terms op)
    (id : SessionId) : (use b r id u).Told generation op [] := by
  cases u with
  | answer => exact told_ok rfl
  | stop =>
    obtain rfl := h
    exact hb.stop id
  | dump path =>
    obtain rfl := h
    exact hb.dump id path
  | clone andStop state =>
    obtain rfl := h
    exact hb.clone id andStop
  | openStream request =>
    obtain ⟨since, till, size, rfl, -⟩ := h
    exact hb.openStream id request since till size
  | release => exact told_stopForRelease hb (.inr h) (.inl (blames_ok rfl))

theorem told_ofResult {α : Type} {f : α → Yield} {result : Except Error α}
    (h : Verdict generation op.clearsUp heard (errorOf? result)) :
    (ofResult f result).Told generation op heard := by
  cases result <;> exact h

/-- The result of an errand is what its calls have made of it. Either the operation ends with it, or
it goes on to clear up, and the end is settled. -/
theorem told_afterErrand (hb : b.Accountable generation) {e : Errand}
    {result : Except Error e.Brings} (h : e.Told generation op heard (.done result))
    (hs : e.Pursues terms op) : (afterErrand b r e result).1.Told generation op heard := by
  cases e with
  | start l =>
    cases result with
    | ok id => exact decider_of_verdict_none h
    | error e => exact h
  | stop id => exact h
  | dump id path => exact told_ofResult h
  | clone id andStop state =>
    cases result with
    | ok clone => exact decider_of_verdict_none h
    | error e => exact h
  | openStream id request => exact told_ofResult h
  | stopForRelease id o =>
    cases result with
    | ok _ => exact told_release hb h.2
    | error e => exact h.2.judged
  | release id o => cases result <;> exact h.2.judged

/-- A call that comes back is added to what has been heard. -/
theorem told_answer {e : Errand} {request : Call}
    {next : Reply → Exchange Empty (Except Error e.Brings)}
    (h : e.Told generation op heard (.call request next)) (reply : Reply) :
    e.Told generation op (heard ++ [(request, .reply reply)]) (next reply) := by
  cases e with
  | stopForRelease id o | release id o => exact ⟨h.1.2 reply, h.2.concat h.1.1 _⟩
  | _ => exact h.2 reply

/-- A step that hears nothing leaves what is known as it is. The cases go through the places at
which a caller may stand. -/
theorem Move.told_act (hb : b.Accountable generation) (m : Move b r c .act r' c')
    (hs : c.Pursues r.terms op) (h : c.Told generation op heard) :
    c'.Told generation op heard := by
  cases m with
  | close =>
    obtain rfl := h
    cases r.cell.phase with
    | active => rfl
    | _ => exact told_ok rfl
  | look hop hp =>
    obtain rfl := h
    obtain rfl := hs
    exact told_afterLook ..
  | @claim t hp =>
    obtain rfl := h
    cases t with
    | start l =>
      obtain rfl := hs
      exact hb.start _ _
    | stop => rfl
  | lose hp => exact h
  | fetch =>
    obtain rfl := h
    exact told_use hb hs _
  | @note e n rest => cases e <;> exact h
  | report => exact told_afterErrand hb h hs
  | assign => exact h
  | activate hp => exact told_ok h
  | startOvertaken hp => exact told_stopForRelease hb (.inl hs) (settled_refused h)
  | revert hp | revertOvertaken hp => exact h
  | settleStop hp => exact told_ofResult (.decided h)
  | @stopOvertaken id result hp =>
    refine told_release hb (.inl (blames_congr ?_ h))
    cases result <;> rfl
  | unwindTransition hp | unwindOvertaken hp => trivial
  | reportClone => exact told_ok h

/-- A step adds to what is known what it hears. -/
theorem Move.told (hb : b.Accountable generation) (m : Move b r c t r' c')
    (hs : c.Pursues r.terms op) (h : c.Told generation op heard) :
    c'.Told generation op (heard ++ (t.contact? c.pending?).toList) := by
  cases t with
  | act =>
    rw [Turn.contact?, Option.toList_none, List.append_nil]
    exact m.told_act hb hs h
  | reply answer =>
    cases m with
    | answer => exact told_answer h answer
  | unwind text =>
    cases m with
    | @cut e _ _ text => cases e <;> trivial

end Caller

end RemoteRecorder.Recording
