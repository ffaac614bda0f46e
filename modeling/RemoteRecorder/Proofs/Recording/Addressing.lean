import RemoteRecorder.Proofs.Backend.Addressing
import RemoteRecorder.Proofs.Recording.Holding

/-!
# RemoteRecorder.Proofs.Recording.Addressing

**What a caller's calls are about**, given how its calls have come back so far.

`Caller.Speaks` says it of a caller wherever it stands: its calls go to one object and name the
session of its errand or one that has been brought to it, and so has been any number that it
brings home. Every step keeps that (`Move.speaks`), whatever others do meanwhile.
-/

namespace RemoteRecorder

/-- How a call comes back in a turn, if it does. -/
def Recording.Caller.Turn.contact? (call? : Option Call) : Recording.Caller.Turn → Option Contact
  | .act => none
  | .reply answer => call?.map fun c => (c, .reply answer)
  | .unwind text => call?.map fun c => (c, .unwinding text)

namespace Recording

/-- The session that an errand is about, if it is given one. -/
def Errand.session? : Errand → Option SessionId
  | start _ => none
  | stop id | dump id _ | clone id _ _ | openStream id _ | stopForRelease id _ | release id _ =>
    some id

/-- How the operation ends that an errand is the rest of, if that is settled. -/
def Errand.leads? : Errand → Option (Outcome Yield)
  | stopForRelease _ outcome | release _ outcome => some outcome
  | _ => none

/-- Whether the session number that an errand brings, if it does, has been brought to it. -/
def Errand.Supplied : (e : Errand) → List Contact → Except Error e.Brings → Prop
  | start _ | clone _ _ _ => RemoteRecorder.Supplied
  | _ => fun _ _ => True

variable {b : Backend} {object : ObjectName} {heard : List Contact}

/-- A request says nothing that its errand does not call for: a backend is asked for a session by
its number, and names no other. -/
theorem Errand.speaks (hb : b.Speaks object) (e : Errand) (options : Options)
    (configuration : Configuration) :
    (e.request b options configuration).run.Speaks object e.session? e.Supplied heard := by
  cases e with
  | start l => exact hb.start options configuration heard
  | stop id => exact hb.stop id heard
  | dump id path => exact hb.dump id path heard
  | clone id stop state => exact hb.clone id stop heard
  | openStream id request => exact hb.openStream id request heard
  | stopForRelease id outcome => exact hb.stop id heard
  | release id outcome => exact hb.close id heard

namespace Caller

/-- Whether what a caller says and brings home is in order, after certain calls. -/
def Speaks (object : ObjectName) (heard : List Contact) : Caller → Prop
  | asking e rest => rest.Speaks object e.session? e.Supplied heard ∧ ∀ outcome,
    e.leads? = some outcome → made outcome = []
  | assigning id | settlingStart id | reportingClone id _ => id ∈ broughtBy heard
  | ended outcome => ∀ clone ∈ made outcome, clone.id ∈ broughtBy heard
  | _ => True

variable {r r' : Recording} {c c' : Caller} {t : Turn}

theorem speaks_ended {outcome : Outcome Yield} (h : made outcome = []) :
    (ended outcome).Speaks object heard := by
  intro clone hc
  rw [h] at hc
  cases hc

theorem speaks_ask (hb : b.Speaks object) {e : Errand} (h : e.leads? = none) :
    (ask b r e).Speaks object heard :=
  ⟨e.speaks hb _ _, fun _ ho => nomatch h.symm.trans ho⟩

theorem speaks_ask_last (hb : b.Speaks object) {e : Errand} {outcome : Outcome Yield}
    (h : e.leads? = some outcome) (ho : made outcome = []) : (ask b r e).Speaks object heard :=
  ⟨e.speaks hb _ _, fun _ he => Option.some.inj (h.symm.trans he) ▸ ho⟩

theorem speaks_afterLook (r : Recording) (p : Phase) (op : Operation) :
    (afterLook r p op).Speaks object heard := by
  have h := looked r p op
  generalize afterLook r p op = c at h
  cases h with
  | @idle op result hx =>
    refine speaks_ended ?_
    rcases hx with rfl | ⟨e, rfl⟩ <;> rfl
  | _ => trivial

/-- A clone that has been made has a number that a reply has brought. -/
theorem speaks_afterErrand (hb : b.Speaks object) {e : Errand} {result : Except Error e.Brings}
    (h : e.Supplied heard result) (ho : ∀ outcome, e.leads? = some outcome → made outcome = []) :
    (afterErrand b r e result).1.Speaks object heard := by
  cases e with
  | start l =>
    cases result with
    | ok id => exact h id rfl
    | error e => trivial
  | stop id => trivial
  | dump id path => cases result <;> exact speaks_ended rfl
  | clone id stop state =>
    cases result with
    | ok clone => exact h clone rfl
    | error e => exact speaks_ended rfl
  | openStream id request => cases result <;> exact speaks_ended rfl
  | stopForRelease id outcome =>
    cases result with
    | ok _ => exact speaks_ask_last hb rfl (ho outcome rfl)
    | error e => exact speaks_ended (ho outcome rfl)
  | release id outcome => cases result <;> exact speaks_ended (ho outcome rfl)

theorem speaks_use (hb : b.Speaks object) (id : SessionId) (u : Use) :
    (use b r id u).Speaks object heard := by
  cases u with
  | answer => exact speaks_ended rfl
  | release => exact speaks_ask_last hb rfl rfl
  | _ => exact speaks_ask hb rfl

/-- A step that hears nothing puts nothing new into the mouth of a caller. -/
theorem Move.speaks_act (hb : b.Speaks object) (m : Move b r c .act r' c')
    (h : c.Speaks object heard) : c'.Speaks object heard := by
  cases m with
  | close =>
    cases r.cell.phase with
    | new | stopped | closed | starting | stopping => exact speaks_ended rfl
    | active => trivial
  | look hop hp => exact speaks_afterLook ..
  | @claim t hp =>
    cases t with
    | start l => exact speaks_ask hb rfl
    | stop => trivial
  | fetch => exact speaks_use hb ..
  | note => exact h
  | report => exact speaks_afterErrand hb h.1 h.2
  | assign => exact h
  | activate hp => exact speaks_ended rfl
  | revert hp | revertOvertaken hp => exact speaks_ended rfl
  | unwindTransition hp | unwindOvertaken hp => exact speaks_ended rfl
  | @settleStop id result hp => cases result <;> exact speaks_ended rfl
  | startOvertaken hp => exact speaks_ask_last hb rfl rfl
  | @stopOvertaken id result hp => exact speaks_ask_last hb rfl (by cases result <;> rfl)
  | lose hp => trivial
  | @reportClone clone state =>
    intro copied hc
    obtain rfl := List.mem_singleton.1 hc
    exact h

/-- A step keeps in order what a caller says, and adds what it hears in the step. -/
theorem Move.speaks (hb : b.Speaks object) (m : Move b r c t r' c') (h : c.Speaks object heard) :
    c'.Speaks object (heard ++ (t.contact? c.pending?).toList) := by
  cases t with
  | act =>
    rw [Turn.contact?, Option.toList_none, List.append_nil]
    exact m.speaks_act hb h
  | reply answer =>
    cases m with
    | answer => exact ⟨h.1.2 answer, h.2⟩
  | unwind text =>
    cases m with
    | @cut e _ _ text =>
      cases e with
      | start l => trivial
      | stop id => trivial
      | _ => exact speaks_ended rfl

/-- The call that a caller waits for is about its errand. -/
theorem Speaks.isAbout {request : Call} (h : c.Speaks object heard)
    (hp : c.pending? = some request) :
    ∃ e rest, c = asking e rest ∧ request.IsAbout object e.session? heard := by
  obtain ⟨e, next, rfl⟩ := pending?_eq_some_iff.1 hp
  exact ⟨e, _, rfl, h.1.1⟩

end Caller

end Recording

end RemoteRecorder
