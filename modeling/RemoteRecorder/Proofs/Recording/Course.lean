import RemoteRecorder.Proofs.Backend.Course
import RemoteRecorder.Proofs.Recording.Verdict

/-!
# RemoteRecorder.Proofs.Recording.Course

**The course of a start of a recording**, whatever others do meanwhile, on a target with a recorder
object.

* `Launched` says that a session has been started. What is called after that only clears up, since
  the recording has been closed meanwhile. `CutOff` says that a call of the start has unwound it.
* `Caller.OnCourse` says of a caller, wherever it stands, how far its start has come. Every step
  keeps that (`Move.onCourse`). So in the end it has taken one of four courses (`StartCourse`).
-/

namespace RemoteRecorder.Recording

open Backend.Structured (StartCall Started start_follows)

/-- Whether a session has been started, and then calls have only cleared up. -/
def Launched (object : ObjectName) (terms : Terms) (heard : List Contact) : Prop :=
  ∃ contacts later id, Started object terms.options terms.configuration contacts (.ok id) ∧
    (∀ x ∈ later, Operation.start.clearsUp x.1 = true) ∧ heard = contacts ++ later

/-- Whether a start has been unwound by one of its calls. -/
def CutOff (object : ObjectName) (terms : Terms) (heard : List Contact) : Prop :=
  ∃ past c text, StartCall object terms.options terms.configuration past c ∧
    heard = past ++ [(c, .unwinding text)]

/-- The course that a start has taken, and how it has ended. -/
inductive StartCourse (object : ObjectName) (terms : Terms) : List Contact → Outcome Yield → Prop
  /-- There was nothing to be called. -/
  | quiet {o} : StartCourse object terms [] o
  | failed {heard e}
      (h : Started object terms.options terms.configuration heard (.error e)) :
      StartCourse object terms heard (.returned (.error e))
  | launched {heard o} (h : Launched object terms heard) : StartCourse object terms heard o
  | cut {heard text} (h : CutOff object terms heard) :
      StartCourse object terms heard (.unwound text)

variable {object : ObjectName} {terms : Terms} {heard : List Contact}

/-- A start that has just succeeded has cleared nothing up yet. -/
theorem launched_of_started {id : SessionId}
    (h : Started object terms.options terms.configuration heard (.ok id)) :
    Launched object terms heard :=
  ⟨heard, [], id, h, by simp, (List.append_nil heard).symm⟩

theorem Launched.concat {call : Call} (h : Launched object terms heard)
    (hc : Operation.start.clearsUp call = true) (back : Comeback) :
    Launched object terms (heard ++ [(call, back)]) := by
  obtain ⟨contacts, later, id, hs, hl, rfl⟩ := h
  refine ⟨contacts, later ++ [(call, back)], id, hs, ?_, List.append_assoc ..⟩
  exact List.forall_mem_append.2 ⟨hl, by simpa using hc⟩

theorem not_pursues_start {request : StreamRequest} :
    ¬ StreamRequest.Pursues terms .start request := by
  rintro ⟨since, till, size, he, -⟩
  cases he

namespace Caller

/-- How far a caller has come with a start. -/
def OnCourse (object : ObjectName) (terms : Terms) (heard : List Contact) : Caller → Prop
  | begun _ | claiming _ | fetching _ => heard = []
  | asking (.start _) rest =>
    Backend.Structured.OnCourse object terms.options terms.configuration heard rest
  | assigning id | settlingStart id =>
    Started object terms.options terms.configuration heard (.ok id)
  | revertingStart _ e => Started object terms.options terms.configuration heard (.error e)
  | asking (.stopForRelease _ _) _ | asking (.release _ _) _ => Launched object terms heard
  | unwinding _ _ => CutOff object terms heard
  | ended o => StartCourse object terms heard o
  | _ => True

variable {r r' : Recording} {c c' : Caller} {t : Turn}

theorem onCourse_afterLook (r : Recording) (p : Phase) :
    (afterLook r p .start).OnCourse object terms [] := by
  cases p with
  | closed => exact .quiet
  | _ => rfl

/-- When its request is over a start has succeeded or failed, and the calls tell which. -/
theorem onCourse_afterErrand {b : Backend} {e : Errand} {result : Except Error e.Brings}
    (hs : e.Pursues r.terms .start) (h : (asking e (.done result)).OnCourse object terms heard) :
    (afterErrand b r e result).1.OnCourse object terms heard := by
  cases e with
  | start l => cases result <;> exact h
  | stopForRelease id o =>
    cases result with
    | ok _ => exact h
    | error e => exact .launched h
  | release id o => cases result <;> exact .launched h
  | openStream id request => exact (not_pursues_start hs).elim
  | _ => cases hs

/-- A call of a start comes back. -/
theorem onCourse_answer {e : Errand} {request : Call}
    {next : Reply → Exchange Empty (Except Error e.Brings)} (hs : e.Pursues r.terms .start)
    (told : e.Told .structured .start heard (.call request next))
    (h : (asking e (.call request next)).OnCourse object terms heard) (reply : Reply) :
    (asking e (next reply)).OnCourse object terms (heard ++ [(request, .reply reply)]) := by
  cases e with
  | start l => exact h.2 reply
  | stopForRelease id o | release id o => exact h.concat told.1.1 _
  | openStream id request => exact (not_pursues_start hs).elim
  | _ => cases hs

/-- A call of a start unwinds it. -/
theorem onCourse_afterUnwinding {e : Errand} {request : Call}
    {next : Reply → Exchange Empty (Except Error e.Brings)} (hs : e.Pursues r.terms .start)
    (told : e.Told .structured .start heard (.call request next))
    (h : (asking e (.call request next)).OnCourse object terms heard) (text : String) :
    (afterUnwinding text e).OnCourse object terms (heard ++ [(request, .unwinding text)]) := by
  cases e with
  | start l => exact ⟨heard, request, text, h.1, rfl⟩
  | stopForRelease id o | release id o => exact .launched (h.concat told.1.1 _)
  | openStream id request => exact (not_pursues_start hs).elim
  | _ => cases hs

/-- A step that hears nothing keeps the start where it is on its course. After a success that has
been overtaken the calls that follow only clear up. -/
theorem Move.onCourse_act (m : Move (.structured object) r c .act r' c')
    (hs : c.Pursues r.terms .start) (h : c.OnCourse object r.terms heard) :
    c'.OnCourse object r.terms heard := by
  cases m with
  | close => cases hs
  | @look op hop hp =>
    obtain rfl : op = .start := hs
    obtain rfl : heard = [] := h
    exact onCourse_afterLook r _
  | @claim t hp =>
    obtain rfl : heard = [] := h
    cases t with
    | start l => exact start_follows object r.options r.configuration
    | stop => cases hs
  | lose hp => exact h
  | @fetch u =>
    obtain rfl : heard = [] := h
    cases u with
    | answer => exact .quiet
    | openStream request => exact (not_pursues_start hs).elim
    | _ => cases hs
  | @note e n rest => cases e <;> exact h
  | report => exact onCourse_afterErrand hs h
  | assign => exact h
  | activate hp => exact .launched (launched_of_started h)
  | startOvertaken hp => exact launched_of_started h
  | revert hp | revertOvertaken hp => exact .failed h
  | settleStop hp | stopOvertaken hp => cases hs
  | unwindTransition hp | unwindOvertaken hp => exact .cut h
  | reportClone =>
    obtain ⟨andStop, he⟩ := hs
    cases he

/-- A step keeps a start on its course. -/
theorem Move.onCourse (m : Move (.structured object) r c t r' c') (hs : c.Pursues r.terms .start)
    (told : c.Told .structured .start heard) (h : c.OnCourse object r.terms heard) :
    c'.OnCourse object r.terms (heard ++ (t.contact? c.pending?).toList) := by
  cases t with
  | act =>
    rw [Turn.contact?, Option.toList_none, List.append_nil]
    exact m.onCourse_act hs h
  | reply answer =>
    cases m with
    | answer => exact onCourse_answer hs told h answer
  | unwind text =>
    cases m with
    | cut text => exact onCourse_afterUnwinding hs told h text

end Caller

end RemoteRecorder.Recording
