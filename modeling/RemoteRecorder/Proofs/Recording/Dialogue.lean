import RemoteRecorder.Proofs.Recording.Move

/-!
# RemoteRecorder.Proofs.Recording.Dialogue

**The dialogue of a caller with its backend**: what it asks, and how that ends.

* An errand says what a request is for; a `Demand` is the request alone, as the backend
  gets it. A `Report` is a demand together with its ending.
* `Caller.remarks` reads off the caller before and after a step what was said in it.
* A `Walk` is a run of one caller while others do to the recording whatever they are
  relied on to do. With nobody else it is the run of an operation on its own.
-/

namespace RemoteRecorder.Recording

/-! ## Demands and reports

What a recording is tested by is the talk with its backend. The purpose of an errand is left out
of it: the same request for a stop may come from a stop or from a close, and nobody outside can
tell. -/

/-- A request to the backend, whatever it is for. -/
inductive Demand where
  | start
  | stop (id : SessionId)
  | dump (id : SessionId) (path : String)
  | clone (id : SessionId) (stop : Bool)
  | openStream (id : SessionId) (request : StreamRequest)
  | close (id : SessionId)
  deriving DecidableEq

/-- A request to the backend and its ending. -/
inductive Report where
  | start (ending : Outcome SessionId)
  | stop (id : SessionId) (ending : Outcome Unit)
  | dump (id : SessionId) (path : String) (ending : Outcome Unit)
  | clone (id : SessionId) (stop : Bool) (ending : Outcome SessionId)
  | openStream (id : SessionId) (request : StreamRequest) (ending : Outcome Int64)
  | close (id : SessionId) (ending : Outcome Unit)

/-- One thing said between a caller and its backend. -/
inductive Remark where
  /-- A request begins. -/
  | asked (demand : Demand)
  /-- A request ends. -/
  | told (report : Report)

namespace Report

/-- The request alone. -/
def demand : Report → Demand
  | start _ => .start
  | stop id _ => .stop id
  | dump id path _ => .dump id path
  | clone id andStop _ => .clone id andStop
  | openStream id request _ => .openStream id request
  | close id _ => .close id

/-- What is said of a request from its beginning to its end. -/
def talk (report : Report) : List Remark := [.asked report.demand, .told report]

end Report

/-- The number that a remark brings of a session that has been started. -/
def Remark.started? : Remark → Option SessionId
  | told (.start (.returned (.ok id))) => some id
  | _ => none

namespace Errand

/-- The request of an errand, without its purpose. -/
def demand : Errand → Demand
  | start _ => .start
  | stop id => .stop id
  | dump id path => .dump id path
  | clone id andStop _ => .clone id andStop
  | openStream id request => .openStream id request
  | stopForRelease id _ => .stop id
  | release id _ => .close id

/-- The report of an errand that has ended. -/
def report : (e : Errand) → Outcome e.Brings → Report
  | start _, ending => .start ending
  | stop id, ending => .stop id ending
  | dump id path, ending => .dump id path ending
  | clone id andStop _, ending => .clone id andStop ending
  | openStream id request, ending => .openStream id request ending
  | stopForRelease id _, ending => .stop id ending
  | release id _, ending => .close id ending

@[simp] theorem demand_report (e : Errand) (ending : Outcome e.Brings) :
    (e.report ending).demand = e.demand := by
  cases e <;> rfl

end Errand

/-- That no remote call has unwound a request. -/
def Uncut (l : List Remark) : Prop :=
  ∀ (e : Errand) (text : String), Remark.told (e.report (.unwound text)) ∉ l

theorem uncut_append {l₁ l₂ : List Remark} : Uncut (l₁ ++ l₂) ↔ Uncut l₁ ∧ Uncut l₂ := by
  simp only [Uncut, List.mem_append, not_or, forall_and]

/-! ## What is said in a step

Remarks are not written down by the callers. They can be read off the state of a caller before and
after a step, so the code need not carry a log for the sake of the theorems. -/

namespace Caller

/-- What a caller asks on getting somewhere. -/
def asks : Caller → List Remark
  | asking e _ => [.asked e.demand]
  | _ => []

/-- What has cut a caller off. -/
def cutBy? : Caller → Option String
  | unwinding _ text => some text
  | ended (.unwound text) => some text
  | _ => none

/-- What is said in a step, read off the caller before and after it. -/
def remarks : Caller → Caller → List Remark
  | asking _ (.note _ _), _ => []
  | asking e (.call _ _), after =>
    after.cutBy?.toList.map fun text => .told (e.report (.unwound text))
  | asking e (.done result), after => .told (e.report (.returned result)) :: after.asks
  | _, after => after.asks

/-- Nothing is asked on seeing a phase. -/
@[simp] theorem asks_afterLook (r : Recording) (p : Phase) (op : Operation) :
    (afterLook r p op).asks = [] := by
  have h := looked r p op
  generalize afterLook r p op = c at h
  cases h <;> rfl

/-- Nothing is asked on closing: who has to release the session reads its number first. -/
@[simp] theorem asks_afterClose (p : Phase) : (afterClose p).1.asks = [] := by
  cases p <;> rfl

@[simp] theorem cutBy?_afterUnwinding (text : String) (e : Errand) :
    (afterUnwinding text e).cutBy? = some text := by
  cases e <;> rfl

end Caller

/-! ## Runs of one caller

A walk leaves open what others do between the steps. So the same lemmas serve for an operation on
its own, where the others do nothing, and for one on a closed recording, where they cannot do
much. -/

/-- A run of one caller, and what it says in it. Between its steps others change the
recording, but only as `others` lets them. -/
inductive Walk (b : Backend) (others : Recording → Recording → Prop) :
    Recording → Caller → List Remark → Recording → Caller → Prop where
  | here {r c} : Walk b others r c [] r c
  | wait {r r₁ c l r' c'} (h : others r r₁) (w : Walk b others r₁ c l r' c') :
      Walk b others r c l r' c'
  | take {r c t r₁ c₁ l r' c'} (h : c.take? b r t = some (r₁, c₁))
      (w : Walk b others r₁ c₁ l r' c') : Walk b others r c (c.remarks c₁ ++ l) r' c'

/-- A run of a caller whom nobody disturbs. -/
abbrev Solo (b : Backend) := Walk b fun _ _ => False

end RemoteRecorder.Recording
