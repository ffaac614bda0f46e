import Mathlib.Logic.Function.Basic
import RemoteRecorder.Proofs.Backend.Supply
import RemoteRecorder.Proofs.Recording.Holding
import RemoteRecorder.Proofs.Recording.Number

/-!
# RemoteRecorder.Proofs.Recording.Provenance

**Every session number has been brought by a reply**: one of the target's replies has named the
number of each recording that has one, of each clone, and each number that a start answers. A new
recording has none.

* `Sourced` is what a recording and its callers keep, whoever takes a step and whatever the
  target replies (`Sourced.move`).
* Beside the numbers that callers rely on (`Caller.Backed`) there are two more things to keep:
  who starts the first session of a recording finds it without a number (`Caller.Unnumbered`),
  and the requests under way make no number up (`Caller.Brings`).
-/

namespace RemoteRecorder

theorem State.hasRemoteData_iff {s : State} :
    s.hasRemoteData = true ↔ Phase.ofState s = .active ∨ Phase.ofState s = .stopped := by
  cases s <;> decide

namespace Recording

variable {P Q : SessionId → Prop}

/-- Whether a recording is a clone with a session whose number has a property. -/
def IsCopy (P : SessionId → Prop) (r : Recording) : Prop :=
  (r.cell.phase = .active ∨ r.cell.phase = .stopped) ∧ P r.cell.id

namespace Caller

/-- Whether a caller who starts the first session of a recording finds it without a number. -/
def Unnumbered (id : SessionId) : Caller → Prop
  | asking (.start .first) _ | revertingStart .first _ | unwinding (.start .first) _ =>
    id = .unassigned
  | _ => True

/-- Whether the numbers that a caller is going to bring, or has brought with a clone, have a
property. -/
def Brings (P : SessionId → Prop) : Caller → Prop
  | fetching (.clone _ state) => state.hasRemoteData = true
  | asking (.start _) rest => rest.Brings P
  | asking (.clone _ _ state) rest => state.hasRemoteData = true ∧ rest.Brings P
  | reportingClone clone state => state.hasRemoteData = true ∧ P clone
  | asking (.stopForRelease _ o) _ | asking (.release _ o) _ | ended o =>
    ∀ x ∈ made o, IsCopy P x
  | _ => True

variable {b : Backend} {r r' : Recording} {c c' : Caller} {t : Turn} {id : SessionId}

/-! ## Recordings without a number

A recording that has never been started has no number, and whoever starts its first session relies
on that in case the start fails: then the recording is new again. -/

theorem unnumbered_asking {e : Errand} {rest rest' : Exchange Empty (Except Error e.Brings)}
    (h : (asking e rest).Unnumbered id) : (asking e rest').Unnumbered id := by
  cases e with
  | start l => cases l <;> exact h
  | _ => trivial

/-- Nobody gives a number to a recording that remains new. -/
theorem Move.unnumbered (m : Move b r c t r' c') (h : c.Unnumbered r.cell.id)
    (hr : r.cell.phase = .new → r.cell.id = .unassigned)
    (owner : ∀ f, c.role = .owner f → r.cell.phase = f ∨ r.cell.phase = .closed) :
    (r'.cell.phase = .new → r'.cell.id = .unassigned) ∧ c'.Unnumbered r'.cell.id := by
  cases m with
  | close =>
    refine ⟨fun h => (by cases h), ?_⟩
    cases r.cell.phase <;> trivial
  | @look op hop hp =>
    have hl := looked r r.cell.phase op
    generalize afterLook r r.cell.phase op = c' at hl
    refine ⟨hr, ?_⟩
    cases hl <;> trivial
  | @claim t hp =>
    rcases t with (_ | _) | _
    · exact ⟨fun h => (by cases h), hr hp⟩
    · exact ⟨fun h => (by cases h), trivial⟩
    · exact ⟨fun h => (by cases h), trivial⟩
  | lose hp => exact ⟨hr, trivial⟩
  | @fetch u => exact ⟨hr, by cases u <;> trivial⟩
  | note => exact ⟨hr, unnumbered_asking h⟩
  | answer reply => exact ⟨hr, unnumbered_asking h⟩
  | @cut e _ _ text =>
    refine ⟨hr, ?_⟩
    cases e with
    | start l => cases l <;> exact h
    | _ => trivial
  | @report e result =>
    refine ⟨hr, ?_⟩
    cases e with
    | start l =>
      cases result with
      | ok id => trivial
      | error e => cases l <;> exact h
    | _ => cases result <;> trivial
  | assign =>
    -- Who writes a number is in a transition, or the recording has been closed.
    refine ⟨fun hn => ?_, trivial⟩
    rcases owner _ rfl with ho | ho <;> cases ho.symm.trans hn
  | activate hp => exact ⟨fun h => (by cases h), trivial⟩
  | startOvertaken hp => exact ⟨hr, trivial⟩
  | @revert l e hp =>
    refine ⟨fun hn => ?_, trivial⟩
    cases l with
    | first => exact h
    | again => cases hn
  | revertOvertaken hp => exact ⟨hr, trivial⟩
  | @settleStop id result hp => exact ⟨fun hn => (by cases result <;> cases hn), by trivial⟩
  | stopOvertaken hp => exact ⟨hr, trivial⟩
  | @unwindTransition t text hp =>
    refine ⟨fun hn => ?_, trivial⟩
    rcases t with (_ | _) | _
    · exact h
    · cases hn
    · cases hn
  | unwindOvertaken hp => exact ⟨hr, trivial⟩
  | reportClone => exact ⟨hr, trivial⟩

/-- Only an owner relies on there being no number. -/
theorem unnumbered_of_bystander (h : c.role = .bystander) : c.Unnumbered id := by
  cases c with
  | asking e rest =>
    cases e with
    | start l => cases h
    | _ => trivial
  | revertingStart l e => cases h
  | unwinding t text => cases h
  | _ => trivial

/-! ## Numbers that are brought

A property of numbers stands for the set of those that have been brought so far. Stating the lemmas
for any property `P` saves the bookkeeping: the set grows as replies come in, and all that was known
of `P` holds of the larger set as well. -/

theorem isCopy_imp {x : Recording} (h : IsCopy P x) (hPQ : ∀ id, P id → Q id) : IsCopy Q x :=
  h.imp_right (hPQ _)

theorem Brings.imp (h : c.Brings P) (hPQ : ∀ id, P id → Q id) : c.Brings Q := by
  cases c with
  | fetching u => cases u <;> exact h
  | asking e rest =>
    cases e with
    | start l => exact Exchange.Brings.imp h hPQ
    | clone i stop state => exact ⟨h.1, h.2.imp hPQ⟩
    | stopForRelease i o | release i o => exact fun x hx => isCopy_imp (h x hx) hPQ
    | _ => trivial
  | reportingClone clone state => exact ⟨h.1, hPQ _ h.2⟩
  | ended o => exact fun x hx => isCopy_imp (h x hx) hPQ
  | _ => trivial

/-- Only the end of a request for a start reports a session that has been started. -/
theorem eq_of_started? (h : id ∈ (c.remarks c').filterMap Remark.started?) :
    ∃ l, c = asking (.start l) (.done (.ok id)) := by
  have asks : c'.asks.filterMap Remark.started? = [] := by cases c' <;> rfl
  cases c with
  | asking e rest =>
    cases rest with
    | done result =>
      cases e with
      | start l =>
        cases result with
        | ok started =>
          change id ∈ started :: c'.asks.filterMap Remark.started? at h
          rw [asks, List.mem_singleton] at h
          exact ⟨l, by rw [h]⟩
        | error e =>
          change id ∈ c'.asks.filterMap Remark.started? at h
          rw [asks] at h
          cases h
      | _ =>
        change id ∈ c'.asks.filterMap Remark.started? at h
        rw [asks] at h
        cases h
    | note n rest => cases h
    | keep s rest => exact s.elim
    | call request next =>
      cases e <;> cases hc : c'.cutBy? <;> simp [remarks, hc, Errand.report, Remark.started?] at h
  | _ =>
    change id ∈ c'.asks.filterMap Remark.started? at h
    rw [asks] at h
    cases h

/-- The number of a session that has been started has been brought. -/
theorem started_of_brings (h : c.Brings P) (c' : Caller) :
    ∀ id ∈ (c.remarks c').filterMap Remark.started?, P id := by
  intro id hid
  obtain ⟨l, rfl⟩ := eq_of_started? hid
  exact h

/-- Whether an outcome has made no recording. -/
theorem brings_of_made_eq_nil {o : Outcome Yield} (h : made o = []) : (ended o).Brings P := by
  intro x hx
  rw [h] at hx
  cases hx

/-- Seeing a phase brings no number. -/
theorem brings_afterLook (r : Recording) (p : Phase) (op : Operation) :
    (afterLook r p op).Brings P := by
  cases op with
  | start => cases p <;> first | trivial | exact brings_of_made_eq_nil rfl
  | stop => cases p <;> first | trivial | exact brings_of_made_eq_nil rfl
  | clone stop =>
    by_cases hp : p.state.hasRemoteData = true
    · rw [afterLook, if_pos hp]
      exact hp
    · rw [afterLook, if_neg hp]
      exact brings_of_made_eq_nil rfl
  | dump | openStream =>
    rw [afterLook]
    split
    · trivial
    · exact brings_of_made_eq_nil rfl
  | close => exact brings_of_made_eq_nil rfl

theorem mem_brought_of_reply {e : Errand} {request : Call}
    {next : Reply → Exchange Empty (Except Error e.Brings)} {reply : Reply}
    (h : Signal.brings? (.returned request reply) = some id) (c' : Caller) :
    id ∈ brought ((asking e (.call request next)).signals (.reply reply) c') := by
  refine List.mem_filterMap.2 ⟨.returned request reply, ?_, h⟩
  simp [signals, Turn.signals, pending?]

/-- What a step brings a reply in it has brought. -/
theorem Move.brings (m : Move b r c t r' c') (hb : b.HandsOn) (h : c.Brings P) :
    c'.Brings fun id => P id ∨ id ∈ brought (c.signals t c') := by
  cases m with
  | close =>
    generalize r.cell.phase = p
    cases p <;> first | trivial | exact brings_of_made_eq_nil rfl
  | look hop hp => exact brings_afterLook ..
  | @claim t hp =>
    cases t with
    | start l => exact (hb.start _ _).imp fun _ => False.elim
    | stop => trivial
  | lose hp => trivial
  | @fetch u =>
    cases u with
    | clone stop state => exact ⟨h, (hb.clone _ _).imp fun _ => False.elim⟩
    | answer => exact brings_of_made_eq_nil rfl
    | release => exact brings_of_made_eq_nil rfl
    | _ => trivial
  | @note e n rest =>
    have h' : (asking e rest).Brings P := by cases e <;> exact h
    exact h'.imp fun _ => .inl
  | @answer e request next reply =>
    -- No other move can bring a number, and `hear` finds this one among those brought.
    have hear {id : SessionId} (h : P id ∨ Signal.brings? (.returned request reply) = some id) :
        P id ∨ id ∈ brought ((asking e (.call request next)).signals (.reply reply)
          (asking e (next reply))) :=
      h.imp_right fun h => mem_brought_of_reply h _
    cases e with
    | start l => exact Exchange.Brings.imp (h reply) fun _ => hear
    | clone id stop state => exact ⟨h.1, Exchange.Brings.imp (h.2 reply) fun _ => hear⟩
    | stopForRelease id outcome | release id outcome =>
      exact fun x hx => isCopy_imp (h x hx) fun _ => .inl
    | _ => trivial
  | @cut e _ _ text => cases e <;> first | trivial | exact brings_of_made_eq_nil rfl
  | @report e result =>
    cases e with
    | start l => cases result <;> trivial
    | stop id => trivial
    | dump id path => cases result <;> exact brings_of_made_eq_nil rfl
    | clone id stop state =>
      cases result with
      | ok clone => exact ⟨by cases stop <;> first | rfl | exact h.1, .inl h.2⟩
      | error e => exact brings_of_made_eq_nil rfl
    | openStream id request => cases result <;> exact brings_of_made_eq_nil rfl
    | stopForRelease id outcome =>
      have h' : (ended outcome).Brings P := h
      cases result <;> exact h'.imp fun _ => .inl
    | release id outcome =>
      have h' : (ended outcome).Brings P := h
      cases result <;> exact h'.imp fun _ => .inl
  | assign => trivial
  | @settleStop id result hp => cases result <;> exact brings_of_made_eq_nil rfl
  | @stopOvertaken id result hp =>
    have h' : (ended (.returned (result.map fun _ => .done))).Brings P := by
      cases result <;> exact brings_of_made_eq_nil rfl
    exact h'.imp fun _ => .inl
  | reportClone =>
    intro x hx
    obtain rfl := List.mem_singleton.1 hx
    exact ⟨State.hasRemoteData_iff.1 h.1, .inl h.2⟩
  | _ => exact brings_of_made_eq_nil rfl

end Caller

/-! ## A recording and its callers

The three invariants depend on each other. A caller may rely on the number only while nobody changes
it, and this is what the order among callers is for. So they are kept together, and a step of one
caller is a step for all of them. -/

/-- The roles of callers. Who is not there is a bystander. -/
def rolesOf (callers : Nat → Option Caller) (k : Nat) : Role :=
  (callers k).elim .bystander Caller.role

/-- What a recording and its callers keep: their numbers have a property, and a new recording has
none. -/
structure Sourced (P : SessionId → Prop) (r : Recording) (callers : Nat → Option Caller) :
    Prop where
  order : Orderly r.cell.phase (rolesOf callers)
  recording : r.cell.phase.hasSession = true → P r.cell.id
  new : r.cell.phase = .new → r.cell.id = .unassigned
  backed : ∀ k c, callers k = some c → c.Backed P r.cell.id
  unnumbered : ∀ k c, callers k = some c → c.Unnumbered r.cell.id
  brings : ∀ k c, callers k = some c → c.Brings P

namespace Sourced

variable {b : Backend} {r r' : Recording} {callers : Nat → Option Caller} {k : Nat}
  {c c' : Caller} {t : Caller.Turn} {d? : Option Caller}

/-- What holds of the numbers brought so far holds when more have been brought. -/
theorem imp (q : Sourced P r callers) (hPQ : ∀ id, P id → Q id) : Sourced Q r callers :=
  ⟨q.order, fun h => hPQ _ (q.recording h), q.new, fun k c hc => (q.backed k c hc).imp hPQ,
    q.unnumbered, fun k c hc => (q.brings k c hc).imp hPQ⟩

theorem rolesOf_eq (hk : callers k = some c) : rolesOf callers k = c.role := by
  simp [rolesOf, hk]

/-- A recording that nobody works on. -/
theorem of_nobody (hp : r.cell.phase.isSettled = true)
    (recording : r.cell.phase.hasSession = true → P r.cell.id)
    (new : r.cell.phase = .new → r.cell.id = .unassigned) : Sourced P r fun _ => none :=
  ⟨.of_bystanders hp fun _ => rfl, recording, new, by simp, by simp, by simp⟩

theorem of_isCopy (h : IsCopy P r) : Sourced P r fun _ => none := by
  obtain ⟨hp | hp, hid⟩ := h
  · exact of_nobody (by rw [hp]; rfl) (fun _ => hid) fun hn => nomatch hp.symm.trans hn
  · exact of_nobody (by rw [hp]; rfl) (fun _ => hid) fun hn => nomatch hp.symm.trans hn

/-- What holds of all callers holds after one of them has got somewhere, or is gone, if it holds
of him. -/
theorem forall_update {Q : Caller → Prop} (own : ∀ d, d? = some d → Q d)
    (others : ∀ j ≠ k, ∀ d, callers j = some d → Q d) :
    ∀ j d, Function.update callers k d? j = some d → Q d := by
  intro j d hd
  by_cases hj : j = k
  · subst hj
    rw [Function.update_self] at hd
    exact own d hd
  · rw [Function.update_of_ne hj] at hd
    exact others j hj d hd

/-- Somebody comes to a place, or leaves it, where nobody was at work. -/
theorem seat (q : Sourced P r callers) (hk : rolesOf callers k = .bystander)
    (hs : d? = none ∨ ∃ op, d? = some (.begun op)) :
    Sourced P r (Function.update callers k d?) := by
  have roles : rolesOf (Function.update callers k d?) = rolesOf callers := by
    refine roles_eq_of_same (k := k) ?_ fun j hj => ?_
    · rw [hk, rolesOf, Function.update_self]
      rcases hs with rfl | ⟨op, rfl⟩ <;> rfl
    · rw [rolesOf, Function.update_of_ne hj, rolesOf]
  -- Who has just begun relies on no number.
  have begun {Q : Caller → Prop} (hQ : ∀ op, Q (.begun op)) (d : Caller) (hd : d? = some d) :
      Q d := by
    rcases hs with rfl | ⟨op, rfl⟩
    · cases hd
    · exact Option.some.inj hd ▸ hQ op
  exact ⟨roles ▸ q.order, q.recording, q.new,
    forall_update (begun fun _ => trivial) fun j _ => q.backed j,
    forall_update (begun fun _ => trivial) fun j _ => q.unnumbered j,
    forall_update (begun fun _ => trivial) fun j _ => q.brings j⟩

/-- A step of a caller: whatever numbers matter now mattered before, or a reply has brought them. -/
theorem move (hb : b.HandsOn) (q : Sourced P r callers) (hk : callers k = some c)
    (m : c.Move b r t r' c') :
    Sourced (fun id => P id ∨ id ∈ brought (c.signals t c')) r'
      (Function.update callers k (some c')) := by
  have q' : Sourced (fun id => P id ∨ id ∈ brought (c.signals t c')) r callers :=
    q.imp fun _ => .inl
  have hrole : rolesOf callers k = c.role := rolesOf_eq hk
  have other (j : Nat) (hj : j ≠ k) :
      rolesOf (Function.update callers k (some c')) j = rolesOf callers j := by
    rw [rolesOf, Function.update_of_ne hj, rolesOf]
  have own : rolesOf (Function.update callers k (some c')) k = c'.role := by
    rw [rolesOf, Function.update_self]
    rfl
  -- As long as this caller owns a transition, the others are bystanders.
  have bystander {j : Nat} {d : Caller} (hj : j ≠ k) (hd : callers j = some d)
      (hc : c.role ≠ .bystander) : d.role = .bystander := by
    rw [← rolesOf_eq hd]
    exact q.order.others (by rwa [hrole]) hj
  obtain ⟨hrec, hback⟩ := m.backed
    (fun id hid => .inl (Caller.started_of_brings (q.brings k c hk) c' id hid)) q'.recording
    (q'.backed k c hk)
  obtain ⟨hnew, hunn⟩ := m.unnumbered (q.unnumbered k c hk) q.new
    fun f hf => (q.order.owner k f (hrole.trans hf)).2
  refine ⟨q.order.shift (k := k) (by rw [hrole, own]; exact m.shift) other, hrec, hnew,
    forall_update (fun d hd => Option.some.inj hd ▸ hback) ?_,
    forall_update (fun d hd => Option.some.inj hd ▸ hunn) ?_,
    forall_update (fun d hd => Option.some.inj hd ▸ m.brings hb (q.brings k c hk))
      fun j _ => q'.brings j⟩
  · intro j hj d hd
    exact (q'.backed j d hd).other m (q'.backed k c hk) (bystander hj hd)
  · intro j hj d hd
    -- Only an owner changes the number, and then the others do not rely on it.
    rcases m.id_cases with hid | rfl
    · rw [hid]
      exact q.unnumbered j d hd
    · exact Caller.unnumbered_of_bystander (bystander hj hd (by simp [Caller.role]))

end Sourced

end Recording

end RemoteRecorder
