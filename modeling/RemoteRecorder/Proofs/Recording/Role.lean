import Mathlib.Tactic.ByContra
import RemoteRecorder.Proofs.Recording.Move

/-!
# RemoteRecorder.Proofs.Recording.Role

**The part a caller plays** in the life of the recording it works on.

Whatever a caller does, all that matters to the others is its `Role`: whether it owns a
transition, is going to release the session, is releasing it, or none of these.
`Shift` lists what a step can do to the cell and to the role of who takes it.

`Orderly` is what the callers of one recording keep among them: at most one of them is
anything but a bystander, and the phase says when there is one.
-/

namespace RemoteRecorder.Recording

/-! ## Roles

A caller has a dozen states, but what the others have to know of it is little. They have to know
whether the recording may be claimed, and whether somebody has already taken on the duty to release
the session. Roles say this and nothing else, and it is enough for the proofs of exclusion. -/

/-- The part a caller plays. -/
inductive Role where
  /-- Neither owns a transition nor releases the session. -/
  | bystander
  /-- Has won a transition, with this phase in flight, and not left it yet. -/
  | owner (inFlight : Phase)
  /-- Has closed the recording while it was active, and is going to release the session. -/
  | heir
  /-- Is releasing the session. -/
  | releaser
  deriving DecidableEq

/-- The role of a caller. -/
def Caller.role : Caller → Role
  | fetching .stop => .owner .stopping
  | fetching .release => .heir
  | asking (.start _) _ => .owner .starting
  | asking (.stop _) _ => .owner .stopping
  | asking (.stopForRelease _ _) _ | asking (.release _ _) _ => .releaser
  | assigning _ | settlingStart _ | revertingStart _ _ => .owner .starting
  | settlingStop _ _ => .owner .stopping
  | unwinding t _ => .owner t.inFlight
  | _ => .bystander

/-- What a step can do to the cell and to the role of who takes it. -/
inductive Shift (x : Cell) : Role → Cell → Role → Prop where
  | stay {ρ} : Shift x ρ x ρ
  /-- A transition is won. -/
  | claim (t : Transition) (h : x.phase = t.source) :
      Shift x .bystander { x with phase := t.inFlight } (.owner t.inFlight)
  /-- The number of a started session is written down. -/
  | assign (id : SessionId) : Shift x (.owner .starting) { x with id } (.owner .starting)
  /-- A transition ends in a settled phase. -/
  | settle {f p} (hf : x.phase = f) (hp : p.isSettled = true) (hc : p ≠ .closed) :
      Shift x (.owner f) { x with phase := p } .bystander
  /-- A transition ends after the recording has been closed. -/
  | overtaken {f ρ} (hf : x.phase ≠ f) (hρ : ρ = .bystander ∨ ρ = .releaser) :
      Shift x (.owner f) x ρ
  | close : Shift x .bystander { x with phase := .closed }
      (if x.phase = .active then .heir else .bystander)
  | release : Shift x .heir x .releaser
  | finish : Shift x .releaser x .bystander

namespace Launch

@[simp] theorem isSettled_source (l : Launch) : l.source.isSettled = true := by
  cases l <;> rfl

theorem source_ne_closed (l : Launch) : l.source ≠ .closed := by
  cases l <;> decide

end Launch

namespace Transition

@[simp] theorem isSettled_source (t : Transition) : t.source.isSettled = true := by
  rcases t with l | _
  · exact l.isSettled_source
  · rfl

@[simp] theorem isSettled_inFlight (t : Transition) : t.inFlight.isSettled = false := by
  cases t <;> rfl

theorem source_ne_closed (t : Transition) : t.source ≠ .closed := by
  rcases t with l | _
  · exact l.source_ne_closed
  · decide

end Transition

namespace Caller

variable {b : Backend} {r r' : Recording} {c c' : Caller} {t : Turn}

/-- Seeing a phase makes nobody more than a bystander. -/
theorem role_afterLook (p : Phase) (op : Operation) : (afterLook r p op).role = .bystander := by
  have h := looked r p op
  generalize afterLook r p op = c at h
  cases h with
  | @read op u hop hu => cases u <;> first | rfl | cases hu
  | _ => rfl

/-- A close makes its caller the heir of a running session, and of nothing else. -/
theorem role_afterClose (p : Phase) :
    (afterClose p).1.role = if p = .active then .heir else .bystander := by
  cases p <;> rfl

/-- Who has won a transition owns it from the first step on. -/
theorem role_afterClaim (t : Transition) : (afterClaim b r t).role = .owner t.inFlight := by
  cases t <;> rfl

/-- Reading the session number changes no role but that of an heir. -/
theorem shift_use (id : SessionId) (u : Use) :
    Shift r.cell (fetching u).role r.cell (use b r id u).role := by
  cases u with
  | release => exact .release
  | _ => exact .stay

/-- The end of an errand changes no role but that of a releaser. -/
theorem shift_afterErrand (e : Errand) (rest : Exchange Empty (Except Error e.Brings))
    (result : Except Error e.Brings) :
    Shift r.cell (asking e rest).role r.cell (afterErrand b r e result).1.role := by
  cases e with
  | stopForRelease id outcome =>
    cases result with
    | ok _ => exact .stay
    | error _ => exact .finish
  | release id outcome => cases result <;> exact .finish
  | start l => cases result <;> exact .stay
  | clone id stop state => cases result <;> exact .stay
  | _ => exact .stay

/-- Who is cut off keeps its role, unless it was about to release a session: then nobody is going to
do so. -/
theorem shift_afterUnwinding (text : String) (e : Errand)
    (rest : Exchange Empty (Except Error e.Brings)) :
    Shift r.cell (asking e rest).role r.cell (afterUnwinding text e).role := by
  cases e with
  | stopForRelease id outcome => exact .finish
  | release id outcome => exact .finish
  | _ => exact .stay

theorem phaseAfterStop_settled (result : Except Error Unit) :
    (phaseAfterStop result).isSettled = true ∧ phaseAfterStop result ≠ .closed := by
  cases result <;> simp [phaseAfterStop, Phase.isSettled]

/-- The list of shifts is complete: whatever a caller does is one of them, seen from outside. -/
theorem Move.shift (m : Move b r c t r' c') : Shift r.cell c.role r'.cell c'.role := by
  cases m with
  | close =>
    rw [role_afterClose]
    exact .close
  | look hop hp =>
    rw [role_afterLook]
    exact .stay
  | @claim t hp =>
    rw [role_afterClaim]
    exact .claim t hp
  | lose hp => exact .stay
  | @fetch u => exact shift_use r.id u
  | @note e n rest => cases e <;> exact .stay
  | @answer e _ _ reply => cases e <;> exact .stay
  | @cut e _ _ text => exact shift_afterUnwinding text e _
  | @report e result => exact shift_afterErrand e _ result
  | @assign id => exact .assign id
  | activate hp => exact .settle hp rfl (by decide)
  | startOvertaken hp => exact .overtaken hp (.inr rfl)
  | @revert l e hp => exact .settle hp l.isSettled_source l.source_ne_closed
  | revertOvertaken hp => exact .overtaken hp (.inl rfl)
  | @settleStop id result hp =>
    exact .settle hp (phaseAfterStop_settled result).1 (phaseAfterStop_settled result).2
  | stopOvertaken hp => exact .overtaken hp (.inr rfl)
  | @unwindTransition t text hp => exact .settle hp t.isSettled_source t.source_ne_closed
  | unwindOvertaken hp => exact .overtaken hp (.inl rfl)
  | reportClone => exact .stay

end Caller

/-! ## Order among callers

There is no lock that keeps callers apart, only the phase that they compare and set. That this
suffices is the invariant of this section: a phase in flight belongs to one caller, and a settled
one to nobody. -/

/-- A step that changes no role of its caller changes no role at all. -/
theorem roles_eq_of_same {roles roles' : Nat → Role} {k : Nat} (hk : roles' k = roles k)
    (h : ∀ j, j ≠ k → roles' j = roles j) : roles' = roles := by
  funext j
  by_cases hj : j = k
  · rw [hj, hk]
  · exact h j hj

/-- What the callers of a recording in phase `p` keep among them. -/
structure Orderly (p : Phase) (roles : Nat → Role) : Prop where
  unique : ∀ j k, roles j ≠ .bystander → roles k ≠ .bystander → j = k
  /-- A phase in flight has an owner. -/
  owned : p.isSettled = false → ∃ k, roles k = .owner p
  idle : p.isSettled = true → p ≠ .closed → ∀ k, roles k = .bystander
  owner : ∀ k f, roles k = .owner f → f.isSettled = false ∧ (p = f ∨ p = .closed)

namespace Orderly

variable {p : Phase} {x x' : Cell} {roles roles' : Nat → Role} {j k : Nat}

/-- If nobody but `k` is more than a bystander, only `k` has to be looked at. -/
theorem of_only (only : ∀ j, roles j ≠ .bystander → j = k)
    (owned : p.isSettled = false → roles k = .owner p)
    (idle : p.isSettled = true → p ≠ .closed → roles k = .bystander)
    (owner : ∀ f, roles k = .owner f → f.isSettled = false ∧ (p = f ∨ p = .closed)) :
    Orderly p roles where
  unique i j hi hj := (only i hi).trans (only j hj).symm
  owned hs := ⟨k, owned hs⟩
  idle hs hc j := by
    by_contra hj
    rw [only j hj] at hj
    exact hj (idle hs hc)
  owner j f hj := by
    have hjk := only j (by simp [hj])
    rw [hjk] at hj
    exact owner f hj

theorem of_bystanders (hp : p.isSettled = true) (h : ∀ k, roles k = .bystander) :
    Orderly p roles :=
  of_only (k := 0) (fun j hj => absurd (h j) hj) (by simp [hp]) (fun _ _ => h 0) (by simp [h 0])

/-- Beside one caller who is more than a bystander there are only bystanders. -/
theorem others (o : Orderly p roles) (hk : roles k ≠ .bystander) (hj : j ≠ k) :
    roles j = .bystander := by
  by_contra h
  exact hj (o.unique j k h hk)

/-- Only in a closed recording there is somebody who has to release a session. -/
theorem closed_of_role (o : Orderly p roles) (hk : roles k = .heir ∨ roles k = .releaser) :
    p = .closed := by
  have hb : roles k ≠ .bystander := by rcases hk with h | h <;> simp [h]
  by_contra hc
  cases hs : p.isSettled with
  | true => exact hb (o.idle hs hc k)
  | false =>
    obtain ⟨j, hj⟩ := o.owned hs
    have hjk := o.unique j k (by simp [hj]) hb
    rw [← hjk, hj] at hk
    simp at hk

/-- Order is kept by every step of a caller. -/
theorem shift (o : Orderly x.phase roles) (s : Shift x (roles k) x' (roles' k))
    (h : ∀ j, j ≠ k → roles' j = roles j) : Orderly x'.phase roles' := by
  generalize hk : roles k = ρ at s
  generalize hk' : roles' k = ρ' at s
  -- Either the others are bystanders, or the caller is one and remains one.
  have only (hb : ∀ j, j ≠ k → roles j = .bystander) (j : Nat) (hj : roles' j ≠ .bystander) :
      j = k := by
    by_contra hjk
    exact hj ((h j hjk).trans (hb j hjk))
  have same (hρ : ρ' = ρ) : roles' = roles :=
    roles_eq_of_same (hk'.trans (hρ.trans hk.symm)) h
  have others (hρ : ρ ≠ .bystander) (j : Nat) (hj : j ≠ k) : roles j = .bystander :=
    o.others (by rwa [hk]) hj
  cases s with
  | stay =>
    rw [same rfl]
    exact o
  | assign id =>
    rw [same rfl]
    exact o
  | claim t ht =>
    -- The source of a transition is settled, so there was no owner before.
    have idle := o.idle (by simp [ht]) (ht ▸ t.source_ne_closed)
    refine of_only (only fun j _ => idle j) (fun _ => hk') (by simp) ?_
    rintro f hf
    obtain rfl := Role.owner.inj (hk'.symm.trans hf)
    exact ⟨t.isSettled_inFlight, .inl rfl⟩
  | settle hf hp hc =>
    exact of_only (only (others (by simp))) (by simp [hp]) (fun _ _ => hk') (by simp [hk'])
  | overtaken hf hρ =>
    -- An owner finds its own phase, or the recording is closed.
    have hx : x.phase = .closed := (o.owner k _ hk).2.resolve_left hf
    refine of_only (only (others (by simp))) (by simp [hx, Phase.isSettled])
      (fun _ hc => absurd hx hc) ?_
    rcases hρ with rfl | rfl <;> simp [hk']
  | close =>
    by_cases hp : x.phase = .active
    · -- Who closes an active recording is its heir, and nobody else was at work.
      have idle := o.idle (by simp [hp, Phase.isSettled]) (by simp [hp])
      refine of_only (only fun j _ => idle j) (by simp [Phase.isSettled]) (by simp) ?_
      simp [hk', hp]
    · -- A close in any other phase changes no role: an owner stays the owner.
      have hroles := same (by simp [hp])
      constructor
      · rw [hroles]
        exact o.unique
      · simp [Phase.isSettled]
      · simp
      · intro j f hj
        rw [hroles] at hj
        exact ⟨(o.owner j f hj).1, .inr rfl⟩
  | release =>
    have hx := o.closed_of_role (.inl hk)
    exact of_only (only (others (by simp))) (by simp [hx, Phase.isSettled])
      (fun _ hc => absurd hx hc) (by simp [hk'])
  | finish =>
    have hx := o.closed_of_role (.inr hk)
    exact of_only (only (others (by simp))) (by simp [hx, Phase.isSettled])
      (fun _ hc => absurd hx hc) (by simp [hk'])

end Orderly

/-! ## Releasing once

A close that finds the recording in flight leaves the release to the owner of the transition, and a
close that finds it active releases by itself. The two cases exclude each other, and the number of
releases that have begun is the witness for it. -/

/-- Whether a step of a caller with these roles before and after it begins a release. -/
def Role.beginsRelease (before after : Role) : Bool := before ≠ .releaser && after = .releaser

/-- What is kept about the number `n` of releases that have begun. -/
structure ReleasedOnce (p : Phase) (roles : Nat → Role) (n : Nat) : Prop where
  le_one : n ≤ 1
  /-- After a release nobody is left to begin another one. -/
  spent : 0 < n → p = .closed ∧ ∀ k, roles k = .bystander ∨ roles k = .releaser

namespace ReleasedOnce

variable {p : Phase} {x x' : Cell} {roles roles' : Nat → Role} {k n : Nat}

theorem zero (p : Phase) (roles : Nat → Role) : ReleasedOnce p roles 0 :=
  ⟨Nat.zero_le 1, fun h => absurd h (Nat.lt_irrefl 0)⟩

theorem eq_zero_of_phase (q : ReleasedOnce p roles n) (hp : p ≠ .closed) : n = 0 :=
  Nat.eq_zero_of_not_pos fun h => hp (q.spent h).1

theorem eq_zero_of_role (q : ReleasedOnce p roles n) (hb : roles k ≠ .bystander)
    (hr : roles k ≠ .releaser) : n = 0 :=
  Nat.eq_zero_of_not_pos fun h => ((q.spent h).2 k).elim hb hr

/-- A release that begins is the first, and the others are bystanders. -/
theorem first (o : Orderly p roles) (hp : p = .closed) (hk : roles k ≠ .bystander)
    (hk' : roles' k = .releaser) (h : ∀ j, j ≠ k → roles' j = roles j) :
    ReleasedOnce p roles' 1 := by
  refine ⟨Nat.le_refl 1, fun _ => ⟨hp, fun j => ?_⟩⟩
  by_cases hj : j = k
  · rw [hj]
    exact .inr hk'
  · rw [h j hj]
    exact .inl (o.others hk hj)

/-- No step leads to a second release. -/
theorem shift (q : ReleasedOnce x.phase roles n) (o : Orderly x.phase roles)
    (s : Shift x (roles k) x' (roles' k)) (h : ∀ j, j ≠ k → roles' j = roles j) :
    ReleasedOnce x'.phase roles' (n + ((roles k).beginsRelease (roles' k)).toNat) := by
  generalize hk : roles k = ρ at s ⊢
  generalize hk' : roles' k = ρ' at s ⊢
  have same (hρ : ρ' = ρ) : roles' = roles :=
    roles_eq_of_same (hk'.trans (hρ.trans hk.symm)) h
  cases s with
  | stay =>
    have hn : Role.beginsRelease ρ ρ = false := by simp [Role.beginsRelease]
    rw [same rfl, hn]
    exact q
  | assign id =>
    rw [same rfl]
    exact q
  | claim t ht =>
    -- Nothing has been released as long as the recording is open.
    rw [q.eq_zero_of_phase (ht ▸ t.source_ne_closed)]
    exact zero _ _
  | settle hf hp hc =>
    -- Nor as long as there is an owner or an heir.
    rw [q.eq_zero_of_role (k := k) (by simp [hk]) (by simp [hk])]
    exact zero _ _
  | overtaken hf hρ =>
    rw [q.eq_zero_of_role (k := k) (by simp [hk]) (by simp [hk])]
    rcases hρ with rfl | rfl
    · exact zero _ _
    · exact first o ((o.owner k _ hk).2.resolve_left hf) (by simp [hk]) hk' h
  | close =>
    by_cases hp : x.phase = .active
    · rw [q.eq_zero_of_phase (by simp [hp]), if_pos hp]
      exact zero _ _
    · rw [if_neg hp] at hk' ⊢
      rw [same (if_neg hp)]
      exact ⟨q.le_one, fun hn => ⟨rfl, (q.spent hn).2⟩⟩
  | release =>
    rw [q.eq_zero_of_role (k := k) (by simp [hk]) (by simp [hk])]
    exact first o (o.closed_of_role (.inl hk)) (by simp [hk]) hk' h
  | finish =>
    refine ⟨q.le_one, fun hn => ⟨(q.spent hn).1, fun j => ?_⟩⟩
    by_cases hj : j = k
    · rw [hj]
      exact .inl hk'
    · rw [h j hj]
      exact (q.spent hn).2 j

end ReleasedOnce

end RemoteRecorder.Recording
