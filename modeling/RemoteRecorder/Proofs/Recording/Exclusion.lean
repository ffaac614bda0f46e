import RemoteRecorder.Backend.Structured
import RemoteRecorder.Proofs.Recording.Number

/-!
# RemoteRecorder.Proofs.Recording.Exclusion

**One at a time**: however the callers of a recording interleave, at most one of them
owns a transition, and the session is released at most once.

`Crowd.roles` says who owns a transition now; `Crowd.wins`, `Crowd.starts`,
`Crowd.releases` and `Crowd.startedIds` are read off what the callers have done. Each has
an invariant of its own over the steps of a schedule, and `Crowd.transitions_exclusive`
puts them together.
-/

namespace RemoteRecorder.Recording

/-! ## What a step tells

The claims about a run are about lists of what has been done: who has won, who has left, who has
asked for a start. A step adds at most one entry to each of them. So it is enough to know which
entry a step adds, and this depends only on the state of the caller before and after it. -/

/-- Whether a remark is that a session is to be started. -/
def Remark.asksStart : Remark → Bool
  | asked .start => true
  | _ => false

namespace Deed

/-- The transition that a step has won. -/
def won? (d : Deed) : Option Transition :=
  match d.before, d.after with
  | .claiming _, .begun _ => none
  | .claiming t, _ => some t
  | _, _ => none

/-- Whether a step has tried to move the recording out of a transition. -/
def leaves (d : Deed) : Bool :=
  match d.before with
  | .settlingStart _ | .revertingStart _ _ | .settlingStop _ _ | .unwinding _ _ => true
  | _ => false

/-- Who has asked the backend to start a session. -/
def starts (d : Deed) : List Nat := (d.remarks.filter Remark.asksStart).map fun _ => d.who

/-- Whether a step has begun to release the session. -/
def beginsRelease (d : Deed) : Bool := d.before.role.beginsRelease d.after.role

end Deed

/-- Who has won a transition, if that leads to active. -/
def startWinner? : Nat × Transition → Option Nat
  | (k, .start _) => some k
  | (_, .stop) => none

namespace Caller

variable {b : Backend} {r r' : Recording} {k : Nat} {c c' : Caller} {t : Turn}

/-- Whether the request of a transition is under way. -/
def isTransiting : Caller → Bool
  | asking (.start _) _ | asking (.stop _) _ => true
  | _ => false

/-- The request of a transition belongs to its owner. -/
theorem role_of_isTransiting (h : c.isTransiting = true) : ∃ f, c.role = .owner f := by
  cases c with
  | asking e rest => cases e <;> first | exact ⟨_, rfl⟩ | cases h
  | _ => cases h

/-- Whether a caller may still win a transition. -/
def isUndecided : Caller → Bool
  | begun _ | claiming _ => true
  | _ => false

theorem asksStart_use (b : Backend) (r : Recording) (id : SessionId) (u : Use) :
    (use b r id u).asks.filter Remark.asksStart = [] := by
  cases u <;> rfl

theorem asksStart_afterErrand (b : Backend) (r : Recording) (e : Errand)
    (result : Except Error e.Brings) :
    (afterErrand b r e result).1.asks.filter Remark.asksStart = [] := by
  cases e <;> cases result <;> rfl

/-- A step asks for the start of a session just if it wins a transition to active. -/
theorem Move.starts (m : Move b r c t r' c') :
    (Deed.mk k c c').starts =
      ((Deed.mk k c c').won?.map fun t => (k, t)).toList.filterMap startWinner? := by
  simp only [Deed.starts, Deed.remarks]
  cases m with
  | @claim t hp => cases t <;> rfl
  | look hop hp => simp [remarks, Deed.won?]
  | close => simp [remarks, Deed.won?]
  | fetch => simp [remarks, Deed.won?, asksStart_use]
  | @cut e _ _ text => cases e <;> rfl
  | @report e result =>
    rw [remarks, List.filter_cons_of_neg (by simp [Remark.asksStart]), asksStart_afterErrand]
    rfl
  | _ => rfl

/-- Nobody who may no longer win a transition gets another chance. -/
theorem Move.undecided (m : Move b r c t r' c') (h : c'.isUndecided = true) :
    c.isUndecided = true := by
  cases m with
  | close | look hop hp | claim hp | lose hp => rfl
  | @fetch u => cases u <;> cases h
  | @cut e _ _ text => cases e <;> cases h
  | @report e result => cases e <;> cases result <;> cases h
  | _ => cases h

/-- Who wins a transition had the chance before, and has none after it. -/
theorem Move.decides (m : Move b r c t r' c') {w : Transition}
    (h : (Deed.mk k c c').won? = some w) : c.isUndecided = true ∧ c'.isUndecided = false := by
  cases m with
  | @claim t hp => cases t <;> exact ⟨rfl, rfl⟩
  | _ => cases h

/-- Who wins a transition owns it. -/
theorem Move.role_of_won (m : Move b r c t r' c') {w : Transition}
    (h : (Deed.mk k c c').won? = some w) :
    c'.role = .owner w.inFlight ∧ (Deed.mk k c c').leaves = false := by
  cases m with
  | @claim t hp => cases t <;> cases h <;> exact ⟨rfl, rfl⟩
  | _ => cases h

/-- Who is about to leave a transition owns it. -/
theorem role_of_leaves (h : (Deed.mk k c c').leaves = true) : ∃ f, c.role = .owner f := by
  cases c with
  | settlingStart | revertingStart | settlingStop | unwinding => exact ⟨_, rfl⟩
  | _ => cases h

/-- Who leaves a transition owns none. -/
theorem Move.role_of_leaves (m : Move b r c t r' c') (h : (Deed.mk k c c').leaves = true)
    (f : Phase) : c'.role ≠ .owner f := by
  cases m with
  | @settleStop id result hp => cases result <;> simp [ofResult, role]
  | activate | startOvertaken | revert | revertOvertaken | stopOvertaken | unwindTransition
  | unwindOvertaken => simp [ask, role]
  | _ => cases h

/-- No other step changes what a caller owns. -/
theorem Move.owner_iff (m : Move b r c t r' c') (hw : (Deed.mk k c c').won? = none)
    (hl : (Deed.mk k c c').leaves = false) (f : Phase) :
    c'.role = .owner f ↔ c.role = .owner f := by
  cases m with
  | @claim t hp => cases t <;> cases hw
  | close =>
    rw [role_afterClose]
    split <;> simp [role]
  | look hop hp =>
    rw [role_afterLook]
    simp [role]
  | @fetch u => cases u <;> simp [use, ask, role]
  | @note e _ _ => cases e <;> simp [role]
  | @answer e _ _ reply => cases e <;> simp [role]
  | @cut e _ _ text => cases e <;> simp [afterUnwinding, role, Transition.inFlight]
  | @report e result => cases e <;> cases result <;> simp [afterErrand, ofResult, ask, role]
  | lose | assign | reportClone => simp [role]
  | _ => cases hl

end Caller

/-! ## What a crowd has done

Each list grows at its end as steps are taken. The lemmas say by how much, and are the only ones
that unfold the lists. -/

namespace Crowd

/-- The transitions that have been won, and by whom. -/
def wins (s : Crowd) : List (Nat × Transition) :=
  s.deeds.filterMap fun d => d.won?.map fun t => (d.who, t)

/-- Who has left a transition. -/
def leavers (s : Crowd) : List Nat := (s.deeds.filter Deed.leaves).map Deed.who

/-- Who has asked the backend to start a session, once for each request. -/
def starts (s : Crowd) : List Nat := s.deeds.flatMap Deed.starts

/-- The numbers of the sessions that have been started. -/
def startedIds (s : Crowd) : List SessionId :=
  s.deeds.flatMap fun d => d.remarks.filterMap Remark.started?

/-- How many releases of the session have begun. -/
def releases (s : Crowd) : Nat := s.deeds.countP Deed.beginsRelease

variable {b : Backend} {s s' : Crowd} {r r' : Recording} {k : Nat} {c c' : Caller}
  {t : Caller.Turn} {given : Option SessionId} {schedule : List Event}

theorem record_wins (s : Crowd) (k : Nat) (c : Caller) (r' : Recording) (c' : Caller) :
    (s.record k c r' c').wins =
      s.wins ++ ((Deed.mk k c c').won?.map fun t => (k, t)).toList := by
  simp only [wins, record, List.filterMap_append, List.filterMap_cons, List.filterMap_nil]
  cases (Deed.mk k c c').won? <;> rfl

theorem record_leavers (s : Crowd) (k : Nat) (c : Caller) (r' : Recording) (c' : Caller) :
    (s.record k c r' c').leavers =
      s.leavers ++ if (Deed.mk k c c').leaves then [k] else [] := by
  simp only [leavers, record, List.filter_append, List.map_append]
  cases h : (Deed.mk k c c').leaves <;> simp [h]

theorem record_starts (s : Crowd) (k : Nat) (c : Caller) (r' : Recording) (c' : Caller) :
    (s.record k c r' c').starts = s.starts ++ (Deed.mk k c c').starts := by
  simp [starts, record]

theorem record_startedIds (s : Crowd) (k : Nat) (c : Caller) (r' : Recording) (c' : Caller) :
    (s.record k c r' c').startedIds =
      s.startedIds ++ (c.remarks c').filterMap Remark.started? := by
  simp [startedIds, record, Deed.remarks]

theorem record_releases (s : Crowd) (k : Nat) (c : Caller) (r' : Recording) (c' : Caller) :
    (s.record k c r' c').releases =
      s.releases + (c.role.beginsRelease c'.role).toNat := by
  simp only [releases, record, List.countP_append, List.countP_singleton]
  cases h : c.role.beginsRelease c'.role <;> simp [Deed.beginsRelease, h]

/-! ## Winning and starting

A caller wins at most once, since it has no other chance afterwards. Everything that is said here of
winners follows from this and from the roles: whoever has won and not left is the owner. -/

/-- The requests to start a session are those of the transitions that have been won. -/
theorem Step.starts_eq (h : Step b s s') (ih : s.starts = s.wins.filterMap startWinner?) :
    s'.starts = s'.wins.filterMap startWinner? := by
  cases h with
  | join operation => exact ih
  | turn hc m => rw [record_starts, record_wins, List.filterMap_append, m.starts, ih]

/-- What is kept about the transitions that have been won. -/
structure Won (s : Crowd) : Prop where
  decided : ∀ w ∈ s.wins, ∃ c, s.callers[w.1]? = some c ∧ c.isUndecided = false
  nodup : (s.wins.map Prod.fst).Nodup
  leavers : ∀ k ∈ s.leavers, ∃ w, (k, w) ∈ s.wins
  /-- Who owns a transition is who has won it and not left it. -/
  owner : ∀ k f, s.roles k = .owner f ↔ ∃ w, (k, w) ∈ s.wins ∧ k ∉ s.leavers ∧ w.inFlight = f

/-- Who may still win has not won yet. -/
theorem Won.of_isUndecided (q : Won s) (hc : s.callers[k]? = some c) (h : c.isUndecided = true)
    (w : Transition) : (k, w) ∉ s.wins := by
  intro hw
  obtain ⟨c₀, hc₀, hd⟩ := q.decided _ hw
  obtain rfl := Option.some.inj (hc.symm.trans hc₀)
  rw [h] at hd
  cases hd

theorem Won.receive (q : Won s) (operation : Operation) : Won (s.receive operation) := by
  refine ⟨?_, q.nodup, q.leavers, ?_⟩
  · intro w hw
    obtain ⟨c, hc, hd⟩ := q.decided w hw
    exact ⟨c, receive_caller.2 (.inl hc), hd⟩
  · rw [receive_roles]
    exact q.owner

/-- A step by which its caller wins a transition adds one winner to the list. Nobody has owned
anything before it, so the winner is the only one who has not left. -/
theorem Won.record_of_won (q : Won s) (hc : s.callers[k]? = some c)
    (m : c.Move b s.recording t r' c') {w : Transition} (hw : (Deed.mk k c c').won? = some w) :
    Won (s.record k c r' c') := by
  obtain ⟨hu, hu'⟩ := m.decides hw
  obtain ⟨hrole, hleaves⟩ := m.role_of_won hw
  have wins_eq : (s.record k c r' c').wins = s.wins ++ [(k, w)] := by rw [record_wins, hw]; rfl
  have leavers_eq : (s.record k c r' c').leavers = s.leavers := by
    rw [record_leavers, hleaves]
    exact List.append_nil _
  -- Who wins has not won before, so it cannot have left a transition either.
  have fresh := q.of_isUndecided hc hu
  constructor
  · intro v hv
    rw [record_caller hc]
    rw [wins_eq, List.mem_append, List.mem_singleton] at hv
    rcases hv with hv | rfl
    · rw [if_neg (by rintro rfl; exact fresh v.2 hv)]
      exact q.decided v hv
    · exact ⟨c', if_pos rfl, hu'⟩
  · rw [wins_eq, List.map_append, List.nodup_append]
    refine ⟨q.nodup, by simp, ?_⟩
    intro i hi j hj hij
    obtain ⟨v, hv, rfl⟩ := List.mem_map.1 hi
    obtain rfl : j = k := by simpa using hj
    exact fresh v.2 (hij ▸ hv)
  · intro j hj
    rw [leavers_eq] at hj
    obtain ⟨v, hv⟩ := q.leavers j hj
    exact ⟨v, by rw [wins_eq]; exact List.mem_append_left _ hv⟩
  · intro j f
    rw [wins_eq, leavers_eq]
    by_cases hj : j = k
    · subst hj
      rw [record_roles_self hc, hrole]
      constructor
      · intro hf
        refine ⟨w, by simp, ?_, Role.owner.inj hf⟩
        intro hl
        obtain ⟨v, hv⟩ := q.leavers j hl
        exact fresh v hv
      · rintro ⟨v, hv, -, rfl⟩
        obtain rfl : v = w := by simpa [fresh v] using hv
        rfl
    · rw [record_roles_of_ne hc j hj, q.owner j f]
      simp [hj]

/-- Any other step adds no winner. It may be the one by which a winner leaves, and then there is no
owner any more. -/
theorem Won.record_of_not_won (q : Won s) (hc : s.callers[k]? = some c)
    (m : c.Move b s.recording t r' c') (hw : (Deed.mk k c c').won? = none) :
    Won (s.record k c r' c') := by
  have wins_eq : (s.record k c r' c').wins = s.wins := by
    rw [record_wins, hw]
    exact List.append_nil _
  -- Who has won stays decided.
  have decided {w : Transition} (h : (k, w) ∈ s.wins) : c'.isUndecided = false := by
    by_contra hu
    exact q.of_isUndecided hc (m.undecided (by simpa using hu)) w h
  constructor
  · intro v hv
    rw [wins_eq] at hv
    rw [record_caller hc]
    by_cases hk : v.1 = k
    · subst hk
      exact ⟨c', if_pos rfl, decided hv⟩
    · rw [if_neg hk]
      exact q.decided v hv
  · rw [wins_eq]
    exact q.nodup
  · intro j hj
    rw [wins_eq]
    rw [record_leavers, List.mem_append] at hj
    rcases hj with hj | hj
    · exact q.leavers j hj
    · cases hl : (Deed.mk k c c').leaves with
      | false => simp [hl] at hj
      | true =>
        -- Who leaves a transition owns it, and who owns one has won it.
        obtain rfl : j = k := by simpa [hl] using hj
        obtain ⟨f, hf⟩ := Caller.role_of_leaves hl
        obtain ⟨w, hw, -⟩ := (q.owner j f).1 ((roles_eq hc).trans hf)
        exact ⟨w, hw⟩
  · intro j f
    rw [wins_eq, record_leavers]
    by_cases hj : j = k
    · subst hj
      rw [record_roles_self hc]
      cases hl : (Deed.mk j c c').leaves with
      | true => simp [m.role_of_leaves hl f]
      | false => simpa [m.owner_iff hw hl f, roles_eq hc] using q.owner j f
    · rw [record_roles_of_ne hc j hj, q.owner j f]
      cases (Deed.mk k c c').leaves <;> simp [hj]

theorem Won.step (q : Won s) (h : Step b s s') : Won s' := by
  cases h with
  | join operation => exact q.receive operation
  | @turn k c t r' c' hc m =>
    cases hw : (Deed.mk k c c').won? with
    | none => exact q.record_of_not_won hc m hw
    | some w => exact q.record_of_won hc m hw

/-! ## Releasing

The count of releases is kept by `ReleasedOnce`, which has been proved of single shifts already. -/

theorem Step.releasedOnce (h : Step b s s') (o : Orderly s.phase s.roles)
    (q : ReleasedOnce s.phase s.roles s.releases) :
    ReleasedOnce s'.phase s'.roles s'.releases := by
  cases h with
  | join operation =>
    rw [receive_roles]
    exact q
  | @turn k c t r' c' hc m =>
    have hs := q.shift o (record_shift hc m) (record_roles_of_ne hc)
    rw [record_releases]
    rwa [roles_eq hc, record_roles_self hc] at hs

/-! ## The numbers that are answered

A start that finds the recording active answers the number it reads, which nobody has brought in
this run. That the number is one of those that the recording has had is an invariant of its own. -/

/-- The numbers of the sessions that a recording which came with `given` has had. -/
def Knows (given : Option SessionId) (s : Crowd) (id : SessionId) : Prop :=
  id ∈ s.startedIds ∨ given = some id

/-- The number that a start answers is backed at every moment, since only an owner writes one
down. -/
theorem Step.backed (h : Step b s s') (o : Orderly s.phase s.roles)
    (q : s.Backed (s.Knows given)) : s'.Backed (s'.Knows given) := by
  cases h with
  | join operation => exact q.receive operation
  | @turn k c t r' c' hc m =>
    refine Backed.record (q.imp ?_) o hc m ?_
    · intro id hid
      rw [Knows, record_startedIds]
      exact hid.imp_left (List.mem_append_left _)
    · intro id hid
      rw [Knows, record_startedIds]
      exact .inl (List.mem_append_right _ hid)

theorem backed_of_born (h : Born r given) :
    Backed (Knows given ⟨r, [], []⟩) ⟨r, [], []⟩ := by
  refine ⟨fun hp => ?_, fun k c hc => by simp at hc⟩
  rcases h.phase with hn | ⟨-, hg⟩
  · rw [phase, hn] at hp
    cases hp
  · exact .inr hg

/-! ## All together

The invariants of this module have been proved one by one, each by `play_induction`. Now they are
read off at the end of a run. -/

/-- What holds at every moment of a recording that came with `given`. -/
structure Exclusive (b : Backend) (given : Option SessionId) (s : Crowd) : Prop where
  /-- At most one caller owns a transition. -/
  one_owner : ∀ i j f g, s.roles i = .owner f → s.roles j = .owner g → i = j
  /-- Who owns a transition is who has won it and not left it. -/
  owner_iff : ∀ i f, s.roles i = .owner f ↔
    ∃ w, (i, w) ∈ s.wins ∧ i ∉ s.leavers ∧ w.inFlight = f
  /-- While a transition has an owner, the recording is in its phase or closed. -/
  phase : ∀ i f, s.roles i = .owner f → s.phase = f ∨ s.phase = .closed
  /-- The request of at most one transition is under way. -/
  one_transit : ∀ (i j : Nat) (c d : Caller), s.callers[i]? = some c → s.callers[j]? = some d →
    c.isTransiting = true → d.isTransiting = true → i = j
  /-- Every request to start a session belongs to a transition of its own. -/
  starts_eq : s.starts = s.wins.filterMap startWinner?
  wins_nodup : (s.wins.map Prod.fst).Nodup
  /-- A closed recording is closed for ever. -/
  closed : s.phase = .closed → ∀ later s', s.play b later = some s' → s'.phase = .closed
  /-- The session is released once at most. -/
  releases_le_one : s.releases ≤ 1
  /-- A start answers only with the number of a session that has been started. -/
  answers : ∀ (i : Nat) (id : SessionId),
    s.callers[i]? = some (Caller.ended (.returned (.ok (.running id)))) →
    id ∈ s.startedIds ∨ given = some id

/-- However the callers of a recording interleave, they exclude each other. -/
theorem transitions_exclusive (h : Born r given) (hs : play b ⟨r, [], []⟩ schedule = some s) :
    s.Exclusive b given := by
  have o : Orderly s.phase s.roles := orderly_of_play h hs
  have won : s.Won :=
    play_induction (motive := Won) hs ⟨by simp [wins], by simp [wins], by simp [leavers],
      by simp [roles, wins]⟩
      fun _ _ q step => q.step step
  have released : Orderly s.phase s.roles ∧ ReleasedOnce s.phase s.roles s.releases :=
    play_induction
      (motive := fun s => Orderly s.phase s.roles ∧ ReleasedOnce s.phase s.roles s.releases) hs
      ⟨orderly_of_born h, .zero _ _⟩
      fun _ _ q step => ⟨step.orderly q.1, step.releasedOnce q.1 q.2⟩
  have backed : Orderly s.phase s.roles ∧ s.Backed (s.Knows given) :=
    play_induction (motive := fun s => Orderly s.phase s.roles ∧ s.Backed (s.Knows given)) hs
      ⟨orderly_of_born h, backed_of_born h⟩
      fun _ _ q step => ⟨step.orderly q.1, step.backed q.1 q.2⟩
  constructor
  · exact fun i j f g hi hj => o.unique i j (by simp [hi]) (by simp [hj])
  · exact won.owner
  · exact fun i f hi => (o.owner i f hi).2
  · intro i j c d hc hd hi hj
    obtain ⟨f, hf⟩ := Caller.role_of_isTransiting hi
    obtain ⟨g, hg⟩ := Caller.role_of_isTransiting hj
    exact o.unique i j (by simp [roles_eq hc, hf]) (by simp [roles_eq hd, hg])
  · exact play_induction (motive := fun s => s.starts = s.wins.filterMap startWinner?) hs rfl
      fun _ _ q step => step.starts_eq q
  · exact won.nodup
  · exact fun hp later s' hs' => closed_of_play hp hs'
  · exact released.2.le_one
  · exact fun i id hi => backed.2.callers i _ hi

/-- Two starts, and a close that overtakes the one that has won. -/
def contended : List Event :=
  [.join .start, .join .start, .turn 0 .act, .turn 1 .act, .turn 0 .act, .turn 1 .act,
    .turn 0 .act, .join .close, .turn 2 .act, .turn 0 (.reply (.ok (.long 5))),
    .turn 0 .act, .turn 0 (.reply (.ok .void)), .turn 0 .act, .turn 0 (.reply (.ok .void)),
    .turn 0 .act, .turn 0 (.reply (.ok .void)), .turn 0 .act, .turn 0 .act, .turn 0 .act,
    .turn 0 .act, .turn 0 (.reply (.ok .void)), .turn 0 .act, .turn 1 .act]

/-- Of two starts and a close at once, one start wins, and the close leaves the release to it. -/
theorem transitions_exclusive_contended :
    ∃ s, play (.structured Generation.structured.objectName)
        ⟨create {} .profile 50000, [], []⟩ contended = some s ∧
      s.phase = .closed ∧ s.starts = [0] ∧ s.releases = 1 ∧
      s.Exclusive (.structured Generation.structured.objectName) none := by
  have h : (play (.structured Generation.structured.objectName)
      ⟨create {} .profile 50000, [], []⟩ contended).map
        (fun s => (s.phase, s.starts, s.releases)) = some (.closed, [0], 1) := by decide
  obtain ⟨s, hs, hp⟩ := Option.map_eq_some_iff.1 h
  obtain ⟨hp, hst, hr⟩ : s.phase = .closed ∧ s.starts = [0] ∧ s.releases = 1 := by
    simpa using hp
  exact ⟨s, hs, hp, hst, hr, transitions_exclusive (.created {} .profile 50000) hs⟩

end Crowd

end RemoteRecorder.Recording
