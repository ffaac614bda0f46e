import RemoteRecorder.Proofs.Recording.Overtaking

/-!
# RemoteRecorder.Proofs.Recording.Abandonment

**A stop that is overtaken and then unwound releases nothing.** The close that lands during
the stop leaves the release to the owner of the transition, and the owner releases the session
only if its request comes back.

* `closes` lists the releases that have been asked for.
* As long as a caller owns a transition nothing has been released (`Crowd.Unspent`). On a closed
  recording he is the only one who still can release the session (`Crowd.Alone`).
* So what he says decides: `Crowd.released_unless_unwound`.
-/

namespace RemoteRecorder.Recording

/-- The session that a remark asks to be released. -/
def Remark.closes? : Remark → Option SessionId
  | asked (.close id) => some id
  | _ => none

/-- The sessions that have been asked to be released, once for each time. -/
def closes (l : List Remark) : List SessionId := l.filterMap Remark.closes?

@[simp] theorem closes_append (l₁ l₂ : List Remark) : closes (l₁ ++ l₂) = closes l₁ ++ closes l₂ :=
  List.filterMap_append

namespace Caller

variable {b : Backend} {r r' : Recording} {c c' : Caller} {t : Turn}

/-- Who asks for a release is a releaser. -/
theorem closes_asks (h : c.role ≠ .releaser) : closes c.asks = [] := by
  cases c with
  | asking e rest => cases e <;> first | rfl | exact (h rfl).elim
  | _ => rfl

/-- A step that does not make its caller a releaser asks for no release. -/
theorem closes_remarks (h : c'.role ≠ .releaser) : closes (c.remarks c') = [] := by
  cases c with
  | asking e rest =>
    cases rest with
    | done result => exact closes_asks h
    | note n rest => rfl
    | keep s rest => exact s.elim
    | call request next => cases hc : c'.cutBy? <;> simp [remarks, hc, closes, Remark.closes?]
  | _ => exact closes_asks h

end Caller

namespace Shift

variable {x x' : Cell} {ρ ρ' : Role}

/-- On a closed recording nobody becomes more than he is. -/
theorem of_closed (s : Shift x ρ x' ρ') (hx : x.phase = .closed) :
    (ρ = .bystander → ρ' = .bystander) ∧ (ρ = .releaser → ρ' = .bystander ∨ ρ' = .releaser) := by
  cases s with
  | claim t h => exact (t.source_ne_closed (h.symm.trans hx)).elim
  | stay => exact ⟨fun h => h, .inr⟩
  | close => simp [hx]
  | _ => simp

/-- Nobody becomes a releaser without having been owner or heir. -/
theorem ne_bystander (s : Shift x ρ x' ρ') (h : ρ' = .releaser) : ρ ≠ .bystander := by
  rintro rfl
  cases s with
  | stay => cases h
  | claim => cases h
  | close => split at h <;> cases h

end Shift

namespace Crowd

variable {b : Backend} {s s' : Crowd} {r : Recording} {given : Option SessionId} {k : Nat}
  {id : SessionId} {o : Outcome Yield} {schedule later : List Event}

/-! ## Before a release

Who may still release the session is the owner or the heir, and there is at most one of them. Once
somebody has asked for a release he is neither, so no second request can follow. -/

/-- After a release has been asked for there is neither owner nor heir. -/
def Unspent (s : Crowd) : Prop :=
  closes s.talk = [] ∨ s.phase = .closed ∧ ∀ j, s.roles j = .bystander ∨ s.roles j = .releaser

/-- A release is asked for only by the one who is to release the session, and afterwards he is no
longer the one. -/
theorem Step.unspent (h : Step b s s') (o : Orderly s.phase s.roles) (q : s.Unspent) :
    s'.Unspent := by
  have o' := h.orderly o
  cases h with
  | join operation =>
    rw [Unspent, receive_roles]
    exact q
  | @turn k c t r' c' hc m =>
    have shift := record_shift hc m
    rcases q with hn | ⟨hp, hr⟩
    · by_cases hk : c'.role = .releaser
      · -- The first who asks for a release was not a bystander, so the others are.
        have hk' : (s.record k c r' c').roles k = .releaser := (record_roles_self hc).trans hk
        have hb := shift.ne_bystander hk'
        refine .inr ⟨o'.closed_of_role (.inr hk'), fun j => ?_⟩
        by_cases hj : j = k
        · exact .inr (hj ▸ hk')
        · rw [record_roles_of_ne hc j hj]
          exact .inl (o.others hb hj)
      · rw [Unspent, talk_record, closes_append, hn, Caller.closes_remarks hk]
        exact .inl rfl
    · refine .inr ⟨m.closed hp, fun j => ?_⟩
      by_cases hj : j = k
      · rw [hj]
        obtain ⟨hb, hrel⟩ := shift.of_closed hp
        exact (hr k).elim (fun h => .inl (hb h)) hrel
      · rw [record_roles_of_ne hc j hj]
        exact hr j

theorem unspent_of_play (h : Born r given) (hs : play b ⟨r, [], []⟩ schedule = some s) :
    s.Unspent := by
  have kept : Orderly s.phase s.roles ∧ s.Unspent :=
    play_induction (motive := fun s => Orderly s.phase s.roles ∧ s.Unspent) hs
      ⟨orderly_of_born h, .inl rfl⟩ fun _ _ q step => ⟨step.orderly q.1, step.unspent q.1 q.2⟩
  exact kept.2

/-! ## The only one who can release

On a closed recording nobody new can become responsible. If the owner of the transition does not
release the session, therefore, nobody does: this is what makes an unwound stop a loss. -/

/-- Whether, on a closed recording, caller `k` is the only one who can release the session and
the only one who has asked for that. -/
structure Alone (k : Nat) (s : Crowd) : Prop where
  phase : s.phase = .closed
  others : ∀ j, j ≠ k → s.roles j = .bystander
  asked : closes s.talk = closes (s.said k)

/-- The owner of a transition on a closed recording is the only one who can release it. -/
theorem alone_of_owner (q : s.Unspent) (o : Orderly s.phase s.roles) (hp : s.phase = .closed)
    {f : Phase} (hk : s.roles k = .owner f) (hn : closes (s.said k) = []) : s.Alone k := by
  refine ⟨hp, fun j hj => o.others (by simp [hk]) hj, ?_⟩
  rw [hn]
  refine q.resolve_right ?_
  rintro ⟨-, hr⟩
  rcases hr k with h | h <;> cases h.symm.trans hk

/-- The others remain what they are, and so the caller stays alone. -/
theorem Step.alone (h : Step b s s') (q : s.Alone k) : s'.Alone k := by
  cases h with
  | join operation =>
    refine ⟨q.phase, ?_, q.asked⟩
    rw [receive_roles]
    exact q.others
  | @turn j c t r' c' hc m =>
    refine ⟨m.closed q.phase, ?_, ?_⟩
    · intro i hi
      by_cases hij : i = j
      · subst hij
        exact ((record_shift hc m).of_closed q.phase).1 (q.others i hi)
      · rw [record_roles_of_ne hc i hij]
        exact q.others i hi
    · rw [talk_record, said_record, closes_append, q.asked]
      by_cases hj : k = j
      · rw [if_pos hj, closes_append]
      · -- A bystander of a closed recording remains one, and asks for no release.
        have hb := ((record_shift hc m).of_closed q.phase).1 (q.others j (Ne.symm hj))
        rw [record_roles_self hc] at hb
        rw [if_neg hj, Caller.closes_remarks (by simp [hb]), List.append_nil, List.append_nil]

/-- How the stop of a session by `k` has ended, and what has been done about the release. -/
inductive StopEnded (k : Nat) (id : SessionId) (s : Crowd) : Outcome Yield → Prop where
  /-- The request came back, and `k` has released the session, once and for all. -/
  | released (result : Except Error Unit) (ending : Outcome Unit)
      (said : s.said k = (Report.stop id (.returned result)).talk ++ (Report.close id ending).talk)
      (once : closes s.talk = [id]) :
      StopEnded k id s (ending.before (.returned (result.map fun _ => .done)))
  /-- The request unwound, and nobody has released the session. -/
  | abandoned (text : String) (said : s.said k = (Report.stop id (.unwound text)).talk)
      (never : closes s.talk = []) : StopEnded k id s (.unwound text)

/-- Whoever stops a session, overtaken by a close, releases it just if his request comes back. -/
theorem released_unless_unwound (h : Born r given)
    (hs : play b ⟨r, [], []⟩ schedule = some s)
    {rest : Exchange Empty (Except Error Unit)}
    (hk : s.callers[k]? = some (.asking (.stop id) rest))
    (hp : s.phase = .closed) (hl : s.play b later = some s')
    (ho : s'.callers[k]? = some (.ended o)) : s'.StopEnded k id o := by
  have q : s.Openings := openings_of_play hs
  have said := q.opening k _ hk rfl
  have alone : s'.Alone k :=
    play_induction (motive := Alone k) hl
      (alone_of_owner (unspent_of_play h hs) (orderly_of_play h hs) hp (roles_eq hk)
        (by rw [said]; rfl))
      fun _ _ q step => step.alone q
  obtain ⟨c', l, hc', hsaid, w⟩ := walk_of_play hk hl
  obtain rfl := Option.some.inj (hc'.symm.trans ho)
  obtain ⟨reports, hr, teardown⟩ := Caller.teardown_of_walk_stop w hp
  have hsaid : s'.said k = reports.flatMap Report.talk := by
    rw [hsaid, said, ← hr]
    rfl
  have hcloses : closes s'.talk = closes (reports.flatMap Report.talk) := by
    rw [alone.asked, hsaid]
  generalize he : Errand.stop id = e at teardown
  cases teardown with
  | @stop i result ending =>
    obtain rfl := Errand.stop.inj he
    exact .released result ending (by simpa using hsaid) hcloses
  | @cut e text =>
    subst he
    exact .abandoned text (by simpa [Errand.report] using hsaid) hcloses
  | _ => cases he

/-- A stop, and a close during its request. -/
def overtakenStop : List Event :=
  [.join .stop, .turn 0 .act, .turn 0 .act, .turn 0 .act, .turn 0 .act, .join .close, .turn 1 .act]

/-- The request fails, and then the session is released. -/
def failedStop : List Event :=
  [.turn 0 (.reply (.error (.communication "down"))), .turn 0 .act, .turn 0 .act, .turn 0 .act,
    .turn 0 (.reply (.ok .void)), .turn 0 .act]

/-- A stop that is overtaken and fails releases its session all the same. -/
theorem released_unless_unwound_failed :
    ∃ s s' rest o,
      play (.structured Generation.structured.objectName)
        ⟨(create {} .profile 50000).copy ⟨5⟩ .active, [], []⟩ overtakenStop = some s ∧
      s.callers[0]? = some (.asking (.stop ⟨5⟩) rest) ∧ s.phase = .closed ∧
      s.play (.structured Generation.structured.objectName) failedStop = some s' ∧
      s'.callers[0]? = some (.ended o) ∧ closes s'.talk = [⟨5⟩] ∧ s'.StopEnded 0 ⟨5⟩ o := by
  have run : ∃ s s' rest o,
      play (.structured Generation.structured.objectName)
        ⟨(create {} .profile 50000).copy ⟨5⟩ .active, [], []⟩ overtakenStop = some s ∧
      s.callers[0]? = some (.asking (.stop ⟨5⟩) rest) ∧ s.phase = .closed ∧
      s.play (.structured Generation.structured.objectName) failedStop = some s' ∧
      s'.callers[0]? = some (.ended o) ∧ closes s'.talk = [⟨5⟩] :=
    ⟨_, _, _, _, rfl, rfl, rfl, rfl, rfl, rfl⟩
  obtain ⟨s, s', rest, o, hs, hk, hp, hl, ho, hc⟩ := run
  exact ⟨s, s', rest, o, hs, hk, hp, hl, ho, hc,
    released_unless_unwound (.cloned (create {} .profile 50000) ⟨5⟩ rfl) hs hk hp hl ho⟩

/-- The request unwinds, and then nobody releases the session. A close is documented to guarantee
the release, and here it does not. -/
theorem overtaken_stop_unreleased :
    ∃ s s' rest,
      play (.structured Generation.structured.objectName)
        ⟨(create {} .profile 50000).copy ⟨5⟩ .active, [], []⟩ overtakenStop = some s ∧
      s.callers = [.asking (.stop ⟨5⟩) rest, .ended finished] ∧ s.phase = .closed ∧
      s.play (.structured Generation.structured.objectName)
        [.turn 0 (.unwind "cut"), .turn 0 .act] = some s' ∧
      s'.callers = [.ended (.unwound "cut"), .ended finished] ∧ s'.phase = .closed ∧
      s'.talk = [.asked (.stop ⟨5⟩), .told (.stop ⟨5⟩ (.unwound "cut"))] ∧
      closes s'.talk = [] :=
  ⟨_, _, _, rfl, rfl, rfl, rfl, rfl, rfl, rfl, rfl⟩

end Crowd

end RemoteRecorder.Recording
