import Mathlib.Data.List.Induction
import RemoteRecorder.Backend.Structured
import RemoteRecorder.Proofs.Recording.Absence

/-!
# RemoteRecorder.Proofs.Recording.Unwinding

**An operation that is unwound leaves no trace**, unless it is a close: a start or a stop gives
the recording back as it found it, and all that comes later can come just as well if the
operation had never been called.

* Who is unwound in the end has at every moment before been `Revocable`, and has taken a
  `Tread`: a step that changes nothing but the phase, and that only between the source of a
  transition and the phase in flight (`Move.revocable`).
* So the recording, taken `back` to the source of the transition, is the one without the caller,
  and the others can do without it what they do beside it (`exists_absence`).
* `unwinding_leaves_no_trace` puts this together.
-/

namespace RemoteRecorder.Recording

/-- The recording back in the source of a transition, if there is one. -/
def back (r : Recording) : Option Transition → Recording
  | some t => r.setPhase t.source
  | none => r

/-- To set the phase that is there changes nothing. -/
theorem setPhase_of_eq {r : Recording} {p : Phase} (h : r.cell.phase = p) : r.setPhase p = r := by
  rw [← h]
  rfl

namespace Caller

/-! ## Who can be unwound without a trace

An operation can be unwound only at a remote call, but to leave no trace it must have changed
nothing on the way there. So the states that can still end in an unwinding are followed backwards,
from the end to the moment at which the caller came: all of them are `Revocable`, and the only thing
such a caller changes is the phase, by owning a transition. -/

/-- Whether a caller can still be unwound without a trace, and the transition it owns meanwhile. -/
inductive Revocable : Caller → Option Transition → Prop where
  | begun {op} (h : op ≠ .close) : Revocable (begun op) none
  | claiming {t} : Revocable (claiming t) none
  | fetching {u} (h : u.isReading = true) : Revocable (fetching u) none
  | fetchingStop : Revocable (fetching .stop) (some .stop)
  | reading {e rest} (h : e.isReading = true) : Revocable (asking e rest) none
  | starting {l rest} : Revocable (asking (.start l) rest) (some (.start l))
  | stopping {id rest} : Revocable (asking (.stop id) rest) (some .stop)
  | unwinding {t text} : Revocable (unwinding t text) (some t)
  | unwound {text} : Revocable (ended (.unwound text)) none

/-- What a step of such a caller does to the recording. -/
inductive Tread (r : Recording) (c : Caller) :
    Option Transition → Recording → Option Transition → Prop where
  | stay {o} : Tread r c o r o
  | claim {t : Transition} (hc : c = .claiming t) (hp : r.cell.phase = t.source) :
      Tread r c none (r.setPhase t.inFlight) (some t)
  | leave {t : Transition} : Tread r c (some t) (r.setPhase t.source) none

variable {b : Backend} {r r' : Recording} {c c' : Caller} {t : Turn} {o o' : Option Transition}
  {op : Operation}

/-- Who owns a transition and can be unwound plays the part of its owner. -/
theorem Revocable.role {t : Transition} (h : Revocable c (some t)) :
    c.role = .owner t.inFlight := by
  cases h <;> rfl

theorem Revocable.asking {e : Errand} {rest rest' : Exchange Empty (Except Error e.Brings)}
    (h : Revocable (asking e rest) o) : Revocable (asking e rest') o := by
  cases h with
  | reading he => exact .reading he
  | starting => exact .starting
  | stopping => exact .stopping

/-- Seen from the source of the transition, such a step changes nothing. -/
theorem Tread.back_eq (h : Tread r c o r' o') : r'.back o' = r.back o := by
  cases h with
  | stay => rfl
  | claim hc hp => exact setPhase_of_eq hp
  | leave => rfl

/-- Who can be unwound without a trace could be so before, unless the recording has been closed. -/
theorem Move.revocable (m : Move b r c t r' c') (h : Revocable c' o')
    (owner : ∀ f, c.role = .owner f → r.cell.phase = f) (hr : c.role ≠ .releaser) :
    ∃ o, Revocable c o ∧ Tread r c o r' o' := by
  cases m with
  | close =>
    generalize r.cell.phase = p at h
    cases p <;> (cases h; try contradiction)
  -- What a look leads to can be unwound only if it reads the session or claims a transition.
  | @look op hop hp =>
    have hl := looked r r.cell.phase op
    generalize afterLook r r.cell.phase op = c' at h hl
    refine ⟨none, .begun hop, ?_⟩
    cases hl with
    | claim t ht => cases h; exact .stay
    | running => cases h; contradiction
    | read hop hu hp => cases h <;> first | exact .stay | cases hu
    | idle => cases h
  | @claim t hp =>
    cases t with
    | start l =>
      cases h with
      | starting => exact ⟨none, .claiming, .claim rfl hp⟩
      | reading he => cases he
    | stop =>
      cases h with
      | fetchingStop => exact ⟨none, .claiming, .claim rfl hp⟩
      | fetching hu => cases hu
  | lose hp =>
    cases h
    exact ⟨none, .claiming, .stay⟩
  | @fetch u =>
    cases u with
    | stop =>
      cases h with
      | stopping => exact ⟨_, .fetchingStop, .stay⟩
      | reading h => cases h
    | dump | clone | openStream =>
      cases h
      exact ⟨_, .fetching rfl, .stay⟩
    | answer => cases h
    | release => cases h; contradiction
  | note => exact ⟨_, h.asking, .stay⟩
  | answer reply => exact ⟨_, h.asking, .stay⟩
  | @cut e _ _ text =>
    cases e with
    | start l => cases h; exact ⟨_, .starting, .stay⟩
    | stop id => cases h; exact ⟨_, .stopping, .stay⟩
    | dump | clone | openStream => cases h; exact ⟨_, .reading rfl, .stay⟩
    | stopForRelease | release => exact (hr rfl).elim
  | @report e result =>
    cases e with
    | stopForRelease | release => exact (hr rfl).elim
    | stop id => cases h
    | _ => cases result <;> cases h
  | @unwindTransition t text hp =>
    cases h
    exact ⟨_, .unwinding, .leave⟩
  -- An owner who finds the recording closed has been overtaken, and that is excluded here.
  | unwindOvertaken hp => exact (hp (owner _ rfl)).elim
  | startOvertaken | stopOvertaken => cases h; contradiction
  | settleStop hp => cases h
  | _ => cases h

/-- What unwinds an operation: a request that only reads the session, or the way back out of a
transition. -/
theorem Move.cases_unwound {text : String} (m : Move b r c t r' c')
    (h : c' = ended (.unwound text)) (hr : c.role ≠ .releaser) :
    (∃ e rest, c = asking e rest ∧ e.isReading = true) ∨ ∃ w, c = unwinding w text := by
  cases m with
  | close =>
    generalize r.cell.phase = p at h
    cases p <;> cases h
  | @look op hop hp =>
    have hl := looked r r.cell.phase op
    rw [h] at hl
    cases hl
  | @claim t hp => cases t <;> cases h
  | @fetch u => cases u <;> cases h
  | @cut e _ _ text =>
    cases e with
    | start | stop => cases h
    | dump | clone | openStream => exact .inl ⟨_, _, rfl, rfl⟩
    | stopForRelease | release => exact (hr rfl).elim
  | @report e result =>
    cases e with
    | stopForRelease | release => exact (hr rfl).elim
    | _ => cases result <;> cases h
  | @unwindTransition t text hp =>
    cases h
    exact .inr ⟨t, rfl⟩
  | @unwindOvertaken t text hp =>
    cases h
    exact .inr ⟨t, rfl⟩
  | _ => cases h

theorem Move.turn_of_claiming {w : Transition} (m : Move b r (claiming w) t r' c') : t = .act := by
  cases m <;> rfl

/-- While a transition is in flight, nobody but its owner changes anything, short of a close: who
was about to claim a transition loses it, and the others do not look at the phase. -/
theorem Move.of_inFlight (m : Move b r c t r' c') (hc : c.role = .bystander)
    (hp : r.cell.phase.isSettled = false) (hp' : r'.cell.phase ≠ .closed) (p : Phase) :
    r' = r ∧ ((∃ t₀, c = claiming t₀ ∧ c' = begun t₀.operation) ∨
      (∀ op, c ≠ begun op) ∧ Move b (r.setPhase p) c t (r.setPhase p) c') := by
  cases m with
  | close => exact (hp' rfl).elim
  | look hop hs => simp [hs] at hp
  | claim hs => simp [hs] at hp
  | @lose t₀ hs => exact ⟨rfl, .inl ⟨t₀, rfl, rfl⟩⟩
  | @fetch u =>
    refine ⟨rfl, .inr ⟨by simp, ?_⟩⟩
    -- The requests depend on the options and the number, and these are the same.
    have fetched : use b (r.setPhase p) (r.setPhase p).id u = use b r r.id u := by cases u <;> rfl
    rw [← fetched]
    exact .fetch
  | note => exact ⟨rfl, .inr ⟨by simp, .note⟩⟩
  | answer reply => exact ⟨rfl, .inr ⟨by simp, .answer reply⟩⟩
  | cut text => exact ⟨rfl, .inr ⟨by simp, .cut text⟩⟩
  | @report e result =>
    refine ⟨rfl, .inr ⟨by simp, ?_⟩⟩
    have followed : (afterErrand b (r.setPhase p) e result).1 = (afterErrand b r e result).1 := by
      cases e <;> cases result <;> rfl
    rw [← followed]
    exact .report
  | reportClone => exact ⟨rfl, .inr ⟨by simp, .reportClone⟩⟩
  | _ => cases hc

/-! ## Which operation a caller serves

An operation that only reads the session changes nothing at all, whether it is unwound or not. To
say this of a caller somewhere in the middle one has to know which operation it began with. -/

/-- Whether a caller can be at this place in an operation. -/
def Serves (op : Operation) : Caller → Prop
  | begun op₀ => op₀ = op
  | claiming t | unwinding t _ => t.operation = op
  | fetching .answer => op = .start
  | fetching .stop => op = .stop
  | fetching .release => op = .close
  | fetching _ => op.isReading = true
  | asking (.start _) _ => op = .start
  | asking (.stop _) _ => op = .stop
  | asking (.stopForRelease _ _) _ | asking (.release _ _) _ => op.isReading = false
  | asking _ _ => op.isReading = true
  | assigning _ | settlingStart _ | revertingStart _ _ => op = .start
  | settlingStop _ _ => op = .stop
  | reportingClone _ _ => op.isReading = true
  | ended _ => True

theorem serves_afterLook (r : Recording) (p : Phase) (op : Operation) :
    (afterLook r p op).Serves op := by
  have h := looked r p op
  generalize afterLook r p op = c at h
  cases h with
  | claim t ht => rfl
  | running hp => rfl
  | @read op u hop hu hp => cases u <;> first | exact hop | cases hu
  | idle hx => trivial

/-- A step is taken within the operation in which the caller has begun. -/
theorem Move.serves (m : Move b r c t r' c') (h : c.Serves op) : c'.Serves op := by
  cases m with
  | close =>
    obtain rfl := h
    cases r.cell.phase <;> trivial
  | look hop hp =>
    obtain rfl := h
    exact serves_afterLook ..
  | @claim t hp =>
    obtain rfl := h
    cases t <;> rfl
  | lose hp => exact h
  | @fetch u =>
    cases u with
    | release =>
      obtain rfl : op = .close := h
      rfl
    | answer => trivial
    | _ => exact h
  | @note e n rest => cases e <;> exact h
  | @answer e _ _ reply => cases e <;> exact h
  -- A transition that is cut off has its phase to give back, and the rest just ends.
  | @cut e _ _ text =>
    cases e with
    | start l => exact h.symm
    | stop id => exact h.symm
    | _ => trivial
  | @report e result =>
    cases e with
    | start l => cases result <;> exact h
    | stop id => exact h
    | clone id stop state =>
      cases result with
      | ok id => exact h
      | error e => trivial
    | stopForRelease id outcome =>
      cases result with
      | ok _ => exact h
      | error e => trivial
    | release id outcome => cases result <;> trivial
    | _ => trivial
  | assign => exact h
  | startOvertaken hp =>
    obtain rfl : op = .start := h
    rfl
  | stopOvertaken hp =>
    obtain rfl : op = .stop := h
    rfl
  | _ => trivial

/-- Nothing changes in an operation that only reads the session. -/
theorem Move.eq_of_serves (m : Move b r c t r' c') (h : c.Serves op) (hop : op.isReading = true) :
    r' = r := by
  have not_transition (t : Transition) : t.operation.isReading = false := by cases t <;> rfl
  cases m with
  | close => cases h; cases hop
  | claim hp => cases h; simp [not_transition] at hop
  | unwindTransition hp => cases h; simp [not_transition] at hop
  | assign | activate | revert | settleStop => cases h; cases hop
  | _ => rfl

end Caller

namespace Crowd

variable {b : Backend} {s₀ s s' z : Crowd} {r r' : Recording} {given : Option SessionId}
  {k j : Nat} {c c' d : Caller} {t : Caller.Turn} {o : Option Transition} {op : Operation}
  {before during later : List Event}

/-! ## Beside a caller who can be unwound

Two crowds are compared, one with the caller and one without. What the others do in the first they
can do in the second: while the caller owns a transition they find it in flight and do nothing that
matters, and otherwise the recording is the same for them. A schedule for the second crowd is built
along the one for the first. -/

/-- Nobody ever leaves the list of callers. -/
theorem length_le_of_play (hs : s.play b later = some s') :
    s.callers.length ≤ s'.callers.length := by
  refine play_induction (motive := fun s' => s.callers.length ≤ s'.callers.length) hs
    (Nat.le_refl _) ?_
  intro s₁ s₂ q step
  cases step with
  | join op =>
    simp only [receive, List.length_append]
    omega
  | turn hc m => simpa [record] using q

/-- Where the others are who have come to a crowd, a caller who has just come is not. -/
theorem receive_caller_of_lt (hk : k < s.callers.length)
    (hc : (s.receive op).callers[k]? = some c) : s.callers[k]? = some c :=
  (receive_caller.1 hc).resolve_right fun h => by omega

/-- On a recording that is not closed, an owner finds the phase of its transition. -/
theorem phase_of_owner (q : Orderly s.phase s.roles) (hp : s.phase ≠ .closed)
    (hc : s.callers[k]? = some c) (f : Phase) (hf : c.role = .owner f) : s.phase = f :=
  (q.owner k f ((roles_eq hc).trans hf)).2.resolve_right hp

/-- Nobody releases a session whose recording is not closed. -/
theorem role_ne_releaser (q : Orderly s.phase s.roles) (hp : s.phase ≠ .closed)
    (hc : s.callers[k]? = some c) : c.role ≠ .releaser := fun hr =>
  hp (q.closed_of_role (.inr ((roles_eq hc).trans hr)))

/-- What a step of the caller who will be unwound does to the recording. -/
theorem exists_tread (q : Orderly s.phase s.roles) (hp : s.phase ≠ .closed)
    (hc : s.callers[k]? = some c) (m : c.Move b s.recording t r' c') {o' : Option Transition}
    (h : c'.Revocable o') : ∃ o, c.Revocable o ∧ c.Tread s.recording o r' o' :=
  m.revocable h (phase_of_owner q hp hc) (role_ne_releaser q hp hc)

/-- While `k` owns a transition, the others change nothing, short of a close. -/
theorem turn_of_owner (q : Orderly s.phase s.roles) (hk : s.callers[k]? = some d)
    {w : Transition} (hd : d.Revocable (some w)) (hj : j ≠ k) (hc : s.callers[j]? = some c)
    (m : c.Move b s.recording t r' c') (hp' : r'.cell.phase ≠ .closed) (p : Phase) :
    r' = s.recording ∧ ((∃ t₀, c = .claiming t₀ ∧ c' = .begun t₀.operation) ∨
      (∀ op, c ≠ .begun op) ∧
        c.Move b (s.recording.setPhase p) t (s.recording.setPhase p) c') := by
  have hp : s.phase ≠ .closed := fun h => hp' (m.closed h)
  have hf : s.phase = w.inFlight := phase_of_owner q hp hk _ hd.role
  have hb : c.role = .bystander := by
    rw [← roles_eq hc]
    exact q.others (k := k) (by rw [roles_eq hk, hd.role]; simp) hj
  exact m.of_inFlight hb (by rw [show s.recording.cell.phase = w.inFlight from hf]; simp) hp' p

/-- What another caller does beside one who will be unwound it can do without it. -/
theorem Alike.turn (a : Alike k s z) (hz : z.recording = s.recording.back o)
    (q : Orderly s.phase s.roles) (hk : s.callers[k]? = some d) (hd : d.Revocable o) (hj : j ≠ k)
    (hc : s.callers[j]? = some c) (m : c.Move b s.recording t r' c')
    (hp' : r'.cell.phase ≠ .closed) :
    ∃ later z', z.play b later = some z' ∧ Alike k (s.record j c r' c') z' ∧
      z'.recording = r'.back o := by
  cases o with
  | none =>
    obtain ⟨later, z', hl, q'⟩ := AsIfAway.turn ⟨a, hz⟩ hj hc m
    exact ⟨later, z', hl, q'.toAlike, q'.recording⟩
  | some w =>
    obtain ⟨i, rfl⟩ := exists_skip hj
    obtain ⟨e, he, hl⟩ := a.callers i c hc
    obtain ⟨rfl, ⟨t₀, rfl, rfl⟩ | ⟨hb, m'⟩⟩ := turn_of_owner q hk hd hj hc m hp' w.source
    · -- Without the owner nothing is lost, so there the caller stays where it is.
      cases hl with
      | same => exact ⟨[], z, rfl, a.record_left hc he rfl (.lost t₀), hz⟩
    · cases hl with
      | same =>
        have hz' : s.recording.setPhase w.source = z.recording := hz.symm
        rw [hz'] at m'
        exact ⟨_, _, play_one (step?_of_move he m'), a.record_both hc he rfl (.same c'), hz⟩
      | lost t₀ => exact (hb _ rfl).elim

/-- The life of a caller up to a moment when it can be unwound without a trace: it comes, somebody
else comes or takes a step, or it takes a step itself. -/
theorem revocable_induction {motive : List Event → Crowd → Option Transition → Prop}
    (q₀ : Orderly s₀.phase s₀.roles) (start : motive [] (s₀.receive op) none)
    (join : ∀ l s o op', motive l s o → motive (l ++ [.join op']) (s.receive op') o)
    (other : ∀ l s o d j c t r' c', motive l s o → Orderly s.phase s.roles →
      s.callers[s₀.callers.length]? = some d → d.Revocable o → j ≠ s₀.callers.length →
      s.callers[j]? = some c → c.Move b s.recording t r' c' → r'.cell.phase ≠ .closed →
      motive (l ++ [.turn j t]) (s.record j c r' c') o)
    (own : ∀ l s o o' c t r' c', motive l s o → (s₀.receive op).play b l = some s →
      s.callers[s₀.callers.length]? = some c → c.Move b s.recording t r' c' →
      c.Tread s.recording o r' o' →
      motive (l ++ [.turn s₀.callers.length t]) (s.record s₀.callers.length c r' c') o')
    (hs : (s₀.receive op).play b during = some s)
    (hc : s.callers[s₀.callers.length]? = some c) (h : c.Revocable o) (hp : s.phase ≠ .closed) :
    motive during s o := by
  induction during using List.reverseRecOn generalizing s c o with
  | nil =>
    obtain rfl := Option.some.inj hs
    have here : (s₀.receive op).callers[s₀.callers.length]? = some (.begun op) :=
      receive_caller.2 (.inr ⟨rfl, rfl⟩)
    obtain rfl := Option.some.inj (here.symm.trans hc)
    cases h
    exact start
  | append_singleton l e ih =>
    obtain ⟨s₁, hs₁, hse⟩ := play_concat.1 hs
    have hp₁ : s₁.phase ≠ .closed := fun h => hp ((Step.of_step? hse).closed h)
    have q₁ : Orderly s₁.phase s₁.roles :=
      play_induction hs₁ (by rw [receive_roles]; exact q₀) fun _ _ q step => step.orderly q
    cases e with
    | join op' =>
      obtain rfl := Option.some.inj hse
      have hk : s₀.callers.length < s₁.callers.length :=
        Nat.lt_of_succ_le (by simpa [receive] using length_le_of_play hs₁)
      exact join l s₁ o op' (ih hs₁ (receive_caller_of_lt hk hc) h hp₁)
    | turn j t =>
      obtain ⟨c₁, r', c', hc₁, m, rfl⟩ := step?_turn hse
      rw [record_caller hc₁] at hc
      -- The last step was taken by the caller in question, or by somebody beside it.
      by_cases hj : s₀.callers.length = j
      · subst hj
        obtain rfl := Option.some.inj ((if_pos rfl).symm.trans hc)
        obtain ⟨o₁, h₁, tread⟩ := exists_tread q₁ hp₁ hc₁ m h
        exact own l s₁ o₁ o c₁ t r' c' (ih hs₁ hc₁ h₁ hp₁) hs₁ hc₁ m tread
      · rw [if_neg hj] at hc
        exact other l s₁ o c j c₁ t r' c' (ih hs₁ hc h hp₁) q₁ hc h (Ne.symm hj) hc₁ m hp

/-- Whether all that happens are steps of `k`. -/
def OnlyBy (k : Nat) (during : List Event) : Prop := ∀ e ∈ during, ∃ t, e = .turn k t

theorem onlyBy_concat {e : Event} (h : OnlyBy k (during ++ [e])) :
    OnlyBy k during ∧ ∃ t, e = .turn k t :=
  ⟨fun e he => h e (List.mem_append_left _ he), h e (by simp)⟩

/-- As long as a caller can be unwound without a trace, the others are where they could be without
it, and so is the recording but for the transition the caller owns. -/
theorem exists_absence (q₀ : Orderly s₀.phase s₀.roles)
    (hv : ∀ v ∈ s₀.voices, v.1 < s₀.callers.length)
    (hs : (s₀.receive op).play b during = some s)
    (hc : s.callers[s₀.callers.length]? = some c) (h : c.Revocable o) (hp : s.phase ≠ .closed) :
    ∃ others z, s₀.play b others = some z ∧
      (OnlyBy s₀.callers.length during → others = []) ∧ Alike s₀.callers.length s z ∧
      z.recording = s.recording.back o := by
  refine revocable_induction (motive := fun l s o => ∃ others z, s₀.play b others = some z ∧
    (OnlyBy s₀.callers.length l → others = []) ∧ Alike s₀.callers.length s z ∧
    z.recording = s.recording.back o) q₀ ?start ?join ?other ?own hs hc h hp
  case start => exact ⟨[], s₀, rfl, fun _ => rfl, .of_receive op hv, rfl⟩
  case join =>
    rintro l s o op' ⟨others, z, hz, -, a, hr⟩
    have come : z.play b [.join op'] = some (z.receive op') := rfl
    refine ⟨_, _, play_append hz come, fun only => ?_, a.receive op', hr⟩
    obtain ⟨-, t, ht⟩ := onlyBy_concat only
    cases ht
  case other =>
    rintro l s o d j c t r' c' ⟨others, z, hz, -, a, hr⟩ q hk hd hj hc m hp
    obtain ⟨more, z', hz', a', hr'⟩ := a.turn hr q hk hd hj hc m hp
    refine ⟨_, z', play_append hz hz', fun only => ?_, a', hr'⟩
    obtain ⟨-, t', ht⟩ := onlyBy_concat only
    cases ht
    exact (hj rfl).elim
  case own =>
    rintro l s o o' c t r' c' ⟨others, z, hz, only, a, hr⟩ hs hc m tread
    exact ⟨others, z, hz, fun h => only (onlyBy_concat h).1, a.record_self hc,
      hr.trans tread.back_eq.symm⟩

/-- Who owns a transition and can be unwound has won it at a moment when the recording was what
it would be back in the source. -/
theorem exists_claim (q₀ : Orderly s₀.phase s₀.roles)
    (hs : (s₀.receive op).play b during = some s)
    (hc : s.callers[s₀.callers.length]? = some c) {w : Transition} (h : c.Revocable (some w))
    (hp : s.phase ≠ .closed) :
    ∃ won left s₁, during = won ++ .turn s₀.callers.length .act :: left ∧
      (s₀.receive op).play b won = some s₁ ∧
      s₁.callers[s₀.callers.length]? = some (.claiming w) ∧ s₁.phase = w.source ∧
      s.recording.setPhase w.source = s₁.recording := by
  refine revocable_induction (motive := fun l s o => ∀ w, o = some w → ∃ won left s₁,
    l = won ++ .turn s₀.callers.length .act :: left ∧ (s₀.receive op).play b won = some s₁ ∧
    s₁.callers[s₀.callers.length]? = some (.claiming w) ∧ s₁.phase = w.source ∧
    s.recording.setPhase w.source = s₁.recording) q₀ ?start ?join ?other ?own hs hc h hp w rfl
  case start => simp
  case join =>
    intro l s o op' ih w ho
    obtain ⟨won, left, s₁, rfl, h₁⟩ := ih w ho
    exact ⟨won, left ++ [.join op'], s₁, by simp, h₁⟩
  case other =>
    rintro l s o d j c t r' c' ih q hk hd hj hc m hp w rfl
    obtain ⟨won, left, s₁, rfl, h₁⟩ := ih w rfl
    obtain ⟨rfl, -⟩ := turn_of_owner q hk hd hj hc m hp .new
    exact ⟨won, left ++ [.turn j t], s₁, by simp, h₁⟩
  case own =>
    rintro l s o o' c t r' c' ih hs hc m tread w rfl
    cases tread with
    | stay =>
      obtain ⟨won, left, s₁, rfl, h₁⟩ := ih w rfl
      exact ⟨won, left ++ [.turn s₀.callers.length t], s₁, by simp, h₁⟩
    | claim hw ht =>
      subst hw
      obtain rfl := m.turn_of_claiming
      exact ⟨l, [], s, rfl, hs, hc, ht, setPhase_of_eq ht⟩

/-! ## An operation that is unwound

The parts are put together for an operation that comes to a crowd and is unwound there. A close that
is unwound has closed the recording all the same, which is why it is left out. -/

/-- An operation that comes to a crowd and is unwound: at the end of a schedule its caller has just
taken its last step. -/
structure Unwinds (b : Backend) (s₀ : Crowd) (op : Operation) (during : List Event) (s : Crowd) :
    Prop where
  played : (s₀.receive op).play b during = some s
  last : ∃ l t, during = l ++ [.turn s₀.callers.length t]
  unwound : ∃ text, s.callers[s₀.callers.length]? = some (.ended (.unwound text))

/-- What is left of an operation that has been unwound. -/
structure LeavesNoTrace (b : Backend) (s₀ : Crowd) (op : Operation) (during : List Event)
    (s : Crowd) : Prop where
  /-- A close has closed the recording all the same. -/
  closed : op = .close → s.phase = .closed
  /-- A start or a stop has given the recording back as it was when it won its transition. -/
  restored : op = .start ∨ op = .stop → ∃ (w : Transition) (won left : List Event) (s₁ : Crowd),
    w.operation = op ∧ during = won ++ .turn s₀.callers.length .act :: left ∧
    (s₀.receive op).play b won = some s₁ ∧
    s₁.callers[s₀.callers.length]? = some (.claiming w) ∧ s₁.phase = w.source ∧
    s.recording = s₁.recording
  /-- What only reads the session has changed nothing in any step. -/
  unchanged : op.isReading = true → ∀ l t l' s₁ s₂,
    during = l ++ .turn s₀.callers.length t :: l' → (s₀.receive op).play b l = some s₁ →
    s₁.step? b (.turn s₀.callers.length t) = some s₂ → s₂.recording = s₁.recording
  /-- Whoever waits for a transition waits for somebody who is at work. -/
  unawaited : ∀ later s', s.play b later = some s' → s'.phase.isSettled = false →
    ∃ j, j ≠ s₀.callers.length ∧ s'.roles j = .owner s'.phase
  /-- It is as if the operation had not been called, and it will be so for ever. -/
  as_if : op ≠ .close → ∃ others z, s₀.play b others = some z ∧
    (OnlyBy s₀.callers.length during → others = []) ∧ AsIfAway s₀.callers.length s z ∧
    (∀ later s', s.play b later = some s' →
      ∃ later' z', z.play b later' = some z' ∧ AsIfAway s₀.callers.length s' z') ∧
    ∀ later' z', z.play b later' = some z' →
      ∃ later s', s.play b later = some s' ∧ AsIfAway s₀.callers.length s' z'

/-- Who comes with an operation is in it at every moment. -/
theorem serves_of_play (hs : (s₀.receive op).play b during = some s) :
    ∃ c, s.callers[s₀.callers.length]? = some c ∧ c.Serves op := by
  have here : (s₀.receive op).callers[s₀.callers.length]? = some (.begun op) :=
    receive_caller.2 (.inr ⟨rfl, rfl⟩)
  refine play_induction (motive := fun s => ∃ c, s.callers[s₀.callers.length]? = some c ∧
    c.Serves op) hs ⟨_, here, rfl⟩ ?_
  rintro s s' ⟨c, hc, h⟩ step
  cases step with
  | join op' => exact ⟨c, receive_caller.2 (.inl hc), h⟩
  | @turn j d t r' d' hd m =>
    rw [record_caller hd]
    by_cases hj : s₀.callers.length = j
    · subst hj
      obtain rfl := Option.some.inj (hc.symm.trans hd)
      exact ⟨d', if_pos rfl, m.serves h⟩
    · exact ⟨c, by rw [if_neg hj, hc], h⟩

/-- A start or a stop that has been unwound has just left its transition. -/
theorem restored_of_unwinds (q₀ : Orderly s₀.phase s₀.roles) (hu : Unwinds b s₀ op during s)
    (hp : s.phase ≠ .closed) (hop : op = .start ∨ op = .stop) :
    ∃ (w : Transition) (won left : List Event) (s₁ : Crowd),
      w.operation = op ∧ during = won ++ .turn s₀.callers.length .act :: left ∧
      (s₀.receive op).play b won = some s₁ ∧
      s₁.callers[s₀.callers.length]? = some (.claiming w) ∧ s₁.phase = w.source ∧
      s.recording = s₁.recording := by
  obtain ⟨hs, ⟨l, t, rfl⟩, text, hk⟩ := hu
  obtain ⟨s₁, hs₁, hse⟩ := play_concat.1 hs
  obtain ⟨c, r', c', hc, m, rfl⟩ := step?_turn hse
  rw [record_caller hc, if_pos rfl] at hk
  obtain rfl := Option.some.inj hk
  have hp₁ : s₁.phase ≠ .closed := fun h => hp ((Step.of_step? hse).closed h)
  have q₁ : Orderly s₁.phase s₁.roles :=
    play_induction hs₁ (by rw [receive_roles]; exact q₀) fun _ _ q step => step.orderly q
  obtain ⟨d, hd, serves⟩ := serves_of_play hs₁
  obtain rfl := Option.some.inj (hd.symm.trans hc)
  obtain ⟨o, ho, tread⟩ := exists_tread q₁ hp₁ hc m .unwound
  rcases m.cases_unwound rfl (role_ne_releaser q₁ hp₁ hc) with ⟨e, rest, rfl, he⟩ | ⟨w, rfl⟩
  · -- Neither a start nor a stop makes a request that only reads the session.
    have hr : op.isReading = true := by cases e <;> first | exact serves | cases he
    rcases hop with rfl | rfl <;> cases hr
  · cases ho
    cases tread with
    | leave =>
      obtain ⟨won, left, s₂, rfl, h₂⟩ := exists_claim q₀ hs₁ hc .unwinding hp₁
      exact ⟨w, won, left ++ [.turn s₀.callers.length t], s₂, serves, by simp, h₂⟩

/-- An operation that is unwound leaves no trace, unless it is a close or is overtaken by one. -/
theorem unwinding_leaves_no_trace (h : Born r given)
    (hs₀ : play b ⟨r, [], []⟩ before = some s₀) (hu : Unwinds b s₀ op during s)
    (hp : op ≠ .close → s.phase ≠ .closed) : LeavesNoTrace b s₀ op during s := by
  have q₀ := orderly_of_play h hs₀
  have q : Orderly s.phase s.roles :=
    play_induction hu.played (by rw [receive_roles]; exact q₀) fun _ _ q step => step.orderly q
  obtain ⟨text, hk⟩ := hu.unwound
  constructor
  · rintro rfl
    have here : (s₀.receive .close).callers[s₀.callers.length]? = some (.begun .close) :=
      receive_caller.2 (.inr ⟨rfl, rfl⟩)
    refine (closed_of_close here hu.played).resolve_left fun h => ?_
    cases hk.symm.trans h
  · intro hop
    exact restored_of_unwinds q₀ hu (hp (by rcases hop with rfl | rfl <;> simp)) hop
  · rintro hop l t l' s₁ s₂ - hs₁ hs₂
    obtain ⟨c, hc, serves⟩ := serves_of_play hs₁
    obtain ⟨c₁, r', c', hc₁, m, rfl⟩ := step?_turn hs₂
    obtain rfl := Option.some.inj (hc.symm.trans hc₁)
    exact m.eq_of_serves serves hop
  · intro later s' hl hs'
    have q' : Orderly s'.phase s'.roles := play_induction hl q fun _ _ q step => step.orderly q
    have hk' := play_induction
      (motive := fun s => s.callers[s₀.callers.length]? = some (.ended (.unwound text))) hl hk
      fun _ _ hk step => step.ended hk
    obtain ⟨j, hj⟩ := q'.owned hs'
    -- The owner of a transition is somebody else, since a caller at its end owns none.
    refine ⟨j, ?_, hj⟩
    rintro rfl
    cases (roles_eq hk').symm.trans hj
  · intro hop
    obtain ⟨others, z, hz, only, a, hr⟩ := exists_absence q₀ (voices_lt hs₀) hu.played hk .unwound
      (hp hop)
    have away : AsIfAway s₀.callers.length s z := ⟨a, hr⟩
    exact ⟨others, z, hz, only, away, fun later s' hl => away.play hk hl,
      fun later' z' hl => away.play_back hl⟩

/-- The rest of a start on a stopped recording: somebody else loses the transition to it, and then
its first remote call unwinds. -/
def unwoundRestart : List Event :=
  [.turn 0 .act, .join .start, .turn 1 .act, .turn 0 .act, .turn 1 .act, .turn 0 .act,
    .turn 0 (.unwind "cut"), .turn 0 .act]

/-- A restart is contended and then unwound, and the recording is stopped again. -/
theorem unwinding_leaves_no_trace_restart :
    ∃ s, Unwinds (.structured Generation.structured.objectName)
        ⟨(create {} .profile 50000).copy ⟨7⟩ .stopped, [], []⟩ .start unwoundRestart s ∧
      s.callers = [.ended (.unwound "cut"), .begun .start] ∧
      s.recording = (create {} .profile 50000).copy ⟨7⟩ .stopped ∧
      LeavesNoTrace (.structured Generation.structured.objectName)
        ⟨(create {} .profile 50000).copy ⟨7⟩ .stopped, [], []⟩ .start unwoundRestart s := by
  have hu : ∃ s, Unwinds (.structured Generation.structured.objectName)
      ⟨(create {} .profile 50000).copy ⟨7⟩ .stopped, [], []⟩ .start unwoundRestart s ∧
      s.callers = [.ended (.unwound "cut"), .begun .start] ∧
      s.recording = (create {} .profile 50000).copy ⟨7⟩ .stopped :=
    ⟨_, ⟨rfl, ⟨unwoundRestart.dropLast, .act, rfl⟩, "cut", rfl⟩, rfl, rfl⟩
  obtain ⟨s, hu, hc, hr⟩ := hu
  refine ⟨s, hu, hc, hr, unwinding_leaves_no_trace (.cloned _ ⟨7⟩ rfl)
    (show play _ _ [] = some _ from rfl) hu fun _ => ?_⟩
  rw [phase, hr]
  decide

end Crowd

end RemoteRecorder.Recording
