import RemoteRecorder.Proofs.Recording.Dialogue
import RemoteRecorder.Proofs.Recording.Role

/-!
# RemoteRecorder.Proofs.Recording.Crowd

**Many callers at once**: any number of callers of one recording, whose steps interleave
in any order.

* A `Crowd` is the recording, its callers in the order in which they came, and all they
  have done so far. `Crowd.play` runs a schedule, which says who takes the next step.
* What one step preserves a schedule preserves (`play_induction`), and the callers of a
  crowd are `Orderly` at every moment (`orderly_of_play`).
-/

namespace RemoteRecorder.Recording

/-- A recording that nobody has worked on: a new one, or a clone. With a clone comes the
number of its session. -/
inductive Born : Recording → Option SessionId → Prop where
  | created (options : Options) (configuration : Configuration) (blockSize : Int64) :
      Born (create options configuration blockSize) none
  | cloned (source : Recording) (id : SessionId) {state : State}
      (h : state.hasRemoteData = true) : Born (source.copy id state) (some id)

/-- Whoever makes a recording leaves it settled, and not closed. -/
theorem Born.phase {r : Recording} {given : Option SessionId} (h : Born r given) :
    r.cell.phase = .new ∨
      (r.cell.phase = .active ∨ r.cell.phase = .stopped) ∧ given = some r.cell.id := by
  cases h with
  | created o c size => exact .inl rfl
  | @cloned r id state h =>
    refine .inr ⟨?_, rfl⟩
    cases state with
    | active => exact .inl rfl
    | stopped => exact .inr rfl
    | new => cases h
    | closed => cases h

/-! ## Crowds

Nothing is assumed about when threads run. A schedule names the caller who takes the next step, and
a theorem about all schedules is one about all interleavings. The record of what has been done is
kept for the sake of the theorems alone: no step looks at it. -/

/-- One step of a caller, after it has been taken. -/
structure Deed where
  /-- Whose step it was. -/
  who : Nat
  before : Caller
  after : Caller

/-- What was said in a step. -/
def Deed.remarks (d : Deed) : List Remark := d.before.remarks d.after

/-- A recording, the callers who work on it or have worked on it, and what they have done. -/
structure Crowd where
  recording : Recording
  callers : List Caller := []
  deeds : List Deed := []

namespace Crowd

/-- What happens next. -/
inductive Event where
  /-- Somebody comes with an operation. -/
  | join (operation : Operation)
  /-- A caller takes a step. -/
  | turn (who : Nat) (turn : Caller.Turn)

/-- The crowd with one caller more. -/
def receive (s : Crowd) (operation : Operation) : Crowd :=
  { s with callers := s.callers ++ [.begun operation] }

/-- The crowd after a step of a caller, which goes on record. -/
def record (s : Crowd) (k : Nat) (c : Caller) (r' : Recording) (c' : Caller) : Crowd :=
  ⟨r', s.callers.set k c', s.deeds ++ [⟨k, c, c'⟩]⟩

/-- The crowd after an event, if that can happen. -/
def step? (b : Backend) (s : Crowd) : Event → Option Crowd
  | .join operation => some (s.receive operation)
  | .turn k t => do
    let c ← s.callers[k]?
    let (r', c') ← c.take? b s.recording t
    return s.record k c r' c'

/-- Runs a schedule. -/
def play (b : Backend) : Crowd → List Event → Option Crowd
  | s, [] => some s
  | s, e :: schedule => do
    let s ← s.step? b e
    s.play b schedule

/-- All that a caller has said and has been told. -/
def said (s : Crowd) (k : Nat) : List Remark :=
  s.deeds.flatMap fun d => if d.who = k then d.remarks else []

/-- All that has been said, in the order in which it was. -/
def talk (s : Crowd) : List Remark := s.deeds.flatMap Deed.remarks

/-- The roles of the callers. Who has not come yet is a bystander. -/
def roles (s : Crowd) (k : Nat) : Role := (s.callers[k]?).elim .bystander Caller.role

/-- The phase of the recording. -/
abbrev phase (s : Crowd) : Phase := s.recording.cell.phase

/-! ## Single steps

An event either brings somebody new or lets somebody take a step. `Step` forgets which event it
was, and this is the form in which invariants are proved: one case for the newcomer and one for a
move. -/

variable {b : Backend} {s s' : Crowd} {k : Nat}

/-- What an event can do. -/
inductive Step (b : Backend) (s : Crowd) : Crowd → Prop where
  | join (operation : Operation) : Step b s (s.receive operation)
  | turn {k c t r' c'} (hc : s.callers[k]? = some c) (m : c.Move b s.recording t r' c') :
      Step b s (s.record k c r' c')

theorem step?_turn {t : Caller.Turn} (h : s.step? b (.turn k t) = some s') :
    ∃ c r' c', s.callers[k]? = some c ∧ c.Move b s.recording t r' c' ∧
      s' = s.record k c r' c' := by
  obtain ⟨c, hc, h⟩ := Option.bind_eq_some_iff.1 h
  obtain ⟨⟨r', c'⟩, hm, h⟩ := Option.bind_eq_some_iff.1 h
  exact ⟨c, r', c', hc, Caller.take?_eq_some_iff.1 hm, (Option.some.inj h).symm⟩

theorem Step.of_step? {e : Event} (h : s.step? b e = some s') : Step b s s' := by
  cases e with
  | join operation =>
    obtain rfl := Option.some.inj h
    exact .join operation
  | turn k t =>
    obtain ⟨c, r', c', hc, m, rfl⟩ := step?_turn h
    exact .turn hc m

theorem play_cons {e : Event} {schedule : List Event} :
    s.play b (e :: schedule) = some s' ↔
      ∃ s₁, s.step? b e = some s₁ ∧ s₁.play b schedule = some s' :=
  Option.bind_eq_some_iff

/-- One schedule after the other. -/
theorem play_append {s₁ : Crowd} {schedule later : List Event} (h : s.play b schedule = some s₁)
    (hl : s₁.play b later = some s') : s.play b (schedule ++ later) = some s' := by
  induction schedule generalizing s with
  | nil =>
    obtain rfl := Option.some.inj h
    exact hl
  | cons e schedule ih =>
    obtain ⟨s₂, h₂, h⟩ := play_cons.1 h
    exact play_cons.2 ⟨s₂, h₂, ih h⟩

theorem play_concat {e : Event} {schedule : List Event} :
    s.play b (schedule ++ [e]) = some s' ↔
      ∃ s₁, s.play b schedule = some s₁ ∧ s₁.step? b e = some s' := by
  induction schedule generalizing s with
  | nil => simp [play]
  | cons e₀ schedule ih =>
    simp only [List.cons_append, play_cons, ih]
    constructor
    · rintro ⟨s₂, h₂, s₁, h₁, he⟩
      exact ⟨s₁, ⟨s₂, h₂, h₁⟩, he⟩
    · rintro ⟨s₁, ⟨s₂, h₂, h₁⟩, he⟩
      exact ⟨s₂, h₂, s₁, h₁, he⟩

/-- What every step preserves a schedule preserves. This is the only induction over schedules; each
invariant comes with its own lemma about a step. -/
theorem play_induction {motive : Crowd → Prop} {schedule : List Event}
    (h : s.play b schedule = some s') (start : motive s)
    (step : ∀ s s', motive s → Step b s s' → motive s') : motive s' := by
  induction schedule generalizing s with
  | nil =>
    obtain rfl := Option.some.inj h
    exact start
  | cons e schedule ih =>
    obtain ⟨s₁, h₁, h⟩ := play_cons.1 h
    exact ih h (step s s₁ start (.of_step? h₁))

/-! ## Callers after a step

The lemmas here say what a step changes and what it leaves. They are used by every invariant below,
so that none of them has to deal with positions in lists. -/

section Record

variable {c c' : Caller} {r' : Recording}

theorem record_caller (hc : s.callers[k]? = some c) (j : Nat) :
    (s.record k c r' c').callers[j]? = if j = k then some c' else s.callers[j]? := by
  obtain ⟨hk, -⟩ := List.getElem?_eq_some_iff.1 hc
  simp only [record, List.getElem?_set]
  by_cases hj : j = k
  · simp [hj, hk]
  · simp [hj, Ne.symm hj]

theorem roles_eq (hc : s.callers[k]? = some c) : s.roles k = c.role := by
  simp [roles, hc]

theorem record_roles_self (hc : s.callers[k]? = some c) :
    (s.record k c r' c').roles k = c'.role := by
  simp [roles, record_caller hc]

theorem record_roles_of_ne (hc : s.callers[k]? = some c) (j : Nat) (hj : j ≠ k) :
    (s.record k c r' c').roles j = s.roles j := by
  simp [roles, record_caller hc, hj]

/-- A step of a caller, seen from outside: a shift of its role, with the roles of the others
unchanged. -/
theorem record_shift (hc : s.callers[k]? = some c) {t : Caller.Turn}
    (m : c.Move b s.recording t r' c') :
    Shift s.recording.cell (s.roles k) r'.cell ((s.record k c r' c').roles k) := by
  rw [roles_eq hc, record_roles_self hc]
  exact m.shift

end Record

/-- A caller of a crowd that has been joined was there before, or has just come. -/
theorem receive_caller {operation : Operation} {j : Nat} {c : Caller} :
    (s.receive operation).callers[j]? = some c ↔
      s.callers[j]? = some c ∨ j = s.callers.length ∧ c = .begun operation := by
  simp only [receive, List.getElem?_append, List.getElem?_singleton]
  split
  · rename_i hj
    simp [Nat.ne_of_lt hj]
  · rename_i hj
    have hn : s.callers[j]? = none := List.getElem?_eq_none (by omega)
    have hz : j - s.callers.length = 0 ↔ j = s.callers.length := by omega
    simp only [hn, hz]
    by_cases h : j = s.callers.length <;> simp [h, eq_comm]

/-- Who comes is a bystander, as he was before he came. So nobody has to look at newcomers in order
to know the roles. -/
theorem receive_roles (s : Crowd) (operation : Operation) :
    (s.receive operation).roles = s.roles := by
  funext j
  simp only [roles, receive, List.getElem?_append, List.getElem?_singleton]
  split
  · rfl
  · rename_i hj
    rw [List.getElem?_eq_none (Nat.le_of_not_lt hj)]
    split <;> rfl

theorem said_record (s : Crowd) (k : Nat) (c : Caller) (r' : Recording) (c' : Caller) (j : Nat) :
    (s.record k c r' c').said j = s.said j ++ if j = k then c.remarks c' else [] := by
  simp only [said, record, List.flatMap_append, List.flatMap_cons, List.flatMap_nil,
    List.append_nil, Deed.remarks, eq_comm (a := k)]

theorem talk_record (s : Crowd) (k : Nat) (c : Caller) (r' : Recording) (c' : Caller) :
    (s.record k c r' c').talk = s.talk ++ c.remarks c' := by
  simp [talk, record, Deed.remarks]

/-! ## Order

The two facts about phases that all other invariants lean on: the callers are in order, and a close
is final. -/

/-- No event disturbs the order among callers: a newcomer is a bystander, and a move is a shift. -/
theorem Step.orderly (h : Step b s s') (o : Orderly s.phase s.roles) :
    Orderly s'.phase s'.roles := by
  cases h with
  | join operation =>
    rw [receive_roles]
    exact o
  | turn hc m => exact o.shift (record_shift hc m) (record_roles_of_ne hc)

theorem orderly_of_born {r : Recording} {given : Option SessionId} (h : Born r given) :
    Orderly r.cell.phase (roles ⟨r, [], []⟩) := by
  refine .of_bystanders ?_ fun k => rfl
  rcases h.phase with hp | ⟨hp | hp, -⟩ <;> simp [hp, Phase.isSettled]

/-- The callers of a recording are in order at every moment. -/
theorem orderly_of_play {r : Recording} {given : Option SessionId} (h : Born r given)
    {schedule : List Event} (hs : play b ⟨r, [], []⟩ schedule = some s) :
    Orderly s.phase s.roles :=
  play_induction hs (orderly_of_born h) fun _ _ o step => step.orderly o

theorem Step.closed (h : Step b s s') (hp : s.phase = .closed) : s'.phase = .closed := by
  cases h with
  | join operation => exact hp
  | turn hc m => exact m.closed hp

/-- A closed recording is closed for ever. -/
theorem closed_of_play (hp : s.phase = .closed) {schedule : List Event}
    (hs : s.play b schedule = some s') : s'.phase = .closed :=
  play_induction hs hp fun _ _ hp step => step.closed hp

/-- Who is at its end stays there. -/
theorem Step.ended {o : Outcome Yield} (h : Step b s s') (hk : s.callers[k]? = some (.ended o)) :
    s'.callers[k]? = some (.ended o) := by
  cases h with
  | join operation => exact receive_caller.2 (.inl hk)
  | @turn j c t r' c' hc m =>
    by_cases hj : k = j
    · subst hj
      obtain rfl := Option.some.inj (hk.symm.trans hc)
      cases m
    · rw [record_caller hc, if_neg hj, hk]

/-- Who comes to close a recording closes it in his first step. -/
theorem closed_of_close (hk : s.callers[k]? = some (.begun .close))
    {schedule : List Event} (hs : s.play b schedule = some s') :
    s'.callers[k]? = some (.begun .close) ∨ s'.phase = .closed := by
  refine play_induction
    (motive := fun s => s.callers[k]? = some (.begun .close) ∨ s.phase = .closed) hs (.inl hk) ?_
  rintro s s' (hk | hp) step
  · cases step with
    | join operation => exact .inl (receive_caller.2 (.inl hk))
    | @turn j c t r' c' hc m =>
      by_cases hj : k = j
      · subst hj
        obtain rfl := Option.some.inj (hk.symm.trans hc)
        cases m with
        | close => exact .inr rfl
        | look hop _ => exact (hop rfl).elim
      · exact .inl (by rw [record_caller hc, if_neg hj, hk])
  · exact .inr (step.closed hp)

end Crowd

end RemoteRecorder.Recording
