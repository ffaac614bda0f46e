import RemoteRecorder.Script

/-!
# RemoteRecorder.Proofs.Encounter

**Encounters**: what comes of an exchange with a certain target.

* A `Target` says how a call comes back, given all the calls before it. What is shown for
  every target holds for every script of answers, also for one that depends on the calls.
* `Exchange.meet` follows an exchange to its end, or to the call that unwinds it, and
  keeps the calls that were made.
-/

namespace RemoteRecorder

/-- A remote call, and how it came back. -/
abbrev Contact := Call × Comeback

/-- How a call comes back, given the calls before it. -/
abbrev Target := List Contact → Call → Comeback

/-- A target that replies to every call. -/
def Target.replying (reply : List Contact → Call → Reply) : Target :=
  fun past c => .reply (reply past c)

/-- How an operation ends that makes one call and does nothing else. -/
def Comeback.ending (operation : String) : Comeback → Except String (Except Error Value)
  | .reply answer => .ok (answer.mapError (Error.ofFailure operation))
  | .unwinding text => .error text

/-- What has come of an exchange on an object. -/
structure Encounter (σ α : Type) where
  /-- The last state that the object was given. -/
  state? : Option σ := none
  /-- The calls of the exchange. -/
  log : List Contact := []
  /-- The result, or the text with which a call has unwound the exchange. -/
  ending : Except String α

namespace Encounter

variable {σ α : Type}

/-- An encounter that begins with a state for the object. -/
def keeping (s : σ) (e : Encounter σ α) : Encounter σ α :=
  { e with state? := e.state?.or (some s) }

/-- An encounter that begins with a call. -/
def calling (contact : Contact) (e : Encounter σ α) : Encounter σ α :=
  { e with log := contact :: e.log }

/-- The state of the object after an encounter. -/
def after (e : Encounter σ α) (s : σ) : σ := e.state?.getD s

@[simp] theorem after_keeping (e : Encounter σ α) (s s' : σ) :
    (e.keeping s').after s = e.after s' := by
  unfold after keeping
  cases e.state? <;> rfl

end Encounter

namespace Exchange

variable {σ α : Type}

/-- An exchange with a target, after the calls in `past`. -/
def meet (target : Target) (past : List Contact) : Exchange σ α → Encounter σ α
  | done a => { ending := .ok a }
  | note _ next => next.meet target past
  | keep s next => (next.meet target past).keeping s
  | call c next =>
    match target past c with
    | .reply reply =>
      ((next reply).meet target (past ++ [(c, .reply reply)])).calling (c, .reply reply)
    | .unwinding text => { log := [(c, .unwinding text)], ending := .error text }

variable {c : Call} {next : Reply → Exchange σ α} {target : Target} {past : List Contact}

@[simp] theorem meet_note (n : Notice) (e : Exchange σ α) :
    (note n e).meet target past = e.meet target past := rfl

@[simp] theorem meet_keep (s : σ) (e : Exchange σ α) :
    (keep s e).meet target past = (e.meet target past).keeping s := rfl

theorem meet_of_reply {reply : Reply} (h : target past c = .reply reply) :
    (call c next).meet target past =
      ((next reply).meet target (past ++ [(c, .reply reply)])).calling (c, .reply reply) := by
  simp [meet, h]

theorem meet_of_unwinding {text : String} (h : target past c = .unwinding text) :
    (call c next).meet target past =
      { log := [(c, .unwinding text)], ending := .error text } := by
  simp [meet, h]

/-- Each call comes back as the target says. -/
theorem back_of_meet {e : Exchange σ α} {before after : List Contact} {back : Comeback}
    (h : (e.meet target past).log = before ++ (c, back) :: after) :
    back = target (past ++ before) c := by
  induction e generalizing past before with
  | done a => simp [meet] at h
  | note n next ih => exact ih h
  | keep s next ih => exact ih h
  | call request next ih =>
    cases hb : target past request with
    | unwinding text =>
      rw [meet_of_unwinding hb] at h
      obtain ⟨rfl, ⟨rfl, rfl⟩, -⟩ :
          before = [] ∧ (c = request ∧ back = .unwinding text) ∧ after = [] := by
        simpa [List.singleton_eq_append_iff] using h
      simpa using hb.symm
    | reply reply =>
      rw [meet_of_reply hb] at h
      cases before with
      | nil =>
        obtain ⟨rfl, rfl⟩ := Prod.mk.inj (List.cons.inj h).1
        simpa using hb.symm
      | cons contact before =>
        obtain ⟨rfl, hrest⟩ := List.cons.inj h
        simpa using ih reply hrest

/-- A call to a target that replies to every call. -/
theorem meet_replying {reply : List Contact → Call → Reply} {answer : Reply}
    (h : reply past c = answer) :
    (call c next).meet (.replying reply) past =
      ((next answer).meet (.replying reply) (past ++ [(c, .reply answer)])).calling
        (c, .reply answer) :=
  meet_of_reply (congrArg Comeback.reply h)

end Exchange

end RemoteRecorder
