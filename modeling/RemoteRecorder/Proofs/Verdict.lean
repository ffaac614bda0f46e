import RemoteRecorder.Proofs.Following

/-!
# RemoteRecorder.Proofs.Verdict

**Whose fault an error is**: the call that decides how an operation ends.

* A call fails if it is refused, or answered by something that its operation cannot use. The
  `decider` of an operation is the first of its calls that fails, clean-up aside.
* `Blames` says that a result is what the decider makes of it: the error that the decider causes,
  or a success if there is none.
-/

namespace RemoteRecorder

/-- Whether an answer to a read is a block, or says that there are no more. -/
def Value.isBlock : Value → Bool
  | bytes _ | void => true
  | _ => false

/-- Whether the operation of a call can use an answer. -/
def Call.accepts (c : Call) (v : Value) : Bool :=
  if c.operation ∈ ["newRecording", "cloneRecording", "openStream"] then v.long?.isSome
  else if c.operation = "jfrStart" then (v.text?.bind Backend.Diagnostic.startedId?).isSome
  else if c.operation = "readStream" then v.isBlock
  else true

namespace Contact

/-- Whether a call has been refused, or answered by something that its operation cannot use. -/
def fails : Contact → Bool
  | (_, .reply (.error _)) => true
  | (c, .reply (.ok v)) => !c.accepts v
  | (_, .unwinding _) => false

/-- Whether an error is the one of a failed call. -/
def Causes : Contact → Error → Prop
  | (c, .reply (.error f)), e => e = .ofFailure c.operation f
  | (c, .reply (.ok _)), e => ∃ text, e = .unexpected c.operation text
  | (_, .unwinding _), _ => False

end Contact

/-- The first call that has failed, if it is not one that only clears up. -/
def decider (clearsUp : Call → Bool) (heard : List Contact) : Option Contact :=
  heard.find? fun contact => !clearsUp contact.1 && contact.fails

/-- The error of a result that is one. -/
def errorOf? {α : Type} : Except Error α → Option Error
  | .ok _ => none
  | .error e => some e

/-- Whether a result is what the first failed call makes of it. -/
def Blames {α : Type} (clearsUp : Call → Bool) (heard : List Contact) (x : Except Error α) : Prop :=
  Option.Rel Contact.Causes (decider clearsUp heard) (errorOf? x)

section Decider

variable {clearsUp : Call → Bool} {heard : List Contact} {c : Call} {back : Comeback} {α β : Type}

/-- What clears up decides nothing. -/
theorem decider_concat_of_clearsUp (h : clearsUp c = true) :
    decider clearsUp (heard ++ [(c, back)]) = decider clearsUp heard := by
  simp [decider, List.find?_append, h]

theorem decider_concat_of_not_fails (h : Contact.fails (c, back) = false) :
    decider clearsUp (heard ++ [(c, back)]) = decider clearsUp heard := by
  simp [decider, List.find?_append, h]

/-- The first call that fails decides. -/
theorem decider_concat_of_fails (h : decider clearsUp heard = none) (hc : clearsUp c = false)
    (hf : Contact.fails (c, back) = true) :
    decider clearsUp (heard ++ [(c, back)]) = some (c, back) := by
  unfold decider at h ⊢
  rw [List.find?_append, h]
  simp [hc, hf]

theorem blames_ok {a : α} (h : decider clearsUp heard = none) :
    Blames clearsUp heard (.ok a : Except Error α) := by
  rw [Blames, h]
  exact .none

theorem blames_error {e : Error} {contact : Contact} (h : decider clearsUp heard = some contact)
    (hc : contact.Causes e) : Blames clearsUp heard (.error e : Except Error α) := by
  rw [Blames, h]
  exact .some hc

theorem decider_of_blames_ok {a : α} (h : Blames clearsUp heard (.ok a : Except Error α)) :
    decider clearsUp heard = none := by
  unfold Blames at h
  generalize decider clearsUp heard = contact? at h
  cases h
  rfl

/-- What matters of a result is whether it is an error, and which. -/
theorem blames_congr {x : Except Error α} {y : Except Error β} (h : errorOf? x = errorOf? y)
    (hx : Blames clearsUp heard x) : Blames clearsUp heard y := by
  unfold Blames at hx ⊢
  rw [← h]
  exact hx

end Decider

/-! ## What errors tell

An error is read back to the call that it tells of. This needs more than that the error is caused by
the call: it has to be shown as well that no other kind of failure comes to the same error. The
three ways in which a call fails are told apart by the error, and an error of no call is none of the
three. -/

/-- Whether an error that an operation reports, if it does, tells exactly how the call failed that
decided about it, if one did. -/
structure Tells (decided? : Option Contact) (e? : Option Error) : Prop where
  transport : ∀ text, e? = some (.transport text) ↔
    ∃ call, decided? = some (call, .reply (.error (.communication text)))
  refusal : ∀ context f, e? = some (.protocol context (.remote f)) ↔
    (∀ text, f ≠ .communication text) ∧
      ∃ call, decided? = some (call, .reply (.error f)) ∧ call.operation = context
  unusable : ∀ context, (∃ text, e? = some (.protocol context (.unexpectedReply text))) ↔
    ∃ call v, decided? = some (call, .reply (.ok v)) ∧ call.accepts v = false ∧
      call.operation = context

theorem tells_refusal (call : Call) (f : TransportFailure) :
    Tells (some (call, .reply (.error f))) (some (.ofFailure call.operation f)) := by
  cases f with
  | communication text =>
    refine ⟨by simp [Error.ofFailure], ?_, by simp [Error.ofFailure]⟩
    intro context f
    constructor
    · simp [Error.ofFailure]
    · rintro ⟨hf, call', h, -⟩
      obtain ⟨-, rfl⟩ : call = call' ∧ .communication text = f := by simpa using h
      exact (hf text rfl).elim
  | notFound text | invocation text =>
    refine ⟨by simp [Error.ofFailure], ?_, by simp [Error.ofFailure]⟩
    intro context f
    constructor
    · intro h
      obtain ⟨rfl, rfl⟩ := by simpa [Error.ofFailure] using h
      exact ⟨by simp, call, rfl, rfl⟩
    · rintro ⟨-, call', h, rfl⟩
      obtain ⟨rfl, rfl⟩ : call = call' ∧ _ = f := by simpa using h
      rfl

theorem tells_unusable {call : Call} {v : Value} (h : call.accepts v = false) (text : String) :
    Tells (some (call, .reply (.ok v))) (some (.unexpected call.operation text)) := by
  refine ⟨by simp [Error.unexpected], by simp [Error.unexpected], ?_⟩
  intro context
  constructor
  · rintro ⟨text', ht⟩
    obtain ⟨rfl, -⟩ : call.operation = context ∧ text = text' := by
      simpa [Error.unexpected] using ht
    exact ⟨call, v, rfl, h, rfl⟩
  · rintro ⟨call', v', hc, -, rfl⟩
    obtain ⟨rfl, -⟩ : call = call' ∧ v = v' := by simpa using hc
    exact ⟨text, rfl⟩

/-- An error that no call has caused is none of those that tell of a call. -/
theorem tells_none {e? : Option Error} (ht : ∀ text, e? ≠ some (.transport text))
    (hp : ∀ context cause, e? ≠ some (.protocol context cause)) : Tells none e? :=
  ⟨by simp [ht], by simp [hp], by simp [hp]⟩

/-- The error of the call that decides tells how it has failed. -/
theorem tells_of_causes {clearsUp : Call → Bool} {heard : List Contact} {e? : Option Error}
    (h : Option.Rel Contact.Causes (decider clearsUp heard) e?) :
    Tells (decider clearsUp heard) e? := by
  cases hd : decider clearsUp heard with
  | none =>
    rw [hd] at h
    cases h
    exact tells_none nofun nofun
  | some contact =>
    have fails : contact.fails = true := by
      have found := List.find?_some hd
      simp only [Bool.and_eq_true] at found
      exact found.2
    rw [hd] at h
    cases h with
    | some hc =>
      obtain ⟨call, back⟩ := contact
      cases back with
      | unwinding text => exact hc.elim
      | reply reply =>
        cases reply with
        | error f =>
          obtain rfl := hc
          exact tells_refusal call f
        | ok v =>
          obtain ⟨text, rfl⟩ := hc
          exact tells_unusable (by simpa [Contact.fails] using fails) text

/-! ## Replies

To most requests belongs one call, and its reply decides. What the request makes of the reply is
compared here with what the call accepts. -/

/-- Whether a result is what a reply to a call leads to. -/
def Call.Yields {α : Type} (c : Call) (reply : Reply) (x : Except Error α) : Prop :=
  match reply with
  | .error f => x = .error (.ofFailure c.operation f)
  | .ok v =>
    if c.accepts v then errorOf? x = none else ∃ text, x = .error (.unexpected c.operation text)

section Yields

variable {clearsUp : Call → Bool} {heard : List Contact} {c : Call} {reply : Reply} {α β : Type}

/-- A single call is what its result is blamed on. -/
theorem blames_of_yields {x : Except Error α} (h : decider clearsUp heard = none)
    (hc : clearsUp c = false) (hy : c.Yields reply x) :
    Blames clearsUp (heard ++ [(c, .reply reply)]) x := by
  cases reply with
  | error f =>
    obtain rfl := hy
    exact blames_error (decider_concat_of_fails h hc rfl) rfl
  | ok v =>
    cases ha : c.accepts v with
    | true =>
      have hx : errorOf? x = none := by simpa [Call.Yields, ha] using hy
      refine blames_congr (x := .ok ()) hx.symm (blames_ok ?_)
      rw [decider_concat_of_not_fails (by simp [Contact.fails, ha]), h]
    | false =>
      obtain ⟨text, rfl⟩ : ∃ text, x = .error (.unexpected c.operation text) := by
        simpa [Call.Yields, ha] using hy
      exact blames_error (decider_concat_of_fails h hc (by simp [Contact.fails, ha])) ⟨text, rfl⟩

/-- Where any answer will do, only a refusal is an error. -/
theorem yields_of_accepts (ha : ∀ v, c.accepts v = true) (f : Value → α) :
    c.Yields reply ((reply.mapError (Error.ofFailure c.operation)).map f) := by
  cases reply with
  | error e => rfl
  | ok v =>
    have answered :
        errorOf? (((Except.ok v).mapError (Error.ofFailure c.operation)).map f) = none := rfl
    simp [Call.Yields, ha, answered]

theorem Call.Yields.map {x : Except Error α} (h : c.Yields reply x) (f : α → β) :
    c.Yields reply (x.map f) := by
  cases reply with
  | error e =>
    obtain rfl := h
    rfl
  | ok v =>
    cases ha : c.accepts v with
    | true =>
      cases x with
      | ok a => simp [Call.Yields, ha, Except.map, errorOf?]
      | error e => simp [Call.Yields, ha, errorOf?] at h
    | false =>
      obtain ⟨text, rfl⟩ : ∃ text, x = .error (.unexpected c.operation text) := by
        simpa [Call.Yields, ha] using h
      simp only [Call.Yields, ha, Except.map]
      exact ⟨text, rfl⟩

end Yields

end RemoteRecorder
