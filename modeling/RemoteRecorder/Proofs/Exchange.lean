import RemoteRecorder.Exchange

/-!
# RemoteRecorder.Proofs.Exchange

**What an exchange can come to**, whatever the target replies.
-/

namespace RemoteRecorder

namespace Exchange

variable {σ α : Type}

/-- The results with which an exchange can end. -/
inductive MayEnd : Exchange σ α → α → Prop where
  | done (a : α) : MayEnd (done a) a
  | note {n next a} (h : MayEnd next a) : MayEnd (note n next) a
  | keep {s next a} (h : MayEnd next a) : MayEnd (keep s next) a
  | call {request next a} (reply : Reply) (h : MayEnd (next reply) a) :
      MayEnd (call request next) a

/-- Every exchange can end. -/
theorem exists_mayEnd (e : Exchange σ α) : ∃ a, e.MayEnd a := by
  induction e with
  | done a => exact ⟨a, .done a⟩
  | note n next ih =>
    obtain ⟨a, h⟩ := ih
    exact ⟨a, .note h⟩
  | keep s next ih =>
    obtain ⟨a, h⟩ := ih
    exact ⟨a, .keep h⟩
  | call request next ih =>
    obtain ⟨a, h⟩ := ih (.ok .void)
    exact ⟨a, .call _ h⟩

/-! ## The calls of an exchange

Much can be said of the calls of a program before any of them has an answer: they are of some kind,
whatever the target replies. Such a property is passed on by whatever puts programs together, so it
is shown of a program as it is written. -/

/-- Whether all calls that an exchange can come to are of a certain kind. -/
def AllCalls (P : Call → Prop) : Exchange σ α → Prop
  | done _ => True
  | note _ next => next.AllCalls P
  | keep _ next => next.AllCalls P
  | call request next => P request ∧ ∀ reply, (next reply).AllCalls P

variable {P : Call → Prop} {β : Type}

theorem allCalls_bind {e : Exchange σ α} {f : α → Exchange σ β} (he : e.AllCalls P)
    (hf : ∀ a, (f a).AllCalls P) : (e >>= f).AllCalls P := by
  induction e with
  | done a => exact hf a
  | note n next ih => exact ih he
  | keep s next ih => exact ih he
  | call request next ih => exact ⟨he.1, fun reply => ih reply (he.2 reply)⟩

end Exchange

namespace Action

variable {σ α β : Type} {P : Call → Prop}

/-- Whether all calls of an action are of a certain kind. -/
def AllCalls (P : Call → Prop) (a : Action σ α) : Prop := a.run.AllCalls P

theorem allCalls_bind {a : Action σ α} {f : α → Action σ β} (ha : a.AllCalls P)
    (hf : ∀ x, (f x).AllCalls P) : (a >>= f).AllCalls P := by
  unfold AllCalls
  rw [ExceptT.run_bind]
  refine Exchange.allCalls_bind ha ?_
  intro result
  cases result with
  | ok x => exact hf x
  | error e => trivial

/-- The calls of an action that may fail, and of what is done then. -/
theorem allCalls_tryCatch {a : Action σ α} {f : Error → Action σ α} (ha : a.AllCalls P)
    (hf : ∀ e, (f e).AllCalls P) : (tryCatch a f).AllCalls P := by
  unfold AllCalls
  rw [ExceptT.run_tryCatch]
  refine Exchange.allCalls_bind ha ?_
  intro result
  cases result with
  | ok x => trivial
  | error e => exact hf e

end Action

end RemoteRecorder
