import RemoteRecorder.Proofs.Encounter

/-!
# RemoteRecorder.Proofs.Following

**Following an exchange** through all replies it can get, with the calls so far kept in mind.

`Exchange.Follows C K R past` says of an exchange that sets out after the calls in `past`: each
call it comes to is as it should be (`C`), each state it sets (`K`), and each result (`R`). What
is asked of a call and of a result may depend on the calls before it.
-/

namespace RemoteRecorder

namespace Exchange

variable {σ α β : Type} {C C' : List Contact → Call → Prop} {K K' : σ → Prop}
  {R R' : List Contact → α → Prop} {S : List Contact → β → Prop} {past : List Contact}

/-- Whether all that an exchange can come to is as it should be. -/
def Follows (C : List Contact → Call → Prop) (K : σ → Prop) (R : List Contact → α → Prop) :
    List Contact → Exchange σ α → Prop
  | past, done a => R past a
  | past, note _ next => next.Follows C K R past
  | past, keep s next => K s ∧ next.Follows C K R past
  | past, call c next =>
    C past c ∧ ∀ reply, (next reply).Follows C K R (past ++ [(c, .reply reply)])

/-- Less may be asked of an exchange. -/
theorem Follows.imp {e : Exchange σ α} (h : e.Follows C K R past)
    (hC : ∀ past c, C past c → C' past c) (hK : ∀ s, K s → K' s)
    (hR : ∀ past a, R past a → R' past a) : e.Follows C' K' R' past := by
  induction e generalizing past with
  | done a => exact hR past a h
  | note n next ih => exact ih h
  | keep s next ih => exact ⟨hK s h.1, ih h.2⟩
  | call c next ih => exact ⟨hC past c h.1, fun reply => ih reply (h.2 reply)⟩

/-- What follows an exchange sets out after its calls, and with its result. -/
theorem Follows.bind {e : Exchange σ α} {f : α → Exchange σ β} (h : e.Follows C K R past)
    (hf : ∀ past a, R past a → (f a).Follows C K S past) : (e >>= f).Follows C K S past := by
  induction e generalizing past with
  | done a => exact hf past a h
  | note n next ih => exact ih h
  | keep s next ih => exact ⟨h.1, ih h.2⟩
  | call c next ih => exact ⟨h.1, fun reply => ih reply (h.2 reply)⟩

end Exchange

namespace Action

variable {σ α β : Type} {C : List Contact → Call → Prop} {K : σ → Prop}
  {R : List Contact → Except Error α → Prop} {S : List Contact → Except Error β → Prop}
  {past : List Contact}

/-- Actions may be put together; an error ends both. -/
theorem follows_bind {a : Action σ α} {f : α → Action σ β} (h : a.run.Follows C K R past)
    (ok : ∀ past x, R past (.ok x) → (f x).run.Follows C K S past)
    (error : ∀ past e, R past (.error e) → S past (.error e)) :
    (a >>= f).run.Follows C K S past := by
  rw [ExceptT.run_bind]
  refine h.bind ?_
  intro past result hr
  cases result with
  | ok x => exact ok past x hr
  | error e => exact error past e hr

end Action

end RemoteRecorder
