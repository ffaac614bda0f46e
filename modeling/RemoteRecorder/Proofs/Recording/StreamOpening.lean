import RemoteRecorder.Proofs.Recording.Addressing

/-!
# RemoteRecorder.Proofs.Recording.StreamOpening

**Opening a stream over a stopped recording** of a target with a recorder object: one call, with the
number of the recording and a table of what restricts the data.

`Caller.Opens` says where such a caller stands, and which calls have come back to it by then. It
relies on the recording staying as it is only until its call has begun (`Move.opens`).
-/

namespace RemoteRecorder.Recording

open Backend.Structured (invokeForNumber_run)

/-- The call that opens a stream. -/
def streamCall (object : ObjectName) (id : SessionId) (request : StreamRequest) : Call :=
  ⟨object, "openStream", [.ofId id, .ofMap request.toMap]⟩

namespace Caller

variable {object : ObjectName} {r₀ r r' : Recording} {since till : Option Instant}
  {size : Option Int64} {heard : List Contact} {c c' : Caller} {t : Turn}

/-- Where a caller stands that has found a recording as it was, `r₀`, and opens a stream over it,
and what it has heard by then. `left` steps are left until its call begins. -/
inductive Opens (object : ObjectName) (r₀ : Recording) (since till : Option Instant)
    (size : Option Int64) : Nat → List Contact → Caller → Prop
  | begun : Opens object r₀ since till size 3 [] (begun (.openStream since till size))
  | fetching : Opens object r₀ since till size 2 []
      (fetching (.openStream ⟨since, till, size.getD r₀.blockSize⟩))
  | asking {id request n next} (h : ∀ reply, ∃ x, next reply = .done x) :
      Opens object r₀ since till size 1 [] (asking (.openStream id request)
        (.note n (.call (streamCall object r₀.id ⟨since, till, size.getD r₀.blockSize⟩) next)))
  | waiting {id request next} (h : ∀ reply, ∃ x, next reply = .done x) :
      Opens object r₀ since till size 0 [] (asking (.openStream id request)
        (.call (streamCall object r₀.id ⟨since, till, size.getD r₀.blockSize⟩) next))
  | answered {id request result back} : Opens object r₀ since till size 0
      [(streamCall object r₀.id ⟨since, till, size.getD r₀.blockSize⟩, back)]
      (asking (.openStream id request) (.done result))
  | ended {o back} : Opens object r₀ since till size 0
      [(streamCall object r₀.id ⟨since, till, size.getD r₀.blockSize⟩, back)] (ended o)

/-- A request for a stream is a notice and then its one call. -/
theorem ask_openStream (id : SessionId) (request : StreamRequest) :
    ∃ n next, ask (.structured object) r (.openStream id request) =
        asking (.openStream id request) (.note n (.call (streamCall object id request) next)) ∧
      ∀ reply, ∃ x, next reply = .done x :=
  ⟨_, _, congrArg (asking (.openStream id request)) (invokeForNumber_run ..), fun _ => ⟨_, rfl⟩⟩

/-- Who has a call to make goes on by himself, and relies on being left alone with the recording. -/
theorem Opens.goes_on {left : Nat} (h : c.Opens object r₀ since till size left heard)
    (hp : r₀.cell.phase = .stopped) (hl : left ≠ 0) :
    c.isQuiet = true ∧ (∀ o, c ≠ .ended o) ∧ (c.step? (.structured object) r₀).isSome = true := by
  cases h with
  | begun => exact ⟨rfl, by simp, by simp [step?, hp, Phase.isSettled]⟩
  | fetching => exact ⟨rfl, by simp, rfl⟩
  | asking hn => exact ⟨rfl, by simp, rfl⟩
  | _ => exact (hl rfl).elim

/-- The call is made once, when no step is left before it. -/
theorem Opens.sent {left : Nat} (h : c.Opens object r₀ since till size left heard) :
    heard.map Prod.fst ++ c.pending?.toList =
      if left = 0 then [streamCall object r₀.id ⟨since, till, size.getD r₀.blockSize⟩] else [] := by
  cases h <;> rfl

/-- Until its call begins, a caller finds the recording as it was; then the call is made, and after
that nothing else. -/
theorem Move.opens {left : Nat} (m : Move (.structured object) r c t r' c')
    (h : c.Opens object r₀ since till size left heard) (hp : r₀.cell.phase = .stopped)
    (hr : left ≠ 0 → r = r₀) :
    c'.Opens object r₀ since till size (left - 1) (heard ++ (t.contact? c.pending?).toList) ∧
      (left ≠ 0 → r' = r₀) := by
  cases h with
  | begun =>
    obtain rfl := hr (by decide)
    cases m with
    | look hop hs =>
      rw [afterLook, if_pos hp]
      exact ⟨.fetching, fun _ => rfl⟩
  | fetching =>
    obtain rfl := hr (by decide)
    cases m with
    | fetch =>
      obtain ⟨n, next, ha, hn⟩ := @ask_openStream object r r.id ⟨since, till, size.getD r.blockSize⟩
      refine ⟨?_, fun _ => rfl⟩
      rw [use, ha]
      exact .asking hn
  | asking hn =>
    obtain rfl := hr (by decide)
    cases m with
    | note => exact ⟨.waiting hn, fun _ => rfl⟩
  | waiting hn =>
    cases m with
    | answer reply =>
      obtain ⟨x, hx⟩ := hn reply
      refine ⟨?_, fun h => (h rfl).elim⟩
      rw [hx]
      exact .answered
    | cut text => exact ⟨.ended, fun h => (h rfl).elim⟩
  | @answered id request result back =>
    cases m with
    | report =>
      refine ⟨?_, fun h => (h rfl).elim⟩
      cases result <;> exact .ended
  | ended => cases m

end Caller

end RemoteRecorder.Recording
