import RemoteRecorder.Proofs.Backend.Start
import RemoteRecorder.Proofs.Following

/-!
# RemoteRecorder.Proofs.Backend.Course

**The course of a start**, which may be cut off at each of its calls.

* `StartCall` says which call a start comes to after which others. A call that sets a session up is
  made as long as all have been answered, and the release after one of these has failed.
* A start comes to no other calls, and ends as it should if all come back (`start_follows`).
-/

namespace RemoteRecorder.Backend.Structured

variable {object : ObjectName} {id : SessionId} {n : Int64} {options : Options}
  {configuration : Configuration} {contacts : List Contact} {c : Call}

/-- How a call comes back that creates a session. -/
abbrev created (object : ObjectName) (n : Int64) : Contact :=
  (createCall object, .reply (.ok (.long n)))

/-- The next call of a start, after certain others. -/
inductive StartCall (object : ObjectName) (options : Options) (configuration : Configuration) :
    List Contact → Call → Prop
  | create : StartCall object options configuration [] (createCall object)
  | setUp {n contacts c rest}
      (made : contacts.map Prod.fst ++ c :: rest = setUpCalls object options configuration ⟨n⟩)
      (answered : Answered contacts) :
      StartCall object options configuration (created object n :: contacts) c
  | release {n contacts c rest f}
      (made : contacts.map Prod.fst ++ c :: rest = setUpCalls object options configuration ⟨n⟩)
      (answered : Answered contacts) :
      StartCall object options configuration
        (created object n :: (contacts ++ [(c, .reply (.error f))])) (releaseCall object ⟨n⟩)

/-- All that is known of an exchange that is on the way to start a session. -/
abbrev OnCourse (object : ObjectName) (options : Options) (configuration : Configuration)
    (past : List Contact) (rest : Exchange Empty (Except Error SessionId)) : Prop :=
  rest.Follows (StartCall object options configuration) (fun _ => True)
    (Started object options configuration) past

/-- The release of a session after the call that has failed. -/
theorem discarded_follows {rest : List Call} {f : TransportFailure}
    (made : contacts.map Prod.fst ++ c :: rest = setUpCalls object options configuration ⟨n⟩)
    (answered : Answered contacts) :
    OnCourse object options configuration
      (created object n :: (contacts ++ [(c, .reply (.error f))]))
      (discarded object ⟨n⟩ (.ofFailure c.operation f)) := by
  refine ⟨.release made answered, ?_⟩
  intro reply
  have ended : Started object options configuration
      (created object n :: (contacts ++ [(c, .reply (.error f))]) ++
        [(releaseCall object ⟨n⟩, .reply reply)]) (.error (.ofFailure c.operation f)) := by
    have broken := @SetUp.broken object ⟨n⟩ _ contacts c rest f reply made answered
    simpa using Started.created broken
  cases reply with
  | ok v => exact ended
  | error e => exact ended

/-- The calls that set a session up, from one of them on. -/
theorem setUp_follows {operations : List (String × List Value)}
    (made : contacts.map Prod.fst ++ callsOf object ⟨n⟩ operations =
      setUpCalls object options configuration ⟨n⟩)
    (answered : Answered contacts) :
    OnCourse object options configuration (created object n :: contacts)
      (setUp object ⟨n⟩ operations) := by
  induction operations generalizing contacts with
  | nil =>
    refine Started.created (.complete ?_ answered)
    simpa using made
  | cons entry rest ih =>
    obtain ⟨operation, args⟩ := entry
    refine ⟨.setUp made answered, ?_⟩
    intro reply
    cases reply with
    | ok v =>
      refine @ih (contacts ++ [(_, .reply (.ok v))]) ?_ ?_
      · simpa using made
      · exact List.forall_mem_append.2 ⟨answered, by simp⟩
    | error f => exact discarded_follows made answered

/-- A start comes to the calls it should come to, and to no others. -/
theorem start_follows (object : ObjectName) (options : Options) (configuration : Configuration) :
    OnCourse object options configuration []
      ((structured object).start options configuration).run := by
  rw [start_run]
  refine ⟨.create, ?_⟩
  intro reply
  rcases reply with f | v
  · exact .refused
  · cases hv : v.long? with
    | none =>
      dsimp only
      rw [number_of_long? hv]
      exact .unnumbered hv
    | some n =>
      obtain rfl : v = .long n := by
        cases v with
        | long m => exact congrArg Value.long (Option.some.inj hv)
        | _ => cases hv
      have none : Answered [] := by simp [Answered]
      exact @setUp_follows object n options configuration [] _ (callsOf_setters _ _) none

end RemoteRecorder.Backend.Structured
