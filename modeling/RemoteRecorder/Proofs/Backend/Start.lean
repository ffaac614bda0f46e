import RemoteRecorder.Proofs.Backend.Structured
import RemoteRecorder.Proofs.Encounter
import RemoteRecorder.Proofs.Table.Encoding

/-!
# RemoteRecorder.Proofs.Backend.Start

**Starting a session, call by call**, whatever a target with a recorder object replies.

* `Started` says which calls a start makes, how they come back, and how the start ends.
  A session is created, and then set up by three calls (`SetUp`).
* The calls are written out with their operations and arguments (`setUpCalls`), so that nothing
  that is said of them depends on how the requests are put together.
* The first of these that fails is followed by the release of the session and by nothing
  else. What becomes of the release does not matter.
-/

namespace RemoteRecorder.Backend.Structured

variable {object : ObjectName} {id : SessionId}

/-! ## What a start should do

The calls are stated before anything is said of the requests that make them. A configuration comes
in three kinds, and each has an operation of its own and an argument of its own kind. -/

/-- Whether all calls have been answered. -/
def Answered (contacts : List Contact) : Prop := ∀ x ∈ contacts, ∃ v, x.2 = .reply (.ok v)

/-- The call that creates a session. -/
abbrev createCall (object : ObjectName) : Call := ⟨object, "newRecording", []⟩

/-- The call that releases a session. -/
abbrev releaseCall (object : ObjectName) (id : SessionId) : Call :=
  ⟨object, "closeRecording", [.long id.value]⟩

/-- The call that gives a session its configuration: the name of a profile, the content of a
settings file, or a table of settings. -/
def configureCall (object : ObjectName) (id : SessionId) : Configuration → Call
  | .predefined name => ⟨object, "setPredefinedConfiguration", [.long id.value, .text name]⟩
  | .fileContent text => ⟨object, "setConfiguration", [.long id.value, .text text]⟩
  | .eventSettings settings =>
    ⟨object, "setRecordingSettings", [.long id.value, .table (.ofMap settings)]⟩

/-- The calls that set a session up: it gets its configuration and its options, and begins
to record. -/
def setUpCalls (object : ObjectName) (options : Options) (configuration : Configuration)
    (id : SessionId) : List Call :=
  [configureCall object id configuration,
    ⟨object, "setRecordingOptions", [.long id.value, .table (.ofMap options.toMap)]⟩,
    ⟨object, "startRecording", [.long id.value]⟩]

/-- How a session is set up by certain calls. -/
inductive SetUp (object : ObjectName) (id : SessionId) (calls : List Call) :
    List Contact → Except Error SessionId → Prop where
  /-- All calls are answered. -/
  | complete {contacts} (made : contacts.map Prod.fst = calls) (answered : Answered contacts) :
      SetUp object id calls contacts (.ok id)
  /-- One call fails after others have been answered, and the session is released. -/
  | broken {contacts c rest f reply} (made : contacts.map Prod.fst ++ c :: rest = calls)
      (answered : Answered contacts) :
      SetUp object id calls
        (contacts ++ [(c, .reply (.error f)), (releaseCall object id, .reply reply)])
        (.error (.ofFailure c.operation f))

/-- How a session is started. -/
inductive Started (object : ObjectName) (options : Options) (configuration : Configuration) :
    List Contact → Except Error SessionId → Prop where
  /-- No session is created. -/
  | refused {f} : Started object options configuration [(createCall object, .reply (.error f))]
      (.error (.ofFailure "newRecording" f))
  /-- The session, if there is one, has no number. -/
  | unnumbered {v} (h : v.long? = none) :
      Started object options configuration [(createCall object, .reply (.ok v))]
        (.error (.unexpected "newRecording" ("expected long, got " ++ v.kind)))
  | created {n contacts result}
      (h : SetUp object ⟨n⟩ (setUpCalls object options configuration ⟨n⟩) contacts result) :
      Started object options configuration
        ((createCall object, .reply (.ok (.long n))) :: contacts) result

theorem SetUp.cons {calls : List Call} {contacts : List Contact}
    {result : Except Error SessionId} (h : SetUp object id calls contacts result) (c : Call)
    (v : Value) : SetUp object id (c :: calls) ((c, .reply (.ok v)) :: contacts) result := by
  have answered {l : List Contact} (hl : Answered l) : Answered ((c, .reply (.ok v)) :: l) :=
    List.forall_mem_cons.2 ⟨⟨v, rfl⟩, hl⟩
  cases h with
  | complete made ha => exact .complete (congrArg (c :: ·) made) (answered ha)
  | @broken contacts d rest f reply made ha =>
    have made : ((c, Comeback.reply (.ok v)) :: contacts).map Prod.fst ++ d :: rest = c :: calls :=
      congrArg (c :: ·) made
    exact @SetUp.broken object id (c :: calls) ((c, .reply (.ok v)) :: contacts) d rest f reply
      made (answered ha)

/-- The first call fails. -/
theorem SetUp.broken_first (c : Call) (rest : List Call) (f : TransportFailure) (reply : Reply) :
    SetUp object id (c :: rest) [(c, .reply (.error f)), (releaseCall object id, .reply reply)]
      (.error (.ofFailure c.operation f)) :=
  @SetUp.broken object id (c :: rest) [] c rest f reply rfl (by simp [Answered])

/-! ## What it does

The requests make their calls from a list of operations, and the list comes to the calls above. What
is proved about a setup is proved by induction on this list, for whatever operations it holds. -/

/-- The calls of operations on a session. -/
abbrev callsOf (object : ObjectName) (id : SessionId) (operations : List (String × List Value)) :
    List Call :=
  operations.map fun (operation, args) => ⟨object, operation, .ofId id :: args⟩

theorem callsOf_setters (options : Options) (configuration : Configuration) :
    callsOf object id (setters options configuration) =
      setUpCalls object options configuration id := by
  cases configuration <;> rfl

variable (object id) (reply : List Contact → Call → Reply) (past : List Contact)

/-- A session is released by one call, whatever becomes of it. -/
theorem discarded_meet (e : Error) : ∃ r,
    (discarded object id e : Exchange Empty (Except Error SessionId)).meet
      (.replying reply) past =
        { log := [(releaseCall object id, .reply r)], ending := .ok (.error e) } := by
  refine ⟨reply past (releaseCall object id), ?_⟩
  cases h : reply past (releaseCall object id) with
  | ok v =>
    rw [discarded, Exchange.meet_note]
    exact Exchange.meet_replying h
  | error f =>
    rw [discarded, Exchange.meet_note]
    exact Exchange.meet_replying h

/-- A session is set up by calls of operations one after the other. -/
theorem setUp_meet (operations : List (String × List Value)) : ∃ contacts result,
    (setUp object id operations).meet (.replying reply) past =
      { log := contacts, ending := .ok result } ∧
    SetUp object id (callsOf object id operations) contacts result := by
  induction operations generalizing past with
  | nil => exact ⟨[], .ok id, rfl, .complete rfl (by simp [Answered])⟩
  | cons entry rest ih =>
    obtain ⟨operation, args⟩ := entry
    let c : Call := ⟨object, operation, .ofId id :: args⟩
    cases h : reply past c with
    | ok v =>
      obtain ⟨contacts, result, hm, hs⟩ := ih (past ++ [(c, .reply (.ok v))])
      refine ⟨(c, .reply (.ok v)) :: contacts, result, ?_, hs.cons c v⟩
      rw [setUp, Exchange.meet_note, Exchange.meet_replying h, hm]
      rfl
    | error f =>
      obtain ⟨r, hm⟩ := discarded_meet object id reply (past ++ [(c, .reply (.error f))])
        (.ofFailure operation f)
      refine ⟨[(c, .reply (.error f)), (releaseCall object id, .reply r)],
        .error (.ofFailure operation f), ?_, .broken_first c _ f r⟩
      rw [setUp, Exchange.meet_note, Exchange.meet_replying h, hm]
      rfl

theorem number_of_long? {operation : String} {v : Value} (h : v.long? = none) :
    number operation (.ok v) =
      .error (.unexpected operation ("expected " ++ "long" ++ ", got " ++ v.kind)) := by
  cases v with
  | long n => cases h
  | _ => rfl

/-- A start makes the calls it should make, in their order, and ends as it should. A table among
their arguments has one row for each entry of its map, and it is the one that encoding the map
gives. The map of the options holds `disk` and all that differs from its default, and nothing
else. -/
theorem start_sets_up_or_discards (object : ObjectName) (options : Options)
    (configuration : Configuration) (reply : List Contact → Call → Reply) (past : List Contact) :
    (∃ contacts result,
      ((structured object).start options configuration).run.meet (.replying reply) past =
        { log := contacts, ending := .ok result } ∧
      Started object options configuration contacts result) ∧
    options.Sparse ∧
    ∀ m : StringMap, Table.encode m = .ok (.ofMap m) ∧ (Table.ofMap m).pairs = m.entries := by
  refine ⟨?_, options.sparse, fun m => ⟨Table.encode_eq m, Table.pairs_ofMap m⟩⟩
  rw [start_run, Exchange.meet_note]
  cases h : reply past (createCall object) with
  | error f =>
    refine ⟨[(createCall object, .reply (.error f))], _, ?_, .refused⟩
    rw [Exchange.meet_replying h]
    rfl
  | ok v =>
    cases hv : v.long? with
    | none =>
      refine ⟨_, _, ?_, .unnumbered hv⟩
      rw [Exchange.meet_replying h, number_of_long? hv]
      rfl
    | some n =>
      obtain rfl : v = .long n := by
        cases v with
        | long m => exact congrArg Value.long (Option.some.inj hv)
        | _ => cases hv
      obtain ⟨contacts, result, hm, hs⟩ := setUp_meet object ⟨n⟩ reply
        (past ++ [(createCall object, .reply (.ok (.long n)))]) (setters options configuration)
      rw [callsOf_setters] at hs
      refine ⟨_, _, ?_, .created hs⟩
      rw [Exchange.meet_replying h]
      exact congrArg (Encounter.calling _) hm

end RemoteRecorder.Backend.Structured
