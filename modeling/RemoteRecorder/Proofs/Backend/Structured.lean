import RemoteRecorder.Backend.Structured
import RemoteRecorder.Proofs.Options
import RemoteRecorder.Proofs.Wire

/-!
# RemoteRecorder.Proofs.Backend.Structured

**The requests to a recorder object**, written out as trees.

Every request but the start is one call (`OneCall`). The start is a call for a number,
and then calls that set the session up; the first that fails leads to the release of the
session (`start_run`).
-/

namespace RemoteRecorder.Backend.Structured

variable {object : ObjectName} {α : Type}

/-! ## Requests of one call

A request is a program over calls, and what a proof about runs needs is the tree of calls that it
comes to. For most requests it is one notice, one call, and an answer that is made of the reply; the
equations here say so once, and nothing later opens a request again. -/

/-- What is left of a request of one call, at any point of it. What becomes of a reply is
in the relation `R` to it. -/
inductive OneCall (call : Call) (R : Reply → α → Prop) : Exchange Empty α → Prop where
  | before {n next} (h : ∀ reply, ∃ a, next reply = .done a ∧ R reply a) :
      OneCall call R (.note n (.call call next))
  | during {next} (h : ∀ reply, ∃ a, next reply = .done a ∧ R reply a) :
      OneCall call R (.call call next)
  | after (a : α) : OneCall call R (.done a)

/-- A command is one call, and nothing is made of what it answers. -/
theorem command_run (operation : String) (args : List Value) :
    (Request.command object operation args).run =
      .note (.invoking operation object) (.call ⟨object, operation, args⟩ fun reply =>
        .done ((reply.mapError (Error.ofFailure operation)).map fun _ => ())) := by
  change Exchange.note _ (Exchange.call _ _) = _
  congr 2
  funext reply
  cases reply <;> rfl

/-- What is made of an answer that should be a number. -/
def number (operation : String) : Reply → Except Error Int64
  | .ok (.long n) => .ok n
  | .ok answer => .error (.unexpected operation ("expected " ++ "long" ++ ", got " ++ answer.kind))
  | .error e => .error (.ofFailure operation e)

/-- A request for a number is one call. -/
theorem invokeForNumber_run (operation : String) (args : List Value) :
    (invokeForNumber object operation args).run =
      .note (.invoking operation object) (.call ⟨object, operation, args⟩ fun reply =>
        .done (number operation reply)) := by
  change Exchange.note _ (Exchange.call _ _) = _
  congr 2
  funext reply
  rcases reply with e | v
  · rfl
  · cases v <;> rfl

theorem clone_run (id : SessionId) (stop : Bool) :
    ((structured object).clone id stop).run =
      .note (.invoking "cloneRecording" object)
        (.call ⟨object, "cloneRecording", [.ofId id, .boolean stop]⟩ fun reply =>
          .done ((number "cloneRecording" reply).map SessionId.mk)) := by
  change Exchange.note _ (Exchange.call _ _) = _
  congr 2
  funext reply
  rcases reply with e | v
  · rfl
  · cases v <;> rfl

/-! ## Starting a session

A start sets its session up call by call, and all of it is under one handler, which releases the
session. Read as a tree this is a recursion over the operations that are left, with the release as
the other branch of each call (`setUp`), and this is how the start is used from here on. -/

/-- The end of a start that has failed: the session is released, and the error reported. -/
def discarded (object : ObjectName) (id : SessionId) (e : Error) :
    Exchange Empty (Except Error α) :=
  .note (.invoking "closeRecording" object) (.call ⟨object, "closeRecording", [.ofId id]⟩ fun
    | .ok _ => .done (.error e)
    | .error f =>
      .note (.discardFailed id (.ofFailure "closeRecording" f)) (.done (.error e)))

/-- A setup that releases the session if it fails. -/
def guarded (object : ObjectName) (id : SessionId) (setup : Request Unit) : Request SessionId := do
  tryCatch setup fun e => do
    discard object id
    throw e
  return id

/-- Under the handler, each command is followed by the others, or by the release. -/
theorem guarded_command_run (id : SessionId) (operation : String) (args : List Value)
    (setup : Request Unit) :
    (guarded object id (do Request.command object operation args; setup)).run =
      .note (.invoking operation object) (.call ⟨object, operation, args⟩ fun
        | .ok _ => (guarded object id setup).run
        | .error f => discarded object id (.ofFailure operation f)) := by
  change Exchange.note _ (Exchange.call _ _) = _
  congr 2
  funext reply
  rcases reply with f | v
  · change Exchange.note _ (Exchange.call _ _) = Exchange.note _ (Exchange.call _ _)
    congr 2
    funext reply
    cases reply <;> rfl
  · rfl

/-- Sets a session up by calls of operations, one after the other. -/
def setUp (object : ObjectName) (id : SessionId) :
    List (String × List Value) → Exchange Empty (Except Error SessionId)
  | [] => .done (.ok id)
  | (operation, args) :: rest =>
    .note (.invoking operation object) (.call ⟨object, operation, .ofId id :: args⟩ fun
      | .ok _ => setUp object id rest
      | .error f => discarded object id (.ofFailure operation f))

/-- Calls operations on a session one after the other. -/
def commands (object : ObjectName) (id : SessionId) : List (String × List Value) → Request Unit
  | [] => return
  | (operation, args) :: rest => do
    Request.command object operation (.ofId id :: args)
    commands object id rest

theorem guarded_commands_run (id : SessionId) (operations : List (String × List Value)) :
    (guarded object id (commands object id operations)).run = setUp object id operations := by
  induction operations with
  | nil => rfl
  | cons operation rest ih =>
    obtain ⟨operation, args⟩ := operation
    rw [commands, guarded_command_run, ih]
    rfl

/-- The operations that set a session up, with their arguments after the number. -/
def setters (options : Options) (configuration : Configuration) : List (String × List Value) :=
  [(configuration.setter, [payload configuration]), ("setRecordingOptions", [.ofMap options.toMap]),
    ("startRecording", [])]

/-- There are always options to send. -/
theorem setOptions_eq (options : Options) (id : SessionId) :
    setOptions object options id =
      Request.command object "setRecordingOptions" [.ofId id, .ofMap options.toMap] := by
  simp [setOptions, options.isEmpty_toMap]

theorem launch_eq (options : Options) (configuration : Configuration) (id : SessionId) :
    launch object options configuration id =
      commands object id (setters options configuration) := by
  simp only [launch, setOptions_eq, setters, commands, bind_pure_unit]

/-- The start as a tree: a call for a number, and then the operations that set its session up. -/
theorem start_run (options : Options) (configuration : Configuration) :
    ((structured object).start options configuration).run =
      .note (.invoking "newRecording" object) (.call ⟨object, "newRecording", []⟩ fun reply =>
        match number "newRecording" reply with
        | .ok n => setUp object ⟨n⟩ (setters options configuration)
        | .error e => .done (.error e)) := by
  change Exchange.note _ (Exchange.call _ _) = _
  congr 2
  funext reply
  rcases reply with f | v
  · rfl
  · cases v with
    | long n =>
      refine Eq.trans ?_ (guarded_commands_run ⟨n⟩ _)
      rw [← launch_eq]
      rfl
    | _ => rfl

/-! ## The session of a start

A start has a session in hand from the reply that brings it to the release that it begins itself.
These are counts and not sets, since it has to be shown that no session is in two hands at a
time. -/

/-- The session that a start is going to name or to bring next. -/
def upcoming : Exchange Empty (Except Error SessionId) → List SessionId
  | .done (.ok id) => [id]
  | .done (.error _) => []
  | .note _ next => upcoming next
  | .keep s _ => s.elim
  | .call c _ => c.session?.toList

/-- The session that a start is responsible for: none any more as soon as its release has
begun. -/
def inHand : Exchange Empty (Except Error SessionId) → List SessionId
  | .call c _ => if c.isRelease then [] else c.session?.toList
  | rest => upcoming rest

/-- Whether what a start is going to name or to bring was in its hands, or has been handed
out to it. -/
def Tidy : Exchange Empty (Except Error SessionId) → Prop
  | .done _ => True
  | .note _ next => Tidy next
  | .keep s _ => s.elim
  | .call c next => c.isStop = false ∧ ∀ reply, Tidy (next reply) ∧ ∀ id,
      (upcoming (next reply)).count id ≤
        (inHand (.call c next)).count id + (handedOut [.returned c reply]).count id

theorem tidy_discarded (id : SessionId) (e : Error) : Tidy (discarded object id e) := by
  refine ⟨rfl, ?_⟩
  intro reply
  cases reply with
  | ok v => exact ⟨trivial, by simp [upcoming]⟩
  | error f => exact ⟨trivial, by simp [upcoming]⟩

/-- Whether an operation names a session, and neither stops nor releases it. -/
def IsSetter (operation : String) : Prop :=
  operation ∈ sessionOperations ∧ operation ≠ "stopRecording" ∧ operation ≠ "closeRecording"

theorem session?_on {operation : String} (h : operation ∈ sessionOperations) (id : SessionId)
    (args : List Value) : (Call.mk object operation (.ofId id :: args)).session? = some id := by
  simp [Call.session?, h, Value.ofId]

theorem isSetter_of_mem_setters (options : Options) (configuration : Configuration) :
    ∀ entry ∈ setters options configuration, IsSetter entry.1 := by
  cases configuration <;>
    simp [setters, Configuration.setter, IsSetter, sessionOperations]

/-- A setup has its session in hand all the time. -/
theorem upcoming_setUp (id : SessionId) {operations : List (String × List Value)}
    (h : ∀ entry ∈ operations, IsSetter entry.1) :
    upcoming (setUp object id operations) = [id] := by
  cases operations with
  | nil => rfl
  | cons entry rest =>
    obtain ⟨operation, args⟩ := entry
    simp only [setUp, upcoming, session?_on (h _ List.mem_cons_self).1]
    rfl

theorem tidy_setUp (id : SessionId) {operations : List (String × List Value)}
    (h : ∀ entry ∈ operations, IsSetter entry.1) : Tidy (setUp object id operations) := by
  induction operations with
  -- The induction is on the operations that are left: while some are, the session is in hand.
  | nil => trivial
  | cons entry rest ih =>
    obtain ⟨operation, args⟩ := entry
    obtain ⟨hs, hstop, hclose⟩ := h _ List.mem_cons_self
    have hrest : ∀ entry ∈ rest, IsSetter entry.1 := fun e he => h e (List.mem_cons_of_mem _ he)
    refine ⟨by simpa [Call.isStop] using hstop, ?_⟩
    intro reply
    have hand : inHand (.call ⟨object, operation, .ofId id :: args⟩ fun
        | .ok _ => setUp object id rest
        | .error f => discarded object id (.ofFailure operation f)) = [id] := by
      simp [inHand, Call.isRelease, hclose, session?_on hs]
    cases reply with
    | ok v =>
      refine ⟨ih hrest, ?_⟩
      intro i
      rw [hand, upcoming_setUp id hrest]
      exact Nat.le_add_right _ _
    | error f =>
      refine ⟨tidy_discarded id _, ?_⟩
      intro i
      rw [hand]
      exact Nat.le_add_right _ _

theorem tidy_start (options : Options) (configuration : Configuration) :
    Tidy ((structured object).start options configuration).run := by
  rw [start_run]
  refine ⟨rfl, ?_⟩
  intro reply
  rcases reply with f | v
  · exact ⟨trivial, by simp [number, upcoming]⟩
  · cases v with
    | long n =>
      have hs := isSetter_of_mem_setters options configuration
      refine ⟨tidy_setUp ⟨n⟩ hs, ?_⟩
      intro id
      change (upcoming (setUp object ⟨n⟩ (setters options configuration))).count id ≤ _
      rw [upcoming_setUp ⟨n⟩ hs]
      exact Nat.le_add_left _ _
    | _ => exact ⟨trivial, by simp [number, upcoming]⟩

end RemoteRecorder.Backend.Structured
