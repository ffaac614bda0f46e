import RemoteRecorder.Proofs.Backend.Addressing
import RemoteRecorder.Proofs.Exchange
import RemoteRecorder.Proofs.Verdict

/-!
# RemoteRecorder.Proofs.Backend.Verdict

**What the result of a request says of its calls**, on either generation of the protocol.

* The result of a request is what its first failed call makes of it. The release of a session that
  could not be started clears up and decides nothing.
* The diagnostic commands refuse some requests without a call (`Verdict.unsupported`).
* `Backend.Accountable` lists what a recording may rely on.
-/

namespace RemoteRecorder

open Recording (Operation)

/-- Whether an error says that the target's recorder cannot do what is asked. -/
def Error.isUnsupported : Error → Bool
  | unsupported _ | unsupportedConfiguration _ => true
  | _ => false

/-- Whether an error is of the kinds that the use of a session may end with. -/
def Error.isOfSession : Error → Bool
  | transport _ | protocol _ (.remote _) | protocol _ (.unexpectedReply _) | invalidState _ _
  | unsupported _ | unsupportedConfiguration _ => true
  | _ => false

theorem Error.isOfSession_of_isUnsupported {e : Error} (h : e.isUnsupported = true) :
    e.isOfSession = true := by
  cases e <;> first | rfl | cases h

/-- What a failed call causes is an error of the use of a session, and does not say that anything
is not supported. -/
theorem Error.kind_of_causes {contact : Contact} {e : Error} (h : contact.Causes e) :
    e.isOfSession = true ∧ e.isUnsupported = false := by
  obtain ⟨call, back⟩ := contact
  cases back with
  | unwinding text => exact h.elim
  | reply reply =>
    cases reply with
    | error f =>
      obtain rfl := h
      cases f <;> exact ⟨rfl, rfl⟩
    | ok v =>
      obtain ⟨text, rfl⟩ := h
      exact ⟨rfl, rfl⟩

theorem Error.not_isUnsupported_of_rel {contact? : Option Contact} {e : Error}
    (h : Option.Rel Contact.Causes contact? (some e)) : e.isUnsupported = false := by
  cases h with
  | some hc => exact (kind_of_causes hc).2

/-- Whether a call only clears up after an operation: sessions are stopped in order to be released,
unless the operation is the stop itself. -/
def Recording.Operation.clearsUp (op : Operation) (c : Call) : Bool :=
  c.isRelease || op ≠ .stop && (c.isStop || c.operation = "jfrStop")

/-- What the error of an operation, if there is one, may be after certain calls. -/
inductive Verdict (generation : Generation) (clearsUp : Call → Bool) (heard : List Contact) :
    Option Error → Prop
  /-- It is what the first failed call makes of it. -/
  | decided {e?} (h : Option.Rel Contact.Causes (decider clearsUp heard) e?) :
      Verdict generation clearsUp heard e?
  /-- No call has failed, and the recording is in the wrong state. -/
  | refused {actual expected} (h : decider clearsUp heard = none) :
      Verdict generation clearsUp heard (some (.invalidState actual expected))
  /-- There is no command for what is asked. -/
  | unsupported {e} (hg : generation = .diagnostic) (hh : heard = [])
      (he : e.isUnsupported = true) : Verdict generation clearsUp heard (some e)

section Verdict

variable {generation : Generation} {clearsUp : Call → Bool} {heard : List Contact}

/-- Where no error is, no call has failed. -/
theorem decider_of_verdict_none (h : Verdict generation clearsUp heard none) :
    decider clearsUp heard = none := by
  cases h with
  | decided h =>
    generalize decider clearsUp heard = contact? at h
    cases h
    rfl

/-- A verdict is an error of the use of a session, and tells how the first failed call failed. -/
theorem Verdict.tells {e? : Option Error} (h : Verdict generation clearsUp heard e?) :
    Tells (decider clearsUp heard) e? ∧ ∀ e, e? = some e → e.isOfSession = true := by
  cases h with
  | decided h =>
    refine ⟨tells_of_causes h, ?_⟩
    rintro e rfl
    generalize decider clearsUp heard = contact? at h
    cases h with
    | some hc => exact (Error.kind_of_causes hc).1
  | refused h =>
    rw [h]
    refine ⟨tells_none (by simp) (by simp), ?_⟩
    rintro _ ⟨⟩
    rfl
  | unsupported hg hh he =>
    rw [hh]
    refine ⟨tells_none ?_ ?_, ?_⟩
    · rintro text ⟨⟩
      cases he
    · rintro context cause ⟨⟩
      cases he
    · rintro _ ⟨⟩
      exact Error.isOfSession_of_isUnsupported he

/-- Who says that something is not supported has made no call. -/
theorem Verdict.unsupported_eq {e : Error} (h : Verdict generation clearsUp heard (some e))
    (he : e.isUnsupported = true) : generation = .diagnostic ∧ heard = [] := by
  cases h with
  | decided h =>
    rw [Error.not_isUnsupported_of_rel h] at he
    cases he
  | refused h => cases he
  | unsupported hg hh he => exact ⟨hg, hh⟩

theorem verdict_none (h : decider clearsUp heard = none) :
    Verdict generation clearsUp heard none := by
  refine .decided ?_
  rw [h]
  exact .none

end Verdict

/-- Whether the results of a request, from certain calls on, are as they should be. -/
abbrev Exchange.Results {σ α : Type} (R : List Contact → α → Prop) (past : List Contact)
    (e : Exchange σ α) : Prop :=
  e.Follows (fun _ _ => True) (fun _ => True) R past

/-- Whether the results of a request are what its calls, or the generation, make of them. -/
abbrev Request.Accounts {α : Type} (generation : Generation) (clearsUp : Call → Bool)
    (request : Request α) : Prop :=
  request.run.Results (fun heard x => Verdict generation clearsUp heard (errorOf? x)) []

/-- What a recording may rely on, whatever the target replies. -/
structure Backend.Accountable (generation : Generation) (b : Backend) : Prop where
  start : ∀ options configuration,
    (b.start options configuration).Accounts generation Operation.start.clearsUp
  stop : ∀ id, (b.stop id).run.Results (Blames Operation.stop.clearsUp) []
  dump : ∀ id path, (b.dump id path).Accounts generation (Operation.dump path).clearsUp
  clone : ∀ id stop, (b.clone id stop).Accounts generation (Operation.clone stop).clearsUp
  openStream : ∀ id request since till size, (b.openStream id request).Accounts generation
    (Operation.openStream since till size).clearsUp
  /-- Who is to be released is stopped by calls that only clear up, unless it is asked for. -/
  stopping : ∀ id (op : Operation), op ≠ .stop → (b.stop id).run.AllCalls (op.clearsUp · = true)
  releasing : ∀ id (op : Operation), (b.close id).run.AllCalls (op.clearsUp · = true)

namespace Backend

variable {generation : Generation} {object : ObjectName} {clearsUp : Call → Bool}
  {past : List Contact} {α : Type}

/-- A request of one call is accounted for by its reply. -/
theorem results_of_yields {c : Call} {n : Notice} {x : Reply → Except Error α}
    (hc : clearsUp c = false) (hx : ∀ reply, c.Yields reply (x reply)) :
    (Exchange.note n (.call c fun reply => .done (x reply)) : Exchange Empty _).Results
      (Blames clearsUp) [] :=
  ⟨trivial, fun reply => blames_of_yields rfl hc (hx reply)⟩

/-- A result that blames the first failed call is a verdict. -/
theorem accounts_of_blames {request : Request α} (h : request.run.Results (Blames clearsUp) []) :
    request.Accounts generation clearsUp :=
  h.imp (fun _ _ => id) (fun _ => id) fun _ _ => .decided

namespace Structured

variable {operation : String} {args : List Value} {id : SessionId}

/-- A number is taken as it is, and any other answer is not expected. -/
theorem number_yields (h : operation ∈ ["newRecording", "cloneRecording", "openStream"])
    (reply : Reply) : (Call.mk object operation args).Yields reply (number operation reply) := by
  cases reply with
  | error f => rfl
  | ok v =>
    cases v with
    | long n => simp [Call.Yields, Call.accepts, h, Value.long?, number, errorOf?]
    | _ =>
      simp only [Call.Yields, Call.accepts, h, Value.long?]
      exact ⟨_, rfl⟩

theorem command_results (hc : clearsUp ⟨object, operation, args⟩ = false)
    (ha : ∀ v, (Call.mk object operation args).accepts v = true) :
    (Request.command object operation args).run.Results (Blames clearsUp) [] := by
  rw [command_run]
  exact results_of_yields hc fun reply => yields_of_accepts ha _

/-- Whatever becomes of the release, the error is that of the call that has failed. -/
theorem discarded_results {e : Error} (hc : clearsUp ⟨object, "closeRecording", [.ofId id]⟩ = true)
    (h : Blames clearsUp past (.error e : Except Error SessionId)) :
    (discarded object id e).Results (α := Except Error SessionId) (Blames clearsUp) past := by
  have stays (back : Comeback) : Blames clearsUp
      (past ++ [(⟨object, "closeRecording", [.ofId id]⟩, back)])
      (.error e : Except Error SessionId) := by
    unfold Blames at h ⊢
    rw [decider_concat_of_clearsUp hc]
    exact h
  refine ⟨trivial, ?_⟩
  intro reply
  cases reply <;> exact stays _

/-- As long as all calls have been answered there is nothing to report, and the first failure
decides. -/
theorem setUp_results {operations : List (String × List Value)}
    (hc : ∀ args, clearsUp ⟨object, "closeRecording", args⟩ = true)
    (hs : ∀ entry ∈ operations, ∀ args, clearsUp ⟨object, entry.1, args⟩ = false ∧
      ∀ v, (Call.mk object entry.1 args).accepts v = true)
    (h : decider clearsUp past = none) :
    (setUp object id operations).Results (Blames clearsUp) past := by
  induction operations generalizing past with
  | nil => exact blames_ok h
  | cons entry rest ih =>
    obtain ⟨operation, args⟩ := entry
    obtain ⟨hf, ha⟩ := hs _ List.mem_cons_self (.ofId id :: args)
    refine ⟨trivial, ?_⟩
    intro reply
    cases reply with
    | ok v =>
      refine ih (fun e he => hs e (List.mem_cons_of_mem _ he)) ?_
      rw [decider_concat_of_not_fails (by simp [Contact.fails, ha]), h]
    | error f =>
      exact discarded_results (hc _) (blames_error (decider_concat_of_fails h hf rfl) rfl)

/-- A start reports its first failed call, however the release goes that follows. -/
theorem start_results (options : Options) (configuration : Configuration) :
    ((structured object).start options configuration).run.Results
      (Blames Operation.start.clearsUp) [] := by
  have setters (entry) (he : entry ∈ setters options configuration) (args : List Value) :
      Operation.start.clearsUp ⟨object, entry.1, args⟩ = false ∧
        ∀ v, (Call.mk object entry.1 args).accepts v = true := by
    have hm : entry.1 ∈ ["setPredefinedConfiguration", "setConfiguration", "setRecordingSettings",
        "setRecordingOptions", "startRecording"] := by
      revert entry
      cases configuration <;> simp [Structured.setters, Configuration.setter]
    generalize entry.1 = operation at hm
    -- Only the name of an operation matters here. None of these stops or releases a session.
    simp only [List.mem_cons, List.not_mem_nil, or_false] at hm
    rcases hm with rfl | rfl | rfl | rfl | rfl <;>
      exact ⟨by simp [Operation.clearsUp, Call.isRelease, Call.isStop],
        fun v => by simp [Call.accepts]⟩
  rw [start_run]
  refine ⟨trivial, ?_⟩
  intro reply
  have yields : (Call.mk object "newRecording" []).Yields reply (number "newRecording" reply) :=
    number_yields (by simp) reply
  have blames : Blames Operation.start.clearsUp
      ([] ++ [(⟨object, "newRecording", []⟩, .reply reply)]) (number "newRecording" reply) :=
    blames_of_yields rfl (by simp [Operation.clearsUp, Call.isRelease, Call.isStop]) yields
  cases h : number "newRecording" reply with
  | ok n =>
    simp only [h]
    rw [h] at blames
    exact setUp_results (fun _ => by simp [Operation.clearsUp, Call.isRelease]) setters
      (decider_of_blames_ok blames)
  | error e =>
    simp only [h]
    rw [h] at blames
    exact blames_congr rfl blames

theorem invokeForNumber_results
    (h : operation ∈ ["newRecording", "cloneRecording", "openStream"])
    (hc : clearsUp ⟨object, operation, args⟩ = false) :
    (invokeForNumber object operation args).run.Results (Blames clearsUp) [] := by
  rw [invokeForNumber_run]
  exact results_of_yields hc fun reply => number_yields h reply

theorem accountable : (structured object).Accountable .structured where
  start options configuration := accounts_of_blames (start_results options configuration)
  stop id := command_results rfl fun _ => rfl
  dump id path := accounts_of_blames (command_results rfl fun _ => rfl)
  clone id stop := by
    refine accounts_of_blames ?_
    rw [clone_run]
    refine results_of_yields rfl ?_
    intro reply
    exact (number_yields (by simp) reply).map SessionId.mk
  openStream id request since till size :=
    accounts_of_blames (invokeForNumber_results (by simp) rfl)
  stopping id op hop := by
    change (Request.command object "stopRecording" [.ofId id]).run.AllCalls _
    rw [command_run]
    exact ⟨by simp [Operation.clearsUp, Call.isStop, hop], fun _ => trivial⟩
  releasing id op := by
    change (Request.command object "closeRecording" [.ofId id]).run.AllCalls _
    rw [command_run]
    exact ⟨by simp [Operation.clearsUp, Call.isRelease], fun _ => trivial⟩

end Structured

namespace Diagnostic

variable {operation : String} {words : List String}

theorem command_results (hc : clearsUp ⟨object, operation, [.texts words]⟩ = false)
    (ha : ∀ v, (Call.mk object operation [.texts words]).accepts v = true) (a : α) :
    (do let _ ← command object operation words; return a : Request α).run.Results
      (Blames clearsUp) [] := by
  rw [command_run]
  exact results_of_yields hc fun reply => yields_of_accepts ha _

theorem command_allCalls {P : Call → Prop} (h : P ⟨object, operation, [.texts words]⟩) (a : α) :
    (do let _ ← command object operation words; return a : Request α).run.AllCalls P := by
  rw [command_run]
  exact ⟨h, fun _ => trivial⟩

/-- The reply to a start tells the number, or cannot be used. -/
theorem started_yields (reply : Reply) (words : List String) :
    (Call.mk object "jfrStart" [.texts words]).Yields reply (match reply with
      | .ok (.text reply) => readStarted reply
      | .ok answer =>
        .error (.unexpected "jfrStart" ("expected " ++ "text" ++ ", got " ++ answer.kind))
      | .error e => .error (.ofFailure "jfrStart" e)) := by
  cases reply with
  | error f => rfl
  | ok v =>
    cases v with
    | text reply =>
      simp only [Call.Yields, Call.accepts, readStarted, Value.text?]
      cases h : startedId? reply with
      | none => simp [h, Error.unexpected]
      | some id => simp [h, errorOf?]
    | _ =>
      simp only [Call.Yields, Call.accepts, Value.text?]
      exact ⟨_, rfl⟩

theorem unsupported_accounts {e : Error} (he : e.isUnsupported = true) :
    (throw e : Request α).Accounts .diagnostic clearsUp :=
  .unsupported rfl rfl he

theorem accountable : (diagnostic object).Accountable .diagnostic where
  start options configuration := by
    unfold Request.Accounts
    rw [start_run]
    cases h : startWords? options configuration with
    | error e =>
      refine .unsupported rfl rfl ?_
      -- There are no words for settings of events, nor for the content of a file.
      cases configuration <;> cases h <;> rfl
    | ok words =>
      refine accounts_of_blames (results_of_yields rfl ?_)
      intro reply
      exact started_yields reply words
  stop id := command_results rfl (fun _ => rfl) ()
  dump id path := accounts_of_blames (command_results rfl (fun _ => rfl) ())
  clone id stop := unsupported_accounts rfl
  openStream id request since till size := unsupported_accounts rfl
  stopping id op hop := command_allCalls (by simp [Operation.clearsUp, hop]) ()
  releasing id op := trivial

end Diagnostic

theorem accountable (generation : Generation) (object : ObjectName) :
    (ofGeneration generation object).Accountable generation := by
  cases generation with
  | structured => exact Structured.accountable
  | diagnostic => exact Diagnostic.accountable

end Backend

end RemoteRecorder
