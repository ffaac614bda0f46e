import RemoteRecorder.Proofs.Backend.Supply
import RemoteRecorder.Proofs.Following

/-!
# RemoteRecorder.Proofs.Backend.Addressing

**What a request is about**: the object that its calls go to, and the sessions that they name.

* `Call.Names` says how the calls of either generation name a session.
* All calls of a request go to the object of the backend. They name the session that the request
  is about, or one that a reply to the same request has brought (`Backend.Speaks`).
-/

namespace RemoteRecorder

/-! ## Naming a session

A recorder object is given a session as a number, in the first argument. The diagnostic commands are
given it in a word, as a text behind an equals sign. To say that a call names no other session than
a certain one, it must be possible to get the number back from that text. -/

/-- Whether a call names a session: by its number, or in a word. -/
def Call.Names (c : Call) (id : SessionId) : Prop :=
  c.session? = some id ∨ (c.operation = "jfrStop" ∨ c.operation = "jfrDump") ∧
    ∃ words, c.args = [.texts words] ∧
      ("name=" ++ id.text ∈ words ∨ "recording=" ++ id.text ∈ words)

/-- The digits of a number can be read back. -/
theorem natText_injective {m n : Nat} (h : m.repr = n.repr) : m = n := by
  have hd := congrArg (fun s : String => Nat.ofDigitChars 10 s.toList 0) h
  simpa [Nat.toList_repr] using hd

/-- A minus sign is no digit. -/
theorem natText_ne_minus (m : Nat) (s : String) : m.repr ≠ "-" ++ s := by
  intro h
  have hm : '-' ∈ Nat.toDigits 10 m := by
    rw [← Nat.toList_repr, h]
    simp
  exact absurd (Nat.isDigit_of_mem_toDigits (by decide) (by decide) hm) (by decide)

theorem intText_injective {m n : Int} (h : toString m = toString n) : m = n := by
  cases m with
  | ofNat m =>
    cases n with
    | ofNat n => exact congrArg Int.ofNat (natText_injective h)
    | negSucc n => exact (natText_ne_minus m _ h).elim
  | negSucc m =>
    cases n with
    | ofNat n => exact (natText_ne_minus n _ h.symm).elim
    | negSucc n =>
      have hs : "-" ++ m.succ.repr = "-" ++ n.succ.repr := h
      rw [String.append_right_inj] at hs
      exact congrArg Int.negSucc (Nat.succ.inj (natText_injective hs))

/-- The text of a number is that of no other. -/
theorem SessionId.text_inj {id id' : SessionId} : id.text = id'.text ↔ id = id' := by
  refine ⟨fun h => ?_, congrArg SessionId.text⟩
  have hv : id.value = id'.value := Int64.toInt_inj.1 (intText_injective h)
  cases id
  cases id'
  exact congrArg SessionId.mk hv

section Names

variable {object : ObjectName} {operation : String} {args : List Value} {id id' : SessionId}

/-- Where the first argument is a session number, that session is named and no other. -/
theorem Call.names_session_iff (h : operation ∈ sessionOperations) :
    (Call.mk object operation (.ofId id :: args)).Names id' ↔ id = id' := by
  have hs : (Call.mk object operation (.ofId id :: args)).session? = some id :=
    Backend.Structured.session?_on h id args
  have hw (words : List String) : Value.ofId id ≠ .texts words := fun he => nomatch he
  simp [Call.Names, hs, hw]

theorem Call.names_jfrStop_iff :
    (Call.mk object "jfrStop" [.texts ["name=" ++ id.text]]).Names id' ↔ id = id' := by
  have hs : (Call.mk object "jfrStop" [.texts ["name=" ++ id.text]]).session? = none := rfl
  have hr : "recording=" ++ id'.text ≠ "name=" ++ id.text := by
    intro he
    simpa using congrArg String.toList he
  simp [Call.Names, hs, hr, SessionId.text_inj, eq_comm]

/-- None of the other words of a dump can be mistaken for the number, not even a path. -/
theorem Call.names_jfrDump_iff {path : String} :
    (Call.mk object "jfrDump"
      [.texts ["filename=" ++ path, "recording=" ++ id.text, "compress=true"]]).Names id' ↔
        id = id' := by
  have hs : (Call.mk object "jfrDump"
      [.texts ["filename=" ++ path, "recording=" ++ id.text, "compress=true"]]).session? = none :=
    rfl
  -- The words differ in front of the equals sign, so a path that looks like another word does no
  -- harm.
  have words (a b : String) : "name=" ++ a ≠ "filename=" ++ b ∧ "name=" ++ a ≠ "recording=" ++ b ∧
      "name=" ++ a ≠ "compress=true" ∧ "recording=" ++ a ≠ "filename=" ++ b ∧
      "recording=" ++ a ≠ "compress=true" := by
    refine ⟨?_, ?_, ?_, ?_, ?_⟩ <;> intro he <;> simpa using congrArg String.toList he
  have hc (a : String) := (words a a).2.2
  simp [Call.Names, hs, words, hc, SessionId.text_inj, eq_comm]

/-- What starts a session names none. -/
theorem Call.not_names_of {c : Call} (hs : c.session? = none)
    (ho : c.operation ≠ "jfrStop" ∧ c.operation ≠ "jfrDump") : ¬ c.Names id := by
  simp [Call.Names, hs, ho]

end Names

/-! ## Requests

A request names the session that it is about. Only a start is about none: it names the one that the
target has brought in its first reply. -/

/-- The session number that a call has brought. -/
def Contact.brings? : Contact → Option SessionId
  | (c, .reply reply) => Signal.brings? (.returned c reply)
  | (_, .unwinding _) => none

/-- The session numbers that calls have brought. -/
def broughtBy (past : List Contact) : List SessionId := past.filterMap Contact.brings?

/-- Whether a call goes to an object, and names only a certain session, if any, or one that an
earlier call has brought. -/
def Call.IsAbout (object : ObjectName) (session? : Option SessionId) (past : List Contact)
    (c : Call) : Prop :=
  c.target = object ∧ ∀ id, c.Names id → session? = some id ∨ id ∈ broughtBy past

/-- Whether a session number that is given has been brought. -/
def Supplied (past : List Contact) (result : Except Error SessionId) : Prop :=
  ∀ id, result = .ok id → id ∈ broughtBy past

/-- Whether all that can come of a request is about an object and a session, and the result is
as it should be. -/
abbrev Exchange.Speaks {α : Type} (object : ObjectName) (session? : Option SessionId)
    (R : List Contact → α → Prop) (past : List Contact) (e : Exchange Empty α) : Prop :=
  e.Follows (Call.IsAbout object session?) (fun _ => True) R past

/-- What the requests of a backend are about. -/
structure Backend.Speaks (object : ObjectName) (b : Backend) : Prop where
  start : ∀ options configuration past,
    (b.start options configuration).run.Speaks object none Supplied past
  stop : ∀ id past, (b.stop id).run.Speaks object (some id) (fun _ _ => True) past
  dump : ∀ id path past, (b.dump id path).run.Speaks object (some id) (fun _ _ => True) past
  clone : ∀ id stop past, (b.clone id stop).run.Speaks object (some id) Supplied past
  openStream : ∀ id request past,
    (b.openStream id request).run.Speaks object (some id) (fun _ _ => True) past
  close : ∀ id past, (b.close id).run.Speaks object (some id) (fun _ _ => True) past

namespace Backend

variable {object : ObjectName} {past : List Contact} {id : SessionId}

theorem mem_broughtBy_append {later : List Contact} (h : id ∈ broughtBy past) :
    id ∈ broughtBy (past ++ later) := by
  unfold broughtBy at h ⊢
  rw [List.filterMap_append]
  exact List.mem_append_left _ h

namespace Structured

variable {operation : String} {args : List Value}

theorem isAbout_session (h : operation ∈ sessionOperations) :
    Call.IsAbout object (some id) past ⟨object, operation, .ofId id :: args⟩ := by
  refine ⟨rfl, ?_⟩
  intro id' hn
  exact .inl (congrArg some ((Call.names_session_iff h).1 hn))

theorem command_speaks (h : operation ∈ sessionOperations) :
    (Request.command object operation (.ofId id :: args)).run.Speaks object (some id)
      (fun _ _ => True) past := by
  rw [command_run]
  exact ⟨isAbout_session h, fun _ => trivial⟩

theorem discarded_speaks (e : Error) (h : id ∈ broughtBy past) :
    (discarded object id e).Speaks object none Supplied past := by
  refine ⟨⟨rfl, ?_⟩, ?_⟩
  · intro id' hn
    obtain rfl := (Call.names_session_iff (by decide)).1 hn
    exact .inr h
  · intro reply
    cases reply <;> exact nofun

/-- A session that is set up has just been brought. -/
theorem setUp_speaks {operations : List (String × List Value)} (h : id ∈ broughtBy past)
    (hs : ∀ entry ∈ operations, entry.1 ∈ sessionOperations) :
    (setUp object id operations).Speaks object none Supplied past := by
  induction operations generalizing past with
  | nil =>
    intro id' he
    obtain rfl := Except.ok.inj he
    exact h
  | cons entry rest ih =>
    obtain ⟨operation, args⟩ := entry
    refine ⟨⟨rfl, ?_⟩, ?_⟩
    · intro id' hn
      obtain rfl := (Call.names_session_iff (hs _ List.mem_cons_self)).1 hn
      exact .inr h
    · intro reply
      have known :
          id ∈ broughtBy (past ++ [(⟨object, operation, .ofId id :: args⟩, .reply reply)]) :=
        mem_broughtBy_append h
      cases reply with
      | ok v => exact ih known fun e he => hs e (List.mem_cons_of_mem _ he)
      | error f => exact discarded_speaks _ known

theorem start_speaks (options : Options) (configuration : Configuration) :
    ((structured object).start options configuration).run.Speaks object none Supplied past := by
  rw [start_run]
  refine ⟨⟨rfl, ?_⟩, ?_⟩
  · intro id hn
    exact (Call.not_names_of rfl ⟨by simp, by simp⟩ hn).elim
  · intro reply
    cases h : number "newRecording" reply with
    | ok n =>
      simp only [h]
      -- The number that is set up is the one that the first reply has brought.
      refine setUp_speaks ?_ fun entry he => (isSetter_of_mem_setters _ _ entry he).1
      exact List.mem_filterMap.2 ⟨_, List.mem_append_right _ (List.mem_singleton.2 rfl),
        brings_of_number rfl h⟩
    | error e =>
      simp only [h]
      exact nofun

theorem clone_speaks (stop : Bool) :
    ((structured object).clone id stop).run.Speaks object (some id) Supplied past := by
  rw [clone_run]
  refine ⟨isAbout_session (by decide), ?_⟩
  intro reply clone hc
  cases h : number "cloneRecording" reply with
  | ok n =>
    rw [h] at hc
    obtain rfl := Except.ok.inj hc
    exact List.mem_filterMap.2 ⟨_, List.mem_append_right _ (List.mem_singleton.2 rfl),
      brings_of_number rfl h⟩
  | error e =>
    rw [h] at hc
    cases hc

theorem speaks : (structured object).Speaks object where
  start options configuration _ := start_speaks options configuration
  stop _ _ := command_speaks (by decide)
  dump _ _ _ := command_speaks (by decide)
  clone _ stop _ := clone_speaks stop
  openStream id request past := by
    change (invokeForNumber object _ _).run.Speaks object (some id) _ past
    rw [invokeForNumber_run]
    exact ⟨isAbout_session (by decide), fun _ => trivial⟩
  close _ _ := command_speaks (by decide)

end Structured

namespace Diagnostic

theorem command_run (operation : String) (words : List String) {α : Type} (a : α) :
    (do let _ ← command object operation words; return a : Request α).run =
      .note (.invoking operation object) (.call ⟨object, operation, [.texts words]⟩ fun reply =>
        .done ((reply.mapError (Error.ofFailure operation)).map fun _ => a)) := by
  change Exchange.note _ (Exchange.call _ _) = _
  congr 2
  funext reply
  cases reply <;> rfl

theorem start_speaks (options : Options) (configuration : Configuration) :
    ((diagnostic object).start options configuration).run.Speaks object none Supplied past := by
  rw [start_run]
  cases startWords? options configuration with
  | error e => exact nofun
  | ok words =>
    refine ⟨⟨rfl, fun id hn => (Call.not_names_of rfl ⟨by simp, by simp⟩ hn).elim⟩, ?_⟩
    intro reply id hid
    refine List.mem_filterMap.2 ⟨_, List.mem_append_right _ (List.mem_singleton.2 rfl), ?_⟩
    rcases reply with f | v
    · cases hid
    · cases v with
      | text reply =>
        change readStarted reply = .ok id at hid
        unfold readStarted at hid
        cases h : startedId? reply with
        | none =>
          rw [h] at hid
          cases hid
        | some n =>
          rw [h] at hid
          obtain rfl := Except.ok.inj hid
          exact h
      | _ => cases hid

theorem speaks : (diagnostic object).Speaks object where
  start options configuration _ := start_speaks options configuration
  stop id past := by
    change (do let _ ← command object _ _; return () : Request Unit).run.Speaks _ _ _ past
    rw [command_run]
    exact ⟨⟨rfl, fun _ hn => .inl (congrArg some (Call.names_jfrStop_iff.1 hn))⟩, fun _ => trivial⟩
  dump id path past := by
    change (do let _ ← command object _ _; return () : Request Unit).run.Speaks _ _ _ past
    rw [command_run]
    exact ⟨⟨rfl, fun _ hn => .inl (congrArg some (Call.names_jfrDump_iff.1 hn))⟩, fun _ => trivial⟩
  clone _ _ _ := nofun
  openStream _ _ _ := trivial
  close _ _ := trivial

end Diagnostic

theorem speaks (generation : Generation) (object : ObjectName) :
    (ofGeneration generation object).Speaks object := by
  cases generation with
  | structured => exact Structured.speaks
  | diagnostic => exact Diagnostic.speaks

end Backend

end RemoteRecorder
