import RemoteRecorder.Backend.Diagnostic
import RemoteRecorder.Proofs.Backend.Structured

/-!
# RemoteRecorder.Proofs.Backend.Supply

**Where session numbers come from**: the target names them in its replies, as a number or in a
text, and the requests of either generation hand on what they have been told.

* `brought` reads the numbers off a log.
* `Exchange.Hears` follows a request through all replies it can get, with the numbers they bring
  kept in mind. Whatever number a request ends with, a reply on the way has brought it
  (`Exchange.Brings`, `Backend.HandsOn`).
* Nobody looks at the numbers. In particular, the target may name a negative one.
-/

namespace RemoteRecorder

/-- The session number that a reply brings, if the call asks for one. -/
def Signal.brings? : Signal → Option SessionId
  | returned c (.ok (.long n)) => if c.asksNumber then some ⟨n⟩ else none
  | returned c (.ok (.text reply)) =>
    if c.operation = "jfrStart" then Backend.Diagnostic.startedId? reply else none
  | _ => none

/-- The session numbers that replies have brought. -/
def brought (log : List Signal) : List SessionId := log.filterMap Signal.brings?

@[simp] theorem brought_append (l₁ l₂ : List Signal) :
    brought (l₁ ++ l₂) = brought l₁ ++ brought l₂ :=
  List.filterMap_append

theorem mem_brought_append_left {id : SessionId} {log : List Signal} (h : id ∈ brought log)
    (later : List Signal) : id ∈ brought (log ++ later) := by
  rw [brought_append]
  exact List.mem_append_left _ h

namespace Exchange

variable {α β : Type} {P P' : SessionId → Prop} {Q : (SessionId → Prop) → α → Prop}

/-- Whether all results of an exchange are as they should be (`Q`), if certain numbers are known
(`P`) and replies on the way bring more. -/
def Hears (Q : (SessionId → Prop) → α → Prop) (P : SessionId → Prop) : Exchange Empty α → Prop
  | done a => Q P a
  | note _ next => next.Hears Q P
  | keep s _ => s.elim
  | call c next => ∀ reply,
    (next reply).Hears Q fun id => P id ∨ Signal.brings? (.returned c reply) = some id

theorem Hears.imp {e : Exchange Empty α} (h : e.Hears Q P)
    (hQ : ∀ P P' a, (∀ id, P id → P' id) → Q P a → Q P' a) (hP : ∀ id, P id → P' id) :
    e.Hears Q P' := by
  induction e generalizing P P' with
  | done a => exact hQ P P' a hP h
  | note n next ih => exact ih h hP
  | keep s next => exact s.elim
  | call c next ih => exact fun reply => ih reply (h reply) fun id => .imp_left (hP id)

/-- What is done with a result may rely on the numbers that have been brought with it. -/
theorem Hears.bind {R : (SessionId → Prop) → β → Prop} {e : Exchange Empty α}
    {f : α → Exchange Empty β} (h : e.Hears Q P) (hf : ∀ P a, Q P a → (f a).Hears R P) :
    (e >>= f).Hears R P := by
  induction e generalizing P with
  | done a => exact hf P a h
  | note n next ih => exact ih h
  | keep s next => exact s.elim
  | call c next ih => exact fun reply => ih reply (h reply)

theorem hears_true (e : Exchange Empty α) : e.Hears (fun _ _ => True) P := by
  induction e generalizing P with
  | done a => trivial
  | note n next ih => exact ih
  | keep s next => exact s.elim
  | call c next ih => exact fun reply => ih reply

/-- Whether the number that a request gives, if it does, is known. -/
def Known (P : SessionId → Prop) : Except Error SessionId → Prop
  | .ok id => P id
  | .error _ => True

/-- Whether every number that an exchange can end with has a property, or is brought by a reply
on the way. -/
def Brings (P : SessionId → Prop) (e : Exchange Empty (Except Error SessionId)) : Prop :=
  e.Hears Known P

theorem Brings.imp {e : Exchange Empty (Except Error SessionId)} (h : e.Brings P)
    (hP : ∀ id, P id → P' id) : e.Brings P' := by
  refine Hears.imp h ?_ hP
  rintro P P' (error | id) hP hid
  · trivial
  · exact hP id hid

end Exchange

/-- Whether a backend makes up no session number. -/
structure Backend.HandsOn (b : Backend) : Prop where
  start : ∀ options configuration, (b.start options configuration).run.Brings fun _ => False
  clone : ∀ id stop, (b.clone id stop).run.Brings fun _ => False

namespace Backend

variable {object : ObjectName} {P : SessionId → Prop}

namespace Structured

theorem brings_discarded (id : SessionId) (e : Error) : (discarded object id e).Brings P := by
  intro reply
  cases reply <;> trivial

/-- A session that is set up keeps its number. -/
theorem brings_setUp {id : SessionId} (h : P id) (operations : List (String × List Value)) :
    (setUp object id operations).Brings P := by
  induction operations generalizing P with
  | nil => exact h
  | cons operation rest ih =>
    intro reply
    cases reply with
    | ok v => exact ih (.inl h)
    | error f => exact brings_discarded id _

/-- What is taken as the answer of an operation that gives a session number has been brought. -/
theorem brings_of_number {operation : String} {reply : Reply} {n : Int64} {args : List Value}
    (hc : (Call.mk object operation args).asksNumber = true) (h : number operation reply = .ok n) :
    Signal.brings? (.returned ⟨object, operation, args⟩ reply) = some ⟨n⟩ := by
  rcases reply with f | v
  · cases h
  · cases v with
    | long m =>
      obtain rfl := Except.ok.inj h
      exact if_pos hc
    | _ => cases h

theorem brings_start (options : Options) (configuration : Configuration) :
    ((structured object).start options configuration).run.Brings fun _ => False := by
  rw [start_run]
  intro reply
  cases h : number "newRecording" reply with
  | ok n =>
    simp only [h]
    -- What is set up is the number that has come with the first reply.
    exact brings_setUp (.inr (brings_of_number rfl h)) _
  | error e =>
    simp only [h]
    trivial

/-- A clone has the number that the reply to its call has brought. -/
theorem brings_clone (id : SessionId) (stop : Bool) :
    ((structured object).clone id stop).run.Brings fun _ => False := by
  rw [clone_run]
  intro reply
  change Exchange.Brings _ (.done ((number "cloneRecording" reply).map SessionId.mk))
  cases h : number "cloneRecording" reply with
  | ok n => exact .inr (brings_of_number rfl h)
  | error e => trivial

end Structured

namespace Diagnostic

/-- A start is one call, if the configuration can be put into words. -/
theorem start_run (options : Options) (configuration : Configuration) :
    ((diagnostic object).start options configuration).run =
      match startWords? options configuration with
      | .error e => .done (.error e)
      | .ok words => .note (.invoking "jfrStart" object)
        (.call ⟨object, "jfrStart", [.texts words]⟩ fun reply => .done <|
          match reply with
          | .ok (.text reply) => readStarted reply
          | .ok answer =>
            .error (.unexpected "jfrStart" ("expected " ++ "text" ++ ", got " ++ answer.kind))
          | .error e => .error (.ofFailure "jfrStart" e)) := by
  change (Diagnostic.start object options configuration).run = _
  -- The words are made before anything is called.
  unfold Diagnostic.start start.liftExcept
  cases startWords? options configuration with
  | error e => rfl
  | ok words =>
    change Exchange.note _ (Exchange.call _ _) = Exchange.note _ (Exchange.call _ _)
    congr 2
    funext reply
    rcases reply with f | v
    · rfl
    · cases v <;> rfl

theorem brings_start (options : Options) (configuration : Configuration) :
    ((diagnostic object).start options configuration).run.Brings fun _ => False := by
  rw [start_run]
  cases startWords? options configuration with
  | error e => trivial
  | ok words =>
    intro reply
    rcases reply with f | v
    · trivial
    · cases v with
      | text reply =>
        change Exchange.Brings _ (.done (readStarted reply))
        unfold readStarted
        cases h : startedId? reply with
        | none => trivial
        | some id => exact .inr h
      | _ => trivial

end Diagnostic

/-- The backend of a target, by the generation of its protocol. -/
def ofGeneration : Generation → ObjectName → Backend
  | .structured, object => structured object
  | .diagnostic, object => diagnostic object

/-- Neither generation makes up a number. -/
theorem handsOn (generation : Generation) (object : ObjectName) :
    (ofGeneration generation object).HandsOn := by
  cases generation with
  | structured => exact ⟨Structured.brings_start, Structured.brings_clone⟩
  | diagnostic => exact ⟨Diagnostic.brings_start, fun _ _ => trivial⟩

end Backend

end RemoteRecorder
