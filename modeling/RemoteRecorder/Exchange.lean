import RemoteRecorder.Notice
import RemoteRecorder.Value

/-!
# RemoteRecorder.Exchange

**Exchanges with the target**: what one operation does, as a tree that branches on the
answers of the remote calls it makes.

* A node is a remote call, a notice, a new state of the object the operation works on,
  or the end with a result. Nothing happens between two calls that is not in the tree.
* A call need not come back at all: it may unwind the operation. The tree says nothing
  about that because nothing is left to say. The operation is cut off at the call, and
  the last state it has set remains.
* `Exchange σ` is a monad in the result, so operations are written in sequence. With
  `σ := Empty` there is no state to set.
-/

namespace RemoteRecorder

/-- What an operation does, depending on the answers to its remote calls. -/
inductive Exchange (σ α : Type) where
  /-- The end, with a result. -/
  | done (result : α)
  /-- A notice, and what follows. -/
  | note (notice : Notice) (next : Exchange σ α)
  /-- A new state of the object, and what follows. -/
  | keep (state : σ) (next : Exchange σ α)
  /-- A remote call, and what follows for each reply. -/
  | call (request : Call) (next : Reply → Exchange σ α)

namespace Exchange

variable {σ α β γ : Type}

/-- One exchange after the other. -/
def bind : Exchange σ α → (α → Exchange σ β) → Exchange σ β
  | done a, f => f a
  | note n next, f => note n (next.bind f)
  | keep s next, f => keep s (next.bind f)
  | call c next, f => call c fun r => (next r).bind f

instance : Monad (Exchange σ) where
  pure := done
  bind := bind

@[simp] theorem pure_eq (a : α) : (pure a : Exchange σ α) = done a := rfl

@[simp] theorem done_bind (a : α) (f : α → Exchange σ β) : (done a >>= f) = f a := rfl

@[simp] theorem note_bind (n : Notice) (e : Exchange σ α) (f : α → Exchange σ β) :
    (note n e >>= f) = note n (e >>= f) := rfl

@[simp] theorem keep_bind (s : σ) (e : Exchange σ α) (f : α → Exchange σ β) :
    (keep s e >>= f) = keep s (e >>= f) := rfl

@[simp] theorem call_bind (c : Call) (k : Reply → Exchange σ α) (f : α → Exchange σ β) :
    (call c k >>= f) = call c fun r => k r >>= f := rfl

theorem bind_done (e : Exchange σ α) : (e >>= done) = e := by
  induction e with
  | done a => rfl
  | note n e ih => simp [ih]
  | keep s e ih => simp [ih]
  | call c k ih => simp [ih]

theorem bind_assoc (e : Exchange σ α) (f : α → Exchange σ β) (g : β → Exchange σ γ) :
    (e >>= f >>= g) = (e >>= fun a => f a >>= g) := by
  induction e with
  | done a => rfl
  | note n e ih => simp [ih]
  | keep s e ih => simp [ih]
  | call c k ih => simp [ih]

instance : LawfulMonad (Exchange σ) :=
  LawfulMonad.mk' (Exchange σ) (fun e => bind_done e) (fun _ _ => rfl) bind_assoc

/-- Reports a notice. -/
def report (n : Notice) : Exchange σ Unit := note n (done ())

/-- Calls an operation of a management object. -/
def send (object : ObjectName) (operation : String) (args : List Value) : Exchange σ Reply :=
  call ⟨object, operation, args⟩ done

end Exchange

/-- What is done to an object: an exchange that may end in an error. -/
abbrev Action (σ α : Type) := ExceptT Error (Exchange σ) α

namespace Action

variable {σ : Type}

/-- Reports a notice. -/
def report (n : Notice) : Action σ Unit := ExceptT.lift (Exchange.report n)

/-- Gives the object a new state. -/
def keep (s : σ) : Action σ Unit := ExceptT.lift (.keep s (.done ()))

/-- Calls an operation; a failure is the error of the operation. -/
def send (object : ObjectName) (operation : String) (args : List Value) : Action σ Value :=
  ExceptT.mk do
    return (← Exchange.send object operation args).mapError (Error.ofFailure operation)

end Action

/-- A request to the target: an action without an object. -/
abbrev Request (α : Type) := Action Empty α

namespace Request

variable {α : Type}

/-- Calls an operation and reports that. -/
def invoke (object : ObjectName) (operation : String) (args : List Value) : Request Value := do
  Action.report (.invoking operation object)
  Action.send object operation args

/-- Calls an operation whose answer does not matter. -/
def command (object : ObjectName) (operation : String) (args : List Value) : Request Unit := do
  let _ ← invoke object operation args

/-- Reads the answer of an operation as a certain kind of value. -/
def expect (operation kind : String) (read? : Value → Option α) (answer : Value) : Request α :=
  match read? answer with
  | some a => return a
  | none => throw (.unexpected operation ("expected " ++ kind ++ ", got " ++ answer.kind))

end Request

end RemoteRecorder
