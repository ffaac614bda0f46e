import RemoteRecorder.Proofs.Client.Traffic
import RemoteRecorder.Proofs.Stream.Usage

/-!
# RemoteRecorder.Proofs.Client.Streaming

**Streams of a client**: what a client does with a stream in one of its slots is a usage of
that stream.

* A `Course` is a task of a client that goes on turn by turn, against a target, while nothing
  else happens. A task on a stream comes to what its exchange comes to (`stream_leads`).
* So the steps of a user that read and close a stream make the calls of `Usage.play`, and
  leave the stream of `Usage.play` in the slot.
-/

namespace RemoteRecorder

/-- The turn in which a call comes back. -/
def Comeback.turn : Comeback → Recording.Caller.Turn
  | .reply answer => .reply answer
  | .unwinding text => .unwind text

namespace Client

/-! ## Courses

A task on a stream is taken turn by turn, and its exchange as a whole. To compare the two, a task is
here led on by itself, and its calls come back from a target as those of an exchange do. -/

/-- A task of a client, and the calls that have come back so far. -/
structure Course where
  client : Client
  task : Task
  log : List Contact

namespace Course

/-- The next turn of a task. -/
inductive Next (t : Target) : Course → Course → Prop where
  | act {c c' task task' log} (h : c.take? task .act = some (c', task')) :
      Next t ⟨c, task, log⟩ ⟨c', task', log⟩
  | call {c c' task task' log request back} (waits : task.pending? = some request)
      (comes : t log request = back) (h : c.take? task back.turn = some (c', task')) :
      Next t ⟨c, task, log⟩ ⟨c', task', log ++ [(request, back)]⟩

/-- Any number of turns of a task. -/
inductive Leads (t : Target) : Course → Course → Prop where
  | refl (x) : Leads t x x
  | step {x y z} (h : Next t x y) (rest : Leads t y z) : Leads t x z

variable {t : Target} {x y z : Course}

theorem Leads.trans (h : Leads t x y) (h' : Leads t y z) : Leads t x z := by
  induction h with
  | refl x => exact h'
  | step h rest ih => exact .step h (ih h')

end Course

/-! ## Slots of streams -/

variable {c : Client} {i : Nat} {s s' : Stream}

/-- The stream in a slot, also if the slot has been given up. -/
def content? (c : Client) (i : Nat) : Option Stream := c.streams[i]?.map Slot.content

theorem slot_of_stream? (h : c.stream? i = some s) :
    ∃ slot, c.streams[i]? = some slot ∧ slot.inUse = true ∧ slot.content = s := by
  unfold stream? Slot.held? at h
  cases hs : c.streams[i]? with
  | none => simp [hs] at h
  | some slot => exact ⟨slot, rfl, by simpa [hs] using h⟩

theorem content?_of_stream? (h : c.stream? i = some s) : c.content? i = some s := by
  obtain ⟨slot, hs, -, hc⟩ := slot_of_stream? h
  simp [content?, hs, hc]

theorem setStream_self (h : c.content? i = some s) : c.setStream i s = c := by
  obtain ⟨slot, hs, rfl⟩ := Option.map_eq_some_iff.1 h
  have : Slot.update c.streams i slot.content = c.streams := by
    refine List.ext_getElem? ?_
    intro j
    rw [Slot.update, List.getElem?_modify]
    by_cases hj : i = j
    · subst hj
      simp [hs]
    · simp [hj]
  rw [setStream, this]

@[simp] theorem setStream_setStream : (c.setStream i s).setStream i s' = c.setStream i s' := by
  simp only [setStream, Slot.update, List.modify_modify_eq]
  rfl

theorem content?_setStream (h : c.content? i = some s) (s' : Stream) :
    (c.setStream i s').content? i = some s' := by
  obtain ⟨slot, hs, -⟩ := Option.map_eq_some_iff.1 h
  simp [content?, setStream, Slot.update, hs]

theorem stream?_setStream (h : c.stream? i = some s) (s' : Stream) :
    (c.setStream i s').stream? i = some s' := by
  obtain ⟨slot, hs, inUse, -⟩ := slot_of_stream? h
  simp [stream?, Slot.held?, setStream, Slot.update, hs, inUse]

/-! ## Tasks on streams

The correspondence, by recursion over the exchange: a turn is an action that makes no call, or it
brings the reply of one. -/

/-- A task on a stream whose exchange has ended. -/
def ended (i : Nat) (chore : Chore) : Except String (Except Error chore.Brings) → Task
  | .ok result => .stream i chore (.done result)
  | .error text => .ended (.unwound text)

/-- A task on a stream comes to what its exchange comes to. -/
theorem stream_leads (t : Target) (chore : Chore) (e : Exchange Stream (Except Error chore.Brings))
    (log : List Contact) (h : c.content? i = some s) :
    Course.Leads t ⟨c, .stream i chore e, log⟩
      ⟨c.setStream i ((e.meet t log).after s), ended i chore (e.meet t log).ending,
        log ++ (e.meet t log).log⟩ := by
  -- The slot always holds the stream that the exchange has set last.
  induction e generalizing c s log with
  | done result =>
    have keep : c.setStream i s = c := setStream_self h
    simpa [Exchange.meet, Encounter.after, keep, ended] using Course.Leads.refl _
  | note n next ih => exact .step (.act rfl) (ih log h)
  | keep s₁ next ih =>
    have rest := ih log (content?_setStream h s₁)
    rw [setStream_setStream] at rest
    rw [Exchange.meet_keep, Encounter.after_keeping]
    exact .step (.act rfl) rest
  | call request next ih =>
    cases hb : t log request with
    | unwinding text =>
      rw [Exchange.meet_of_unwinding hb]
      have last : Course.Leads t ⟨c, .stream i chore (.call request next), log⟩
          ⟨c, .ended (.unwound text), log ++ [(request, .unwinding text)]⟩ :=
        .step (.call rfl hb rfl) (.refl _)
      simpa [Encounter.after, setStream_self h, ended] using last
    | reply reply =>
      rw [Exchange.meet_of_reply hb]
      have rest := ih reply (log ++ [(request, .reply reply)]) h
      rw [List.append_assoc] at rest
      exact .step (.call rfl hb rfl) rest

/-- What follows a task on a stream. -/
def afterTask (c : Client) (i : Nat) (chore : Chore) :
    Except String (Except Error chore.Brings) → Task
  | .ok result => c.afterChore i chore result
  | .error text => .ended (.unwound text)

theorem ended_leads (t : Target) (chore : Chore)
    (ending : Except String (Except Error chore.Brings)) (log : List Contact) :
    Course.Leads t ⟨c, ended i chore ending, log⟩ ⟨c, c.afterTask i chore ending, log⟩ := by
  cases ending with
  | ok result => exact .step (.act rfl) (.refl _)
  | error text => exact .refl _

/-! ## Steps of a user

Each step on a stream is one use of it, with the same calls and the same answer. -/

/-- A user takes a step, from its beginning to its answer. -/
def Takes (t : Target) (c : Client) (log : List Contact) (step : Step) (c' : Client)
    (log' : List Contact) (answer : Answer) : Prop :=
  Course.Leads t ⟨(c.begin step).1, (c.begin step).2, log⟩ ⟨c', .ended answer, log'⟩

/-- The answer of a read. -/
def readAnswer : Except String (Except Error (List UInt8)) → Answer
  | .ok (.ok bytes) => .bytes bytes
  | .ok (.error e) => .readError e
  | .error text => .unwound text

/-- The answer of a close. -/
def closeAnswer : Except String (Except Error Unit) → Answer
  | .ok (.ok ()) => .done
  | .ok (.error e) => .error e
  | .error text => .unwound text

theorem afterTask_read (ending : Except String (Except Error (List UInt8))) :
    c.afterTask i .read ending = .ended (readAnswer ending) := by
  rcases ending with text | e | bytes <;> rfl

theorem afterTask_close (ending : Except String (Except Error Unit)) :
    c.afterTask i .close ending = .ended (closeAnswer ending) := by
  rcases ending with text | e | ⟨⟩ <;> rfl

variable {t : Target} {u : Stream.Usage}

/-- A step that reads the stream in a slot is a read of that stream. -/
theorem read_takes (h : c.stream? i = some u.stream) (n : Nat) :
    c.Takes t u.log (.read i n) (c.setStream i (u.step t (.read n)).stream)
      (u.step t (.read n)).log (readAnswer (u.read t n).ending) := by
  have hbegin : c.begin (.read i n) = (c, .stream i .read (u.stream.read n).run) := by
    simp [begin, withStream, h]
  rw [Takes, hbegin, ← afterTask_read]
  exact (stream_leads t .read _ u.log (content?_of_stream? h)).trans (ended_leads t .read _ _)

/-- A step that closes the stream in a slot is a close of that stream. -/
theorem close_takes (h : c.stream? i = some u.stream) :
    c.Takes t u.log (.closeStream i) (c.setStream i (u.step t .close).stream)
      (u.step t .close).log (closeAnswer (u.close t).ending) := by
  have hbegin : c.begin (.closeStream i) = (c, .stream i .close u.stream.close.run) := by
    simp [begin, withStream, h]
  rw [Takes, hbegin, ← afterTask_close]
  exact (stream_leads t .close _ u.log (content?_of_stream? h)).trans (ended_leads t .close _ _)

/-- A step that gives the stream in a slot up gives that stream up. -/
theorem drop_takes (h : c.stream? i = some u.stream) :
    c.Takes t u.log (.dropStream i) ((c.releaseStream i).setStream i (u.dropped t).stream)
      (u.dropped t).log (closeAnswer (u.abandon t).ending) := by
  have hbegin : c.begin (.dropStream i) =
      (c.releaseStream i, .stream i .close u.stream.abandon.run) := by
    simp [begin, withStream, h]
  have content : (c.releaseStream i).content? i = some u.stream := by
    obtain ⟨slot, hs, hc⟩ := Option.map_eq_some_iff.1 (content?_of_stream? h)
    simp [content?, releaseStream, Slot.release, hs, hc]
  rw [Takes, hbegin, ← afterTask_close]
  exact (stream_leads t .close _ u.log content).trans (ended_leads t .close _ _)

/-! ## Runs of steps -/

/-- The step that uses the stream in a slot. -/
def useStep (i : Nat) : Stream.Use → Step
  | .read n => .read i n
  | .close => .closeStream i

/-- A user takes steps, one after the other. -/
inductive TakesAll (t : Target) :
    Client → List Contact → List Step → Client → List Contact → Prop where
  | nil {c log} : TakesAll t c log [] c log
  | cons {c log step c₁ log₁ answer steps c' log'} (first : Takes t c log step c₁ log₁ answer)
      (rest : TakesAll t c₁ log₁ steps c' log') : TakesAll t c log (step :: steps) c' log'

/-- Steps may be taken after one another. -/
theorem TakesAll.append {log log₁ log' : List Contact} {c₁ c' : Client} {steps steps' : List Step}
    (h : TakesAll t c log steps c₁ log₁) (h' : TakesAll t c₁ log₁ steps' c' log') :
    TakesAll t c log (steps ++ steps') c' log' := by
  induction h with
  | nil => exact h'
  | cons first rest ih => exact .cons first (ih h')

/-- Steps that read and close the stream in a slot come to what the usage of that stream comes
to, and leave the stream in the slot as the usage leaves it. -/
theorem uses_taken (t : Target) (h : c.stream? i = some u.stream) (uses : List Stream.Use) :
    ∃ c', TakesAll t c u.log (uses.map (useStep i)) c' (u.play t uses).log ∧
      c'.stream? i = some (u.play t uses).stream := by
  induction uses generalizing c u with
  | nil => exact ⟨c, .nil, h⟩
  | cons use uses ih =>
    obtain ⟨c', rest, hc'⟩ := ih (stream?_setStream h (u.step t use).stream)
    refine ⟨c', ?_, hc'⟩
    cases use with
    | read n => exact .cons (read_takes h n) rest
    | close => exact .cons (close_takes h) rest

/-- Steps that read and close the stream in a slot and then give it up make the calls of the
usage of that stream, to its end. -/
theorem uses_taken_to_drop (t : Target) (h : c.stream? i = some u.stream)
    (uses : List Stream.Use) :
    ∃ c', TakesAll t c u.log (uses.map (useStep i) ++ [.dropStream i]) c'
      ((u.play t uses).dropped t).log := by
  obtain ⟨c', taken, hc'⟩ := uses_taken t h uses
  exact ⟨_, taken.append (.cons (drop_takes hc') .nil)⟩

end Client

end RemoteRecorder
