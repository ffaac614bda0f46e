import RemoteRecorder.Client.Task
import RemoteRecorder.Proofs.Recording.Move

/-!
# RemoteRecorder.Proofs.Client.Turn

**All that can come of an event in a client**, said once and exactly.

* `Client.Outset` lists what can come of a step that a user begins, and `Client.Advance` what can
  come of a turn of a task. Recordings and streams change in these ways only.
* `begin_outset` and `advance_of_take?` say that nothing else happens. Whatever tasks keep is proved
  by cases on an outset and on an advance, and nobody opens the code of the client again.
-/

namespace RemoteRecorder

open Recording (Caller)

namespace Client

/-! ## Slots

A client keeps a recording together with the users of it. Most of what follows is about the
recordings alone, and for that whatever changes only the users changes nothing. -/

/-- The recordings of all slots. -/
def contents (c : Client) : List Recording := c.recordings.map Slot.content

section Slots

variable {c : Client} {i : Nat} {r : Recording}

/-- Slots may be changed in any way that leaves their content. This is why entering, leaving and
releasing a recording are nothing to the other recordings. -/
theorem map_content_modify {α : Type} (f : Slot α → Slot α)
    (hf : ∀ slot, (f slot).content = slot.content) (slots : List (Slot α)) (i : Nat) :
    (slots.modify i f).map Slot.content = slots.map Slot.content := by
  refine List.ext_getElem? ?_
  intro j
  rw [List.getElem?_map, List.getElem?_map, List.getElem?_modify]
  cases slots[j]? with
  | none => rfl
  | some slot =>
    by_cases hi : i = j
    · simp [hi, hf]
    · simp [hi]

@[simp] theorem contents_enterRecording : (c.enterRecording i).contents = c.contents :=
  map_content_modify _ (by intro _; rfl) _ i

@[simp] theorem contents_leaveRecording : (c.leaveRecording i).contents = c.contents :=
  map_content_modify _ (by intro _; rfl) _ i

@[simp] theorem contents_releaseRecording : (c.releaseRecording i).contents = c.contents :=
  map_content_modify _ (by intro _; rfl) _ i

@[simp] theorem contents_setRecording : (c.setRecording i r).contents = c.contents.set i r := by
  unfold contents setRecording Slot.update
  -- Two lists of contents are the same if they agree in every slot, and only one has changed.
  refine List.ext_getElem? ?_
  intro j
  rw [List.getElem?_map, List.getElem?_modify, List.getElem?_set, List.length_map,
    List.getElem?_map]
  by_cases hi : i = j
  · subst hi
    by_cases hlt : i < c.recordings.length
    · simp [hlt]
    · simp [hlt]
  · cases c.recordings[j]? <;> simp [hi]

@[simp] theorem contents_addRecording : (c.addRecording r).1.contents = c.contents ++ [r] := by
  simp [contents, addRecording]

theorem setRecording_self (h : c.contents[i]? = some r) : c.setRecording i r = c := by
  have same : Slot.update c.recordings i r = c.recordings := by
    refine List.ext_getElem? ?_
    intro j
    rw [Slot.update, List.getElem?_modify]
    by_cases hj : i = j
    · subst hj
      rw [contents, List.getElem?_map] at h
      obtain ⟨slot, hs, rfl⟩ := Option.map_eq_some_iff.1 h
      simp [hs]
    · simp [hj]
  rw [setRecording, same]

/-- A recording that a user can reach is in a slot. The reverse fails, since a slot keeps its
recording when all have let go of it. -/
theorem lt_of_recording? (h : c.recording? i = some r) : i < c.contents.length := by
  unfold recording? Slot.held? at h
  split at h
  · rw [contents, List.length_map]
    exact (List.getElem?_eq_some_iff.1 ‹_›).1
  · cases h

end Slots

/-! ## Beginning

A step finds its recording or stream by the number of a slot, and if the slot is empty it is
answered at once. So every step but the creation of a recording starts with the same look. -/

/-- The error that an answer reports. -/
def Answer.failure? : Answer → Option Error
  | error e | readError e | allBytes _ (some e) => some e
  | _ => none

/-- The plan of a recording that a step makes, and its block size. -/
def Step.blueprint? (settings : Settings) : Step → Option (Plan × Int64)
  | create plan size => some (plan, size.getD settings.blockSize)
  | createBare plan size => some (plan, size.getD defaultBlockSize)
  | _ => none

/-- What can come of a step that a user begins: the client and the task after it. -/
inductive Outset (c : Client) : Step → Client → Task → Prop
  /-- There is nothing in the slot, or something is looked at. -/
  | answered {step answer} (h : answer.failure? = none)
      (ho : ∀ i op, step = .operate i op → answer = .noSlot) : Outset c step c (.ended answer)
  | misplanned {step plan size e} (hs : step.blueprint? c.connection.settings = some (plan, size))
      (hb : plan.build = .error e) : Outset c step c (.ended (.error e))
  | created {step plan size options configuration}
      (hs : step.blueprint? c.connection.settings = some (plan, size))
      (hb : plan.build = .ok (options, configuration)) :
      Outset c step (c.addRecording (.create options configuration size)).1
        (.ended (c.addRecording (.create options configuration size)).2)
  | operate {i op r} (hr : c.recording? i = some r) :
      Outset c (.operate i op) (c.enterRecording i) (.recording i (.begun op))
  | drop {i r} (hr : c.recording? i = some r) :
      Outset c (.drop i) (c.releaseRecording i) ((c.releaseRecording i).afterParting i .done)
  | read {i size s} (hs : c.stream? i = some s) :
      Outset c (.read i size) c (.stream i .read (s.read size).run)
  | readAll {i s} (hs : c.stream? i = some s) :
      Outset c (.readAll i) c (.stream i (.readAll []) s.readBlock.run)
  | closeStream {i s} (hs : c.stream? i = some s) :
      Outset c (.closeStream i) c (.stream i .close s.close.run)
  | dropStream {i s} (hs : c.stream? i = some s) :
      Outset c (.dropStream i) (c.releaseStream i) (.stream i .close s.abandon.run)
  | direct {r} : Outset c (.direct r) c (.direct (request c.connection.backend r).run)

variable {c c' : Client} {i : Nat} {r : Recording} {task task' : Task} {step : Step}

theorem outset_create {plan : Plan} {size : Int64}
    (hs : step.blueprint? c.connection.settings = some (plan, size)) :
    Outset c step (c.create plan size).1 (c.create plan size).2 := by
  unfold create
  cases h : plan.build with
  | error e => exact .misplanned hs h
  | ok built => exact .created hs h

theorem outset_withRecording {f : Recording → Client × Task}
    (hf : ∀ r, c.recording? i = some r → Outset c step (f r).1 (f r).2) :
    Outset c step (c.withRecording i f).1 (c.withRecording i f).2 := by
  unfold withRecording
  cases h : c.recording? i with
  | none => exact .answered rfl fun _ _ _ => rfl
  | some r => exact hf r h

theorem outset_withStream {f : Stream → Client × Task}
    (hf : ∀ s, c.stream? i = some s → Outset c step (f s).1 (f s).2) :
    Outset c step (c.withStream i f).1 (c.withStream i f).2 := by
  unfold withStream
  cases h : c.stream? i with
  | none => exact .answered rfl fun _ _ _ => rfl
  | some s => exact hf s h

/-- Whatever step a user begins, what comes of it is on the list. -/
theorem begin_outset (c : Client) (step : Step) :
    Outset c step (c.begin step).1 (c.begin step).2 := by
  cases step with
  | create plan size => exact outset_create rfl
  | createBare plan size => exact outset_create rfl
  | operate i op => exact outset_withRecording fun _ hr => .operate hr
  | inspect i aspect =>
    refine outset_withRecording fun _ _ => .answered ?_ nofun
    cases aspect <;> rfl
  | drop i => exact outset_withRecording fun _ hr => .drop hr
  | read i size => exact outset_withStream fun _ hs => .read hs
  | readAll i => exact outset_withStream fun _ hs => .readAll hs
  | handle i => exact outset_withStream fun _ _ => .answered rfl nofun
  | closeStream i => exact outset_withStream fun _ hs => .closeStream hs
  | dropStream i => exact outset_withStream fun _ hs => .dropStream hs
  | direct r => exact .direct

/-! ## Turns

In its turn a task takes a step by itself, or the call that it waits for comes back. All that such a
turn changes is on the list: recordings, streams, and what the task answers in the end. -/

namespace Task

/-- The recording that a task works on, and where the task stands. -/
def seat? : Task → Option (Nat × Caller)
  | recording i caller => some (i, caller)
  | farewell i caller _ => some (i, caller)
  | _ => none

theorem seat?_eq_some_iff {task : Task} {i : Nat} {x : Caller} :
    task.seat? = some (i, x) ↔ task = recording i x ∨ ∃ answer, task = farewell i x answer := by
  cases task <;> simp [seat?]

end Task

/-- A turn of a task: the client and the task after it, if it can be taken. -/
def take? (c : Client) (task : Task) : Caller.Turn → Option (Client × Task)
  | .act => (c.step? task).map fun (c, task, _) => (c, task)
  | .reply reply => task.pending?.map fun _ => (c, task.answer reply)
  | .unwind text => task.pending?.map fun _ => (c, task.unwind text)

/-- What can come of a turn of a task: the client and the task after it. -/
inductive Advance (c : Client) : Task → Caller.Turn → Client → Task → Prop
  | move {i x t r r' x'} (hr : c.contents[i]? = some r)
      (m : x.Move c.connection.backend r t r' x') :
      Advance c (.recording i x) t (c.setRecording i r') (.recording i x')
  | depart {i o} : Advance c (.recording i (.ended o)) .act (c.depart i o).1 (c.depart i o).2
  | farewell {i x t r r' x' answer} (hr : c.contents[i]? = some r)
      (m : x.Move c.connection.backend r t r' x') :
      Advance c (.farewell i x answer) t (c.setRecording i r') (.farewell i x' answer)
  | part {i result answer} : Advance c (.farewell i (.ended (.returned result)) answer) .act c
      (.ended answer)
  | partUnwound {i text answer} : Advance c (.farewell i (.ended (.unwound text)) answer) .act c
      (.ended (.unwound text))
  | conclude {result} : Advance c (.direct (.done result)) .act (c.conclude result).1
      (.ended (c.conclude result).2)
  | directNote {n rest} : Advance c (.direct (.note n rest)) .act c (.direct rest)
  | directReply {request next} (reply : Reply) :
      Advance c (.direct (.call request next)) (.reply reply) c (.direct (next reply))
  | directCut {request next} (text : String) :
      Advance c (.direct (.call request next)) (.unwind text) c (.ended (.unwound text))
  | finish {i chore result} :
      Advance c (.stream i chore (.done result)) .act c (c.afterChore i chore result)
  | streamNote {i chore n rest} :
      Advance c (.stream i chore (.note n rest)) .act c (.stream i chore rest)
  | streamKeep {i chore s rest} :
      Advance c (.stream i chore (.keep s rest)) .act (c.setStream i s) (.stream i chore rest)
  | streamReply {i chore request next} (reply : Reply) :
      Advance c (.stream i chore (.call request next)) (.reply reply) c
        (.stream i chore (next reply))
  | streamCut {i chore request next} (text : String) :
      Advance c (.stream i chore (.call request next)) (.unwind text) c (.ended (.unwound text))

/-- The step of a caller in a client is a move of the caller on its recording, and the recording is
put back where it was. -/
theorem stepCaller?_eq_some {caller caller' : Caller} {n : List Notice}
    (h : c.stepCaller? i caller = some (c', caller', n)) :
    ∃ r r', c.contents[i]? = some r ∧ caller.Move c.connection.backend r .act r' caller' ∧
      c' = c.setRecording i r' := by
  obtain ⟨slot, hslot, h⟩ := Option.bind_eq_some_iff.1 h
  obtain ⟨⟨r', x, n'⟩, hx, h⟩ := Option.bind_eq_some_iff.1 h
  obtain ⟨rfl, rfl, rfl⟩ : c.setRecording i r' = c' ∧ x = caller' ∧ n' = n := by simpa using h
  exact ⟨slot.content, r', by simp [contents, hslot], .of_step? hx, rfl⟩

/-- A caller that is not at its end steps as a caller. -/
theorem step?_recording {caller : Caller} (h : ∀ o, caller ≠ .ended o) :
    c.step? (.recording i caller) = (c.stepCaller? i caller).map fun (c, caller, notices) =>
      (c, .recording i caller, notices) := by
  cases caller with
  | ended o => exact (h o rfl).elim
  | _ => rfl

theorem step?_farewell {caller : Caller} {answer : Answer} (h : ∀ o, caller ≠ .ended o) :
    c.step? (.farewell i caller answer) = (c.stepCaller? i caller).map fun (c, caller, notices) =>
      (c, .farewell i caller answer, notices) := by
  cases caller with
  | ended o => exact (h o rfl).elim
  | _ => rfl

/-- A step that a task takes by itself is on the list. A caller at its end hands over to the client,
so it is looked at first. -/
theorem advance_of_step? {n : List Notice} (h : c.step? task = some (c', task', n)) :
    Advance c task .act c' task' := by
  cases task with
  | recording i x =>
    by_cases hx : ∃ o, x = .ended o
    · obtain ⟨o, rfl⟩ := hx
      obtain ⟨rfl, rfl, -⟩ : (c.depart i o).1 = c' ∧ (c.depart i o).2 = task' ∧ [] = n := by
        simpa [step?] using h
      exact .depart
    · rw [step?_recording fun o ho => hx ⟨o, ho⟩] at h
      obtain ⟨⟨c₁, x', n'⟩, h₁, h₂⟩ := Option.map_eq_some_iff.1 h
      obtain ⟨rfl, rfl, -⟩ : c₁ = c' ∧ Task.recording i x' = task' ∧ n' = n := by simpa using h₂
      obtain ⟨r, r', hr, m, rfl⟩ := stepCaller?_eq_some h₁
      exact .move hr m
  | farewell i x answer =>
    by_cases hx : ∃ o, x = .ended o
    · obtain ⟨o, rfl⟩ := hx
      cases o with
      | returned result =>
        obtain ⟨rfl, rfl, -⟩ : c = c' ∧ Task.ended answer = task' ∧ [] = n := by
          simpa [step?] using h
        exact .part
      | unwound text =>
        obtain ⟨rfl, rfl, -⟩ : c = c' ∧ Task.ended (.unwound text) = task' ∧ [] = n := by
          simpa [step?] using h
        exact .partUnwound
    · rw [step?_farewell fun o ho => hx ⟨o, ho⟩] at h
      obtain ⟨⟨c₁, x', n'⟩, h₁, h₂⟩ := Option.map_eq_some_iff.1 h
      obtain ⟨rfl, rfl, -⟩ : c₁ = c' ∧ Task.farewell i x' answer = task' ∧ n' = n := by
        simpa using h₂
      obtain ⟨r, r', hr, m, rfl⟩ := stepCaller?_eq_some h₁
      exact .farewell hr m
  | direct rest =>
    cases rest with
    | done result =>
      obtain ⟨rfl, rfl, -⟩ :
          (c.conclude result).1 = c' ∧ Task.ended (c.conclude result).2 = task' ∧ [] = n := by
        simpa [step?] using h
      exact .conclude
    | note notice rest =>
      obtain ⟨rfl, rfl, -⟩ : c = c' ∧ Task.direct rest = task' ∧ [notice] = n := by
        simpa [step?] using h
      exact .directNote
    -- A request of the client itself keeps no state between its calls.
    | keep s rest => exact s.elim
    | call request next => cases h
  | stream i chore rest =>
    cases rest with
    | done result =>
      obtain ⟨rfl, rfl, -⟩ : c = c' ∧ c.afterChore i chore result = task' ∧ [] = n := by
        simpa [step?] using h
      exact .finish
    | note notice rest =>
      obtain ⟨rfl, rfl, -⟩ : c = c' ∧ Task.stream i chore rest = task' ∧ [notice] = n := by
        simpa [step?] using h
      exact .streamNote
    | keep s rest =>
      obtain ⟨rfl, rfl, -⟩ : c.setStream i s = c' ∧ Task.stream i chore rest = task' ∧ [] = n := by
        simpa [step?] using h
      exact .streamKeep
    | call request next => cases h
  | ended answer => cases h

/-- A reply, or being cut off, leaves the recording as it is. -/
theorem move_of_take? {x x' : Caller} {t : Caller.Turn} (hi : i < c.contents.length)
    (h : ∀ r, x.take? c.connection.backend r t = some (r, x')) :
    ∃ r, c.contents[i]? = some r ∧ x.Move c.connection.backend r t r x' ∧
      c.setRecording i r = c := by
  have hr : c.contents[i]? = some c.contents[i] := List.getElem?_eq_getElem hi
  exact ⟨_, hr, Caller.take?_eq_some_iff.1 (h _), setRecording_self hr⟩

theorem Advance.keeping {t : Caller.Turn} (h : Advance c task t c' task') (same : c' = c) :
    Advance c task t c task' := by
  rwa [same] at h

/-- And so is every turn, a reply or an unwinding included. -/
theorem advance_of_take? {t : Caller.Turn}
    (hi : ∀ i x, task.seat? = some (i, x) → i < c.contents.length)
    (h : c.take? task t = some (c', task')) : Advance c task t c' task' := by
  cases t with
  | act =>
    obtain ⟨⟨c₁, task₁, n⟩, h₁, h₂⟩ := Option.map_eq_some_iff.1 h
    obtain ⟨rfl, rfl⟩ : c₁ = c' ∧ task₁ = task' := by simpa using h₂
    exact advance_of_step? h₁
  | reply reply =>
    obtain ⟨request, hp, h⟩ := Option.map_eq_some_iff.1 h
    obtain ⟨rfl, rfl⟩ : c = c' ∧ task.answer reply = task' := by simpa using h
    cases task with
    | recording i x =>
      obtain ⟨r, hr, m, same⟩ := move_of_take? (hi i x rfl) fun r => Caller.take?_reply hp
      exact (Advance.move hr m).keeping same
    | farewell i x answer =>
      obtain ⟨r, hr, m, same⟩ := move_of_take? (hi i x rfl) fun r => Caller.take?_reply hp
      exact (Advance.farewell hr m).keeping same
    | direct rest =>
      cases rest with
      | call request next => exact .directReply reply
      | _ => cases hp
    | stream i chore rest =>
      cases rest with
      | call request next => exact .streamReply reply
      | _ => cases hp
    | ended answer => cases hp
  | unwind text =>
    obtain ⟨request, hp, h⟩ := Option.map_eq_some_iff.1 h
    obtain ⟨rfl, rfl⟩ : c = c' ∧ task.unwind text = task' := by simpa using h
    cases task with
    | recording i x =>
      obtain ⟨r, hr, m, same⟩ := move_of_take? (hi i x rfl) fun r => Caller.take?_unwind hp
      exact (Advance.move hr m).keeping same
    | farewell i x answer =>
      obtain ⟨r, hr, m, same⟩ := move_of_take? (hi i x rfl) fun r => Caller.take?_unwind hp
      exact (Advance.farewell hr m).keeping same
    | direct rest =>
      cases rest with
      | call request next => exact .directCut text
      | _ => cases hp
    | stream i chore rest =>
      cases rest with
      | call request next => exact .streamCut text
      | _ => cases hp
    | ended answer => cases hp

end Client

end RemoteRecorder
