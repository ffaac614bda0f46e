/-!
# RemoteRecorder.Client.Slot

**Slots**: numbered places for things that a user holds. A slot that has been given up
is never used again, and what was in it is still there for whoever works on it. So a
slot also counts the tasks that work on its content.
-/

namespace RemoteRecorder

/-- A place for a recording or a stream. -/
structure Slot (α : Type) where
  content : α
  /-- Whether the user still holds the content. -/
  inUse : Bool := true
  /-- How many tasks work on the content. -/
  tasks : Nat := 0
  deriving DecidableEq

namespace Slot

variable {α : Type}

/-- What is in a slot, if it is in use. -/
def held? (slots : List (Slot α)) (i : Nat) : Option α :=
  match slots[i]? with
  | some slot => if slot.inUse then some slot.content else none
  | none => none

/-- Changes what is in a slot. -/
def update (slots : List (Slot α)) (i : Nat) (content : α) : List (Slot α) :=
  slots.modify i fun slot => { slot with content }

/-- Gives a slot up. -/
def release (slots : List (Slot α)) (i : Nat) : List (Slot α) :=
  slots.modify i fun slot => { slot with inUse := false }

/-- Has one more task work on what is in a slot. -/
def enter (slots : List (Slot α)) (i : Nat) : List (Slot α) :=
  slots.modify i fun slot => { slot with tasks := slot.tasks + 1 }

/-- Has one task less work on what is in a slot. -/
def leave (slots : List (Slot α)) (i : Nat) : List (Slot α) :=
  slots.modify i fun slot => { slot with tasks := slot.tasks - 1 }

/-- Whether a slot has been given up and no task works on its content. -/
def isDeserted (slots : List (Slot α)) (i : Nat) : Bool :=
  match slots[i]? with
  | some slot => !slot.inUse && slot.tasks == 0
  | none => false

end Slot

end RemoteRecorder
