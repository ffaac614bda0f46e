import RemoteRecorder.Script

/-!
# RemoteRecorder.Script.Stage

**The stage**: a client of a scripted target, while steps are under way.

* Jobs under way are on a stack, and the topmost goes on. A remote call puts what is to
  be done meanwhile on top of the task that has made it, and comes back when that is
  done.
* Somebody else may wait for a transition to settle, or for a stream that is in use. As
  soon as the wait is over, that step becomes the topmost job.
-/

namespace RemoteRecorder

open Client (Step Answer Task)

/-- Whose answer it is. -/
inductive Part where
  /-- The user, who takes the steps of the script. -/
  | user
  /-- A step on the spot. -/
  | onTheSpot
  /-- A step by somebody else. -/
  | aside

/-- Something under way. -/
inductive Job where
  | task (part : Part) (task : Task)
  /-- What is still to be done before a call comes back. -/
  | hooks (hooks : List Hook)
  /-- The call of the task below comes back. -/
  | comeback (comeback : Comeback)

/-- What is seen of a step. -/
structure Transcript where
  answers : List Answer := []
  calls : List Call := []
  notices : List Notice := []
  /-- The answers of the steps on the spot, in the order in which they ended. -/
  onTheSpot : List Answer := []
  aside : List Answer := []

/-- Writes an answer down. -/
def Transcript.record (t : Transcript) (answer : Answer) : Part → Transcript
  | .user => { t with answers := t.answers ++ [answer] }
  | .onTheSpot => { t with onTheSpot := t.onTheSpot ++ [answer] }
  | .aside => { t with aside := t.aside ++ [answer] }

/-- A client of a scripted target. -/
structure Stage where
  client : Client
  cues : List (String × List Cue)
  /-- What is under way, the topmost job first. -/
  jobs : List Job := []
  /-- A step by somebody else who waits. -/
  waiting : Option Step := none
  seen : Transcript := {}

namespace Stage

/-- Begins a step as the topmost job. -/
def push (st : Stage) (part : Part) (step : Step) : Stage :=
  let (client, task) := st.client.begin step
  { st with client, jobs := .task part task :: st.jobs }

/-- Whether no transition is under way on a recording. -/
def isSettled (st : Stage) (i : Nat) : Bool :=
  match st.client.recording? i with
  | some r => r.cell.phase.isSettled
  | none => true

/-- Whether no task works on a stream. -/
def isIdle (st : Stage) (i : Nat) : Bool :=
  st.jobs.all fun
    | .task _ (.stream j _ _) => i != j
    | _ => true

/-- Whether somebody else can begin a step. -/
def admits (st : Stage) : Step → Bool
  | .operate i _ => st.isSettled i
  | .read i _ | .readAll i | .closeStream i | .dropStream i => st.isIdle i
  | _ => true

/-- Lets the one who waits begin, if the wait is over. -/
def wake (st : Stage) : Stage :=
  match st.waiting with
  | some step => if st.admits step then { st with waiting := none }.push .aside step else st
  | none => st

/-- Lets the one who waits begin, now that the step of the user is over. -/
def join (st : Stage) : Stage :=
  match st.waiting with
  | some step => { st with waiting := none }.push .aside step
  | none => st

/-- Goes on with a task, which is the topmost job, above the jobs `below`. A task that
waits for itself is given up. -/
def advance (st : Stage) (part : Part) (task : Task) (below : List Job) : Stage :=
  match task with
  | .ended answer => { st with jobs := below, seen := st.seen.record answer part }
  | task =>
    match st.client.step? task with
    | some (client, task, notices) =>
      let seen := { st.seen with notices := st.seen.notices ++ notices }
      { st with client, seen, jobs := .task part task :: below }.wake
    | none =>
      match task.pending? with
      | some call =>
        let (cue, cues) := nextCue st.cues call.operation
        let seen := { st.seen with calls := st.seen.calls ++ [call] }
        let jobs := .hooks cue.meanwhile :: .comeback cue.comeback :: .task part task :: below
        { st with cues, seen, jobs }
      | none => { st with jobs := below }

/-- Goes on with the topmost job. -/
def step (st : Stage) : Stage :=
  match st.jobs with
  | [] => st
  | .task part task :: below => st.advance part task below
  | .hooks [] :: below => { st with jobs := below }
  | .hooks (.onTheSpot s :: hooks) :: below =>
    { st with jobs := .hooks hooks :: below }.push .onTheSpot s
  | .hooks (.aside s :: hooks) :: below =>
    { st with jobs := .hooks hooks :: below, waiting := some s }.wake
  | .comeback (.reply reply) :: .task part task :: below =>
    { st with jobs := .task part (task.answer reply) :: below }
  | .comeback (.unwinding text) :: .task part task :: below =>
    { st with jobs := .task part (task.unwind text) :: below }
  | .comeback _ :: below => { st with jobs := below }

/-- Goes on until nothing is under way, for `n` steps at most. -/
def run : Nat → Stage → Stage
  | 0, st => st
  | n + 1, st => if st.jobs.isEmpty then st else run n st.step

/-- Takes a step of the user to its end, and whatever is done meanwhile. -/
def perform (limit : Nat) (st : Stage) (step : Step) : Stage :=
  run limit (run limit (st.push .user step)).join

end Stage

end RemoteRecorder
