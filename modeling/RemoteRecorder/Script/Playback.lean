import RemoteRecorder.Script.Stage

/-!
# RemoteRecorder.Script.Playback

**Playing a script**: connecting, taking the steps of the script one after the other, and
giving up whatever is left at the end. A `Playback` tells all that could be seen of it.
-/

namespace RemoteRecorder

open Client (Step)

/-- What is seen of a step of the user, and of the recordings after it. -/
structure Scene where
  seen : Transcript
  recordings : List (Option Recording)

/-- What is seen of a whole script. -/
inductive Playback where
  /-- Connecting was unwound. -/
  | unwound (text : String)
  | refused (overture : Overture) (error : Error)
  /-- The steps of the user one by one, and what giving up all slots looked like. -/
  | played (overture : Overture) (connection : Connection) (scenes : List Scene)
      (teardown : Transcript)

namespace Script

/-- More jobs than one step of the user can lead to. A task goes through less than a
hundred steps, apart from a dozen for each read it repeats; every task but the user's is
in a hook of some cue, and every repeated read but the last two takes a cue. -/
def limit (script : Script) : Nat :=
  let cues := script.cues.flatMap (·.2)
  128 * (cues.length + (cues.flatMap Cue.meanwhile).length + 2)

/-- Takes the steps of the user one after the other. -/
def playSteps (limit : Nat) : Stage → List Step → Stage × List Scene
  | st, [] => (st, [])
  | st, step :: steps =>
    let st := { st with seen := {} }.perform limit step
    let scene : Scene := ⟨st.seen, st.client.held⟩
    let (st, scenes) := playSteps limit st steps
    (st, scene :: scenes)

/-- Gives up slots one after the other. -/
def giveUp (limit : Nat) (st : Stage) (steps : List Step) : Stage :=
  steps.foldl (fun st step => (st.push .user step).run limit) st

/-- Gives up all streams, and then all recordings that are there by then. -/
def playTeardown (limit : Nat) (st : Stage) : Transcript :=
  let st := { st with seen := {} }
  let st := giveUp limit st ((List.range st.client.streams.length).map Step.dropStream)
  let st := giveUp limit st ((List.range st.client.recordings.length).map Step.drop)
  (st.join.run limit).seen

/-- Plays a script. -/
def play (script : Script) : Playback :=
  match script.probe {} script.cues script.opening.attempt.run with
  | (_, _, .error text) => .unwound text
  | (overture, _, .ok (.error e)) => .refused overture e
  | (overture, cues, .ok (.ok connection)) =>
    let stage : Stage := { client := { connection }, cues }
    let (stage, scenes) := playSteps script.limit stage script.steps
    .played overture connection scenes (playTeardown script.limit stage)

end Script

end RemoteRecorder
