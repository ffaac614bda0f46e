import RemoteRecorder.Recording.Operation

/-!
# RemoteRecorder.Client.Step

**Steps of a client and their answers**: what a user does with a connection, with the
recordings and with the streams made through it. Recordings and streams are named by
the number of the slot they are kept in.
-/

namespace RemoteRecorder

namespace Client

/-- What a new recording is to be like, as the user writes it. -/
structure Plan where
  /-- The settings in the order in which they were made. -/
  settings : List (OptionKey × String) := []
  origin : Configuration.Origin := .profile
  deriving DecidableEq

/-- Reads the options and then the configuration of a plan. -/
def Plan.build (p : Plan) : Except Error (Options × Configuration) := do
  let options ← (Options.Draft.ofList p.settings).build.mapError Options.Invalid.toError
  let configuration ← (Configuration.ofOrigin p.origin).mapError Configuration.Invalid.toError
  return (options, configuration)

/-- What can be seen of a recording. -/
inductive Aspect where
  | state
  | id
  | options
  | configuration
  | description
  deriving DecidableEq

/-- A request that is made to the backend without a recording. -/
inductive DirectRequest where
  | start (plan : Plan)
  | stop (id : SessionId)
  | dump (id : SessionId) (path : String)
  | clone (id : SessionId) (stop : Bool)
  | close (id : SessionId)
  | openStream (id : SessionId) (request : StreamRequest)
  deriving DecidableEq

/-- What a user does. -/
inductive Step where
  /-- Makes a recording. Its block size is the given one, or that of the connection. -/
  | create (plan : Plan) (blockSize : Option Int64)
  /-- Makes a recording with the block size given or, instead of the connection's, the
  one that is used where nobody chooses. -/
  | createBare (plan : Plan) (blockSize : Option Int64)
  | operate (recording : Nat) (operation : Recording.Operation)
  | inspect (recording : Nat) (aspect : Aspect)
  /-- Gives a recording up. -/
  | drop (recording : Nat)
  | read (stream : Nat) (size : Nat)
  /-- Reads until there is no more data or a read fails. -/
  | readAll (stream : Nat)
  | handle (stream : Nat)
  | closeStream (stream : Nat)
  /-- Gives a stream up. -/
  | dropStream (stream : Nat)
  | direct (request : DirectRequest)
  deriving DecidableEq

/-- What a step answers. -/
inductive Answer where
  | done
  | recording (slot : Nat) (id : SessionId) (state : State)
  | stream (slot : Nat) (handle : Int64)
  | id (id : SessionId)
  | state (state : State)
  | options (options : Options)
  | configuration (configuration : Configuration)
  | description (text : String)
  | handle (handle : Int64)
  | bytes (content : List UInt8)
  /-- What was read before the end of the data or before a read failed. -/
  | allBytes (content : List UInt8) (failure : Option Error)
  | error (error : Error)
  /-- A single read failed. -/
  | readError (error : Error)
  /-- A remote call unwound the step. -/
  | unwound (text : String)
  /-- There is nothing in the slot. -/
  | noSlot
  deriving DecidableEq

/-- The answer about one aspect of a recording. -/
def Aspect.answer (r : Recording) : Aspect → Answer
  | state => .state r.state
  | id => .id r.id
  | options => .options r.options
  | configuration => .configuration r.configuration
  | description => .description r.description

end Client

end RemoteRecorder
