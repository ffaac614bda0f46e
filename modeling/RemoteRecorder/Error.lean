import RemoteRecorder.State

/-!
# RemoteRecorder.Error

**What can go wrong**: the failures that a transport reports, and the errors that the
operations of this library return.

* `TransportFailure` is all that is known about a failed remote call.
* `Error.ofFailure` sorts the failure of a remote call: a broken channel stays an
  error of the transport; for anything else the two sides disagree about the protocol,
  and the error names the operation and keeps the failure as its cause.
* `Error.message` is the one place with the wording of errors.
-/

namespace RemoteRecorder

/-- How a request to the target can fail. -/
inductive TransportFailure where
  /-- The named object is not registered on the target. -/
  | notFound (text : String)
  /-- The channel to the target failed. -/
  | communication (text : String)
  /-- The operation ran on the target and raised. -/
  | invocation (text : String)
  deriving DecidableEq

/-- The wording of a failure. -/
def TransportFailure.message : TransportFailure → String
  | .notFound text => "object not found: " ++ text
  | .communication text => "communication failure: " ++ text
  | .invocation text => "invocation failed: " ++ text

/-- Why an exchange broke the protocol. -/
inductive Fault where
  /-- The target refused the call. -/
  | remote (failure : TransportFailure)
  /-- The target answered something that the operation cannot use. -/
  | unexpectedReply (text : String)
  /-- This side is at fault. -/
  | defect (text : String)
  deriving DecidableEq

/-- The wording of a fault. -/
def Fault.message : Fault → String
  | .remote failure => "remote side raised: " ++ failure.message
  | .unexpectedReply text => "unexpected reply: " ++ text
  | .defect text => "client defect: " ++ text

/-- The errors of this library's operations. -/
inductive Error where
  /-- Communication with the target failed. -/
  | transport (text : String)
  /-- The target has no recorder. -/
  | notFound (text : String)
  /-- The target has a recorder and does not let it be used. -/
  | featureLocked (text : String)
  /-- The target did not keep to the protocol in the operation `context`. -/
  | protocol (context : String) (cause : Fault)
  /-- The recording is in a state that the operation does not allow. -/
  | invalidState (actual : State) (expected : List State)
  /-- An argument is not acceptable. -/
  | validation (text : String)
  /-- The target's recorder cannot do this. -/
  | unsupported (text : String)
  /-- The target's recorder cannot take this kind of configuration. -/
  | unsupportedConfiguration (text : String)
  deriving DecidableEq

namespace Error

/-- The wording of an error. -/
def message : Error → String
  | transport text => "transport error: " ++ text
  | notFound text => "flight recorder not found: " ++ text
  | featureLocked text => "flight recorder feature is locked: " ++ text
  | protocol context _ => "internal protocol error: " ++ context
  | invalidState actual expected =>
    "recording state " ++ actual.label ++ " not in [" ++
      ", ".intercalate (expected.map State.label) ++ "]"
  | validation text => "invalid argument: " ++ text
  | unsupported text => "operation not supported: " ++ text
  | unsupportedConfiguration text => "configuration not supported: " ++ text

/-- The error of a remote operation that failed. -/
def ofFailure (context : String) : TransportFailure → Error
  | .communication text => transport text
  | failure => protocol context (.remote failure)

/-- The error of a remote operation that answered something it must not answer. -/
def unexpected (context text : String) : Error :=
  protocol context (.unexpectedReply text)

/-- The faults behind an error, the nearest first. -/
def causes : Error → List Fault
  | protocol _ cause => [cause]
  | _ => []

/-- Whether the channel to the target is at fault. -/
def isTransport : Error → Bool
  | transport _ => true
  | _ => false

/-- Whether the recording was in the wrong state. -/
def isInvalidState : Error → Bool
  | invalidState _ _ => true
  | _ => false

end Error

end RemoteRecorder
