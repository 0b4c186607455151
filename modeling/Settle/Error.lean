/-
Why an operation did not settle: `ConvergeError`.

Every failure that reaches a caller is one of these causes; a failed call becomes one by
`from_remote`. An operation of several phases wraps the cause with the phase it arose in,
and the questions a caller asks look through such wrappers.
-/
import Settle.RemoteFailure

set_option autoImplicit false

namespace Settle

/-- A phase of a resize. -/
inductive Phase where
  /-- Reading the current status. -/
  | inspecting
  /-- Stopping the resource and waiting until it is stopped. -/
  | stopping
  /-- Applying the mutation and waiting for it to land. -/
  | mutating
  /-- Starting the resource and waiting until it is healthy. -/
  | starting
  deriving DecidableEq

namespace Phase

/-- Every phase. -/
def all : List Phase := [.inspecting, .stopping, .mutating, .starting]

/-- The word for a phase. -/
def name : Phase → String
  | .inspecting => "inspecting"
  | .stopping => "stopping"
  | .mutating => "mutating"
  | .starting => "starting"

end Phase

/-- Why an operation did not settle (`ConvergeError`). -/
inductive Error where
  /-- A token does not name a resource at all. -/
  | structural (detail : String)
  /-- The resource does not exist. -/
  | notFound (detail : String)
  /-- A passing condition outlasted the attempts allowed for it. -/
  | transientExhausted (attempts : Nat) (last : String)
  /-- The remote side reported the operation as failed, perhaps with a fault text. -/
  | remoteFault (reason : String) (fault : Option String)
  /-- A reading had no status. -/
  | invalidPayload (detail : String)
  /-- Neither success nor failure was seen in time, or before the caller cancelled. -/
  | timedOut (cancelled : Bool)
  /-- A call failed for a reason that does not pass. -/
  | remote (detail : String)
  /-- A setting or policy makes no sense. -/
  | configuration (detail : String)
  /-- A phase of a larger operation failed. -/
  | inPhase (phase : Phase) (source : Error)
  deriving DecidableEq

namespace Error

/-- How an error reads. -/
def message : Error → String
  | .structural detail => .join ["malformed identifier: ", detail]
  | .notFound detail => .join ["remote resource not found: ", detail]
  | .transientExhausted attempts last =>
    .join ["service unavailable after ", toString attempts, " attempts: ", last]
  | .remoteFault reason (some fault) => .join [reason, ": ", fault]
  | .remoteFault reason none => reason
  | .invalidPayload detail => .join ["invalid status payload: ", detail]
  | .timedOut true => "reconciliation cancelled before completion"
  | .timedOut false =>
    "timed out waiting for the operation to complete; it may still be in progress"
  | .remote detail => .join ["remote call failed: ", detail]
  | .configuration detail => .join ["configuration error: ", detail]
  | .inPhase phase source => .join [phase.name, " phase failed: ", source.message]

/-- `from_remote`: the error that ends an operation whose call failed `attempts` times, the last
time with `e`. -/
def ofFailure {ε : Type} [RemoteFailure ε] (e : ε) (attempts : Nat) : Error :=
  match RemoteFailure.classify e with
  | .absent => .notFound (RemoteFailure.message e)
  | .transient => .transientExhausted attempts (RemoteFailure.message e)
  | .fatal => .remote (RemoteFailure.message e)

/-- `phase`: the outermost phase, if the error carries one. -/
def phase? : Error → Option Phase
  | .inPhase phase _ => some phase
  | _ => none

/-- `root`: the cause inside all phases. -/
def root : Error → Error
  | .inPhase _ source => source.root
  | e => e

/-- `remote_fault`: the fault text that the remote side gave, word for word. -/
def fault? (e : Error) : Option String :=
  match e.root with
  | .remoteFault _ fault => fault
  | _ => none

/-- `is_timeout`: whether the operation may still complete on the remote side. -/
def isTimeout (e : Error) : Bool :=
  match e.root with
  | .timedOut _ => true
  | _ => false

/-- The errors inside an error, from the outermost to the cause. -/
def sources : Error → List Error
  | .inPhase _ source => source :: source.sources
  | _ => []

end Error

end Settle
