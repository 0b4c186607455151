/-
How a wait ends: `ReconciliationOutcome`.

A wait converges on a status, fails for a reason, or is interrupted before it
knows. Seen as a result (`into_result`), every ending but the first is an error of
its own kind, and the fault text of the remote side goes with it word for word, unless
the reading that the wait failed on had no status: that error has no place for it.
-/
import Settle.Error

set_option autoImplicit false

namespace Settle

/-- What cuts a wait short. -/
inductive Interruption where
  /-- The time for the wait is over. -/
  | deadline
  /-- The caller cancelled. -/
  | cancelled
  deriving DecidableEq

namespace Interruption

/-- Every interruption. -/
def all : List Interruption := [.deadline, .cancelled]

/-- The word for an interruption. -/
def name : Interruption → String
  | .deadline => "deadline"
  | .cancelled => "cancelled"

end Interruption

/-- What makes a wait fail. -/
inductive FailureKind where
  /-- A fatal state was seen. -/
  | fatalStatus
  /-- A reading had no status. -/
  | missingStatus
  /-- The resource disappeared, and nobody was deleting it. -/
  | notFound
  /-- A look failed for good. -/
  | remoteError
  /-- The wait could not start. -/
  | invalidPolicy
  deriving DecidableEq

namespace FailureKind

/-- Every kind. -/
def all : List FailureKind :=
  [.fatalStatus, .missingStatus, .notFound, .remoteError, .invalidPolicy]

/-- The word for a kind. -/
def name : FailureKind → String
  | .fatalStatus => "fatal_status"
  | .missingStatus => "missing_status"
  | .notFound => "not_found"
  | .remoteError => "remote_error"
  | .invalidPolicy => "invalid_policy"

end FailureKind

/-- How a wait ended (`ReconciliationOutcome`). -/
inductive Outcome where
  | converged (status : String)
  | failed (reason : String) (fault : Option String) (kind : FailureKind)
  | timedOut (cause : Interruption)
  deriving DecidableEq

namespace Outcome

/-- Whether the wait reached what it waited for. -/
def isConverged : Outcome → Bool
  | .converged _ => true
  | _ => false

/-- The status on which the wait converged. -/
def status? : Outcome → Option String
  | .converged status => some status
  | _ => none

/-- `into_result`: the status, or why there is none. Only a fatal state passes its fault text on. -/
def result : Outcome → Except Error String
  | .converged status => .ok status
  | .failed reason fault .fatalStatus => .error (.remoteFault reason fault)
  | .failed reason _ .missingStatus => .error (.invalidPayload reason)
  | .failed reason _ .notFound => .error (.notFound reason)
  | .failed reason _ .remoteError => .error (.remote reason)
  | .failed reason _ .invalidPolicy => .error (.configuration reason)
  | .timedOut cause => .error (.timedOut (cause == .cancelled))

end Outcome

end Settle
