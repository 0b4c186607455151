/-
The log.

What happens during a wait is noted as it happens. A notice is a value; the line
it is printed as gives its level, its text and its numbers in a fixed order.

The last notice of a wait gives the count of its looks. `poll` counts in 32 bits, and so
does the notice: after 2 ^ 32 looks the count begins again at zero.
-/
import Settle.Error

set_option autoImplicit false

namespace Settle

/-- What there is to say about a running operation. -/
inductive Notice where
  /-- A wait ended with a reading or failure that settles it, after so many looks. -/
  | finished (looks : UInt32)
  /-- A wait was cut short after so many looks, of which the last may not have been heard. -/
  | gaveUp (looks : UInt32)
  /-- A status is in none of the vocabularies. -/
  | unrecognized (status : String)
  /-- A look failed for a passing reason. -/
  | transientLook (error : String)
  /-- A call failed for a passing reason and will be repeated. -/
  | retrying (attempt limit : Nat) (error : String)
  /-- A resource needs no stop. -/
  | alreadyStopped (status : String)
  /-- The request of a phase is about to be made. -/
  | issuing (phase : Phase)
  /-- All phases are through. -/
  | resized
  deriving DecidableEq

/-- The request that a phase makes. -/
def Phase.request : Phase → String
  | .inspecting => "fetch status"
  | .stopping => "stop"
  | .mutating => "update"
  | .starting => "start"

/-- The line of a notice in the log. -/
def Notice.line : Notice → String
  | .finished looks => .join ["INFO Reconciliation finished fetches=", toString looks]
  | .gaveUp looks =>
    .join ["WARN Reconciliation did not reach a terminal state fetches=", toString looks]
  | .unrecognized status =>
    .join ["WARN Unrecognized status, treating as pending status=", status]
  | .transientLook error => .join ["WARN Transient error while fetching status error=", error]
  | .retrying attempt limit error =>
    .join ["WARN Transient error, retrying attempt=", toString attempt, " max_attempts=",
      toString limit, " error=", error]
  | .alreadyStopped status =>
    .join ["INFO Resource already stopped, skipping stop status=", status]
  | .issuing phase => .join ["INFO Issuing ", phase.request]
  | .resized => "INFO Resize completed"

end Settle
