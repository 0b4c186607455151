/-
Why an operation on the cloud failed: `PowerError`.

Besides what can go wrong with any wait, a change to a server can be refused by
`plan_change` before anything is done.
-/
import Settle.Error

set_option autoImplicit false

namespace Settle.Cloud

/-- Why an operation on the cloud failed (`PowerError`). -/
inductive OperationError where
  /-- What was asked for did not settle. -/
  | unsettled (cause : Error)
  /-- The health of the server forbids the change. -/
  | unhealthyInstance (health : String)
  /-- The change makes no sense. -/
  | invalidChange (reason : String)
  deriving DecidableEq

/-- How an error reads. -/
def OperationError.message : OperationError → String
  | .unsettled cause => cause.message
  | .unhealthyInstance health =>
    .join ["the operation cannot be performed when the instance health is ", health]
  | .invalidChange reason => .join ["invalid change: ", reason]

end Settle.Cloud
