/-
Judging a look: `evaluate`.

What one look at a resource means under a policy depends on nothing but the kind
of change that is waited for and what the look gave. A missing resource is what a
deletion waits for and a failure for everything else; a passing failure is no
reason to stop; a status that the policy does not know is waited through, and
remarked on the first time.

`evaluate` decides and remarks in one go. Here the decision is `Policy.verdict`, which
does not depend on what was seen before, and the remark is `Policy.remark`, which is made
only when there is no verdict.
-/
import Settle.Notice
import Settle.Outcome
import Settle.Policy
import Settle.Reading

set_option autoImplicit false

namespace Settle

/-- `DELETED_STATUS`, with which a deletion converges. -/
def deletedStatus : String := "deleted"

namespace Policy

variable {ε : Type} [RemoteFailure ε]

/-- `evaluate` for a look that gave a reading: how the wait ends with it, unless it goes on. The
fatal states are looked at before the target states. -/
def judge (p : Policy) (r : Reading) : Option Outcome :=
  match r.status with
  | none => some (.failed (p.subject ++ " status missing from response") r.fault .missingStatus)
  | some status =>
    if status ∈ p.fatal then
      some (.failed (p.subject ++ " status " ++ status) r.fault .fatalStatus)
    else if status ∈ p.target then some (.converged status)
    else none

/-- `evaluate_error`: how the wait ends with a failed look, unless it goes on. -/
def judgeFailure (p : Policy) (operation : Operation) (e : ε) : Option Outcome :=
  match RemoteFailure.classify e with
  | .absent =>
    if operation = .delete then some (.converged deletedStatus)
    else some (.failed (p.subject ++ " not found: " ++ RemoteFailure.message e) none .notFound)
  | .transient => none
  | .fatal =>
    some (.failed ("failed to fetch " ++ p.subject ++ " status: " ++ RemoteFailure.message e) none
      .remoteError)

/-- How a wait ends with what a look gave, unless it goes on. -/
def verdict (p : Policy) (operation : Operation) : Except ε Reading → Option Outcome
  | .ok r => p.judge r
  | .error e => p.judgeFailure operation e

/-- Whether a status is in one of the vocabularies. -/
def knows (p : Policy) (status : String) : Bool :=
  status ∈ p.pending || status ∈ p.target || status ∈ p.fatal

/-- What `evaluate` warns of in a look with which the wait goes on, when `warned` holds the unknown
values that were remarked on before. -/
def remark (p : Policy) (warned : List String) : Except ε Reading → Option Notice
  | .error e => some (.transientLook (RemoteFailure.message e))
  | .ok { status := some status, .. } =>
    if p.knows status ∨ status ∈ warned then none else some (.unrecognized status)
  | .ok { status := none, .. } => none

/-- The unknown values remarked on once a remark is made. -/
def warnedAfter (warned : List String) : Option Notice → List String
  | some (.unrecognized status) => status :: warned
  | _ => warned

end Policy

end Settle
