/-
Workspaces: what the operations of `PowerReconciler` are made of.

A workspace is one cloud instance with the resources in it. Its operations make
requests and wait until the cloud shows that they have taken effect. Every wait
heeds the caller's token if the workspace does; a timeout that the caller leaves
out is the configured one (`timeout`).

There are two ways to make a request. `demand` and `ask` make it once, whatever the token
says, and a failure is the caller's (`api_failure`). `insist` repeats it as `call_cancellable`
does, and looks at the token before every attempt.
-/
import Settle.Cloud.OperationError
import Settle.Cloud.Preset
import Settle.Cloud.Request

set_option autoImplicit false

namespace Settle.Cloud

/-- A workspace and how to wait in it (`PowerReconciler`). -/
structure Workspace where
  /-- The cloud instance that the requests go to. -/
  cloudInstance : String
  config : Config := {}
  /-- Whether the caller's token ends what is going on in the workspace. -/
  heeds : Bool := false

/-- An operation on the cloud. -/
abbrev Operate (σ α : Type) := Task interface σ OperationError α

namespace Workspace

variable {σ α : Type}

/-- An activity that can fail to settle, as an operation. The operators of the program that pass an
error on convert it so. -/
def settling (task : Task interface σ Error α) : Operate σ α := ExceptT.adapt .unsettled task

/-- Makes a request once, whatever the token says, and takes the answer as it is, for a caller that
tells a missing resource from other failures. -/
def ask (R : Remote interface σ) (q : Request) : Operate σ (Except ApiFailure q.Value) :=
  ExceptT.lift (Act.call R (query q))

/-- `api_failure`: the error of a single request that failed. -/
def failed (e : ApiFailure) : OperationError := .unsettled (.ofFailure e 1)

/-- Makes a request once, whatever the token says, and fails with `api_failure` if it does. -/
def demand (R : Remote interface σ) (q : Request) : Operate σ q.Value := do
  match ← ask R q with
  | .ok value => return value
  | .error e => throw (failed e)

/-- Makes a request under the configured retry, with `call_cancellable`. -/
def insist (ws : Workspace) (R : Remote interface σ) (q : Request) : Operate σ q.Value :=
  settling (ws.config.retry.call ws.heeds R (query q))

/-- `wait`: checks the policy, polls under it with the token of the workspace, and gives the status
or why there is none. -/
def wait (ws : Workspace) (R : Remote interface σ) (policy : Policy) (operation : Operation)
    (look : Query interface (Except ApiFailure Reading)) : Operate σ String :=
  settling do
    let policy ← (policy.validate : Except Error ValidPolicy)
    Wait.settle ⟨policy, ws.heeds⟩ R operation look

/-- `job_waiter`: how jobs are waited for in a workspace. -/
def jobWait (ws : Workspace) : JobWait := { JobWait.ofConfig ws.config with heeds := ws.heeds }

/-- `wait_for_job`: waits for a job to complete. -/
def waitJob (ws : Workspace) (R : Remote interface σ) (job : String) (timeout : Option Nat) :
    Operate σ String :=
  settling (ws.jobWait.settle R (query (.getJob job)) (ws.config.timeout timeout))

/-- The body that `delete_instance`, `delete_volume` and `delete_snapshot` share: requests a
deletion and waits until the resource is gone. One that is gone already counts as deleted. -/
def delete (R : Remote interface σ) (q : Request) (waitDeleted : Operate σ String) :
    Operate σ Unit := do
  match ← ask R q with
  | .ok _ => discard waitDeleted
  | .error e =>
    if RemoteFailure.classify e = .absent then return ()
    else throw (failed e)

end Workspace

end Settle.Cloud
