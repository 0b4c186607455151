/-
Servers in a workspace.

Waiting for servers to be created, started, stopped, changed and deleted, and the
operations that request one of these and wait for it. The longest of them is
`apply_instance_change`: a lookup, the plan (`plan_change`), and then either an update and
a wait, or a whole resize.
-/
import Settle.Cloud.Change
import Settle.Cloud.Workspace

set_option autoImplicit false

namespace Settle.Cloud

/-- What a change to a server reports in the end (`ChangeReport`). -/
structure ChangeReport where
  /-- The way in which the change was applied. -/
  plan : Plan
  /-- The status with which the change has settled. -/
  finalStatus : String
  /-- Whether a server that had to be stopped was stopped already. -/
  stopSkipped : Bool
  deriving DecidableEq

/-- The requests with which a server is resized (`InstanceResize`). A stop is an immediate shutdown.
The actions tell nothing in return, so their progress is read from the status of the server. -/
def instanceResource : Resource interface ApiFailure InstanceUpdate where
  status id := look (.getInstance id) Instance.normalized
  stop id := (query (.actOnInstance id .immediateShutdown)).map (Except.map fun _ => Ack.accepted)
  update id body := (query (.updateInstance id body)).map (Except.map fun _ => Ack.accepted)
  start id := (query (.actOnInstance id .start)).map (Except.map fun _ => Ack.accepted)
  job id := query (.getJob id)

namespace Workspace

variable {σ : Type}

/-! ## Waits -/

/-- `wait_for_instance_available`: waits for a new or started server to be running with ready
health. -/
def waitInstanceAvailable (ws : Workspace) (R : Remote interface σ) (id : String)
    (ready : ReadyHealth) : Operate σ String :=
  ws.wait R (Preset.instanceAvailable ready) .create
    (look (.getInstance id) (Instance.available ready))

/-- `wait_for_instance_shutoff`: waits for a server that is created stopped. -/
def waitInstanceShutoff (ws : Workspace) (R : Remote interface σ) (id : String)
    (ready : ReadyHealth) : Operate σ String :=
  ws.wait R (Preset.instanceShutoff ready) .create
    (look (.getInstance id) (Instance.shutoff ready))

/-- `wait_for_instance_stopped`: waits for a server to have stopped with good health. -/
def waitInstanceStopped (ws : Workspace) (R : Remote interface σ) (id : String) :
    Operate σ String :=
  ws.wait R Preset.instanceStopped .action (look (.getInstance id) Instance.normalized)

/-- `wait_for_instance_resized`: waits for a server to be through with a change. -/
def waitInstanceResized (ws : Workspace) (R : Remote interface σ) (id : String) :
    Operate σ String :=
  ws.wait R Preset.postResize .update (look (.getInstance id) Instance.normalized)

/-- `wait_for_instance_deleted`: waits for a deleted server to be gone. -/
def waitInstanceDeleted (ws : Workspace) (R : Remote interface σ) (id : String) :
    Operate σ String :=
  ws.wait R Preset.instanceDeleted .delete (look (.getInstance id) Instance.deleting)

/-! ## Operations -/

/-- `start_instance`: starts a server and waits until it is running with good health. -/
def startInstance (ws : Workspace) (R : Remote interface σ) (id : String) : Operate σ String := do
  discard (demand R (.actOnInstance id .start))
  ws.waitInstanceAvailable R id .ok

/-- `stop_instance`: stops a server and waits until it has stopped. -/
def stopInstance (ws : Workspace) (R : Remote interface σ) (id : String) : Operate σ String := do
  discard (demand R (.actOnInstance id .stop))
  ws.waitInstanceStopped R id

/-- `delete_instance`: deletes a server and waits until it is gone. -/
def deleteInstance (ws : Workspace) (R : Remote interface σ) (id : String) : Operate σ Unit :=
  delete R (.deleteInstance id) (ws.waitInstanceDeleted R id)

/-- How `apply_instance_change` sets up the resize of a server. The token comes last, so the job
wait heeds it too. -/
def instanceResize (ws : Workspace) : Except Error Resize := do
  let resize ← Resize.ofPolicies Preset.resize
  let resize := (resize.withRetry ws.config.retry).withJobWait ws.jobWait
  return if ws.heeds then resize.withCancellation else resize

/-- `apply_instance_change`: looks at a server, plans a change to it, makes the change and waits
until it has settled. -/
def applyChange (ws : Workspace) (R : Remote interface σ) (id : String) (change : Change) :
    Operate σ ChangeReport := do
  let current ← ws.insist R (.getInstance id)
  let plan ← (change.plan current : Except OperationError Plan)
  match plan with
  | .hot wait =>
    discard (ws.insist R (.updateInstance id change.toUpdate))
    let finalStatus ← match wait with
      | .available => ws.waitInstanceAvailable R id .ok
      | .postResize => ws.waitInstanceResized R id
    return { plan, finalStatus, stopSkipped := false }
  | .cold =>
    let report ← settling do
      let resize ← ws.instanceResize
      resize.run R instanceResource id change.toUpdate
    return { plan, finalStatus := report.finalStatus, stopSkipped := report.stopSkipped }

end Workspace

end Settle.Cloud
