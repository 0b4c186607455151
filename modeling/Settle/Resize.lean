/-
Stop, mutate, start: `run` of a resize.

Some changes are accepted only while the resource is stopped. A resize takes the
one legal way: it looks at the resource, stops it unless it is stopped already,
applies the change, and starts it again, and after each action it waits until the
resource shows it. The first failure ends it; nothing is rolled back.

The program has one function for each of the three actions (`stop_phase`, `mutate_phase`,
`start_phase`). They differ in the phase, the request and the policy, and are `Resize.act`
of these.
-/
import Settle.Job

set_option autoImplicit false

namespace Settle

/-- The requests that a resize makes, for a resource by its name (`ResizeTarget`). -/
structure Resource (I : Interface) (ε ρ : Type) where
  status : String → Query I (Except ε Reading)
  stop : String → Query I (Except ε Ack)
  update : String → ρ → Query I (Except ε Ack)
  start : String → Query I (Except ε Ack)
  job : String → Query I (Except ε JobReport)

/-- The policies of the three waits of a resize (`ResizePolicies`). -/
structure ResizePolicies where
  /-- Waits for the stop; its target states are those that need none. -/
  stop : Policy
  /-- Waits for the change to land. -/
  mutate : Policy
  /-- Waits for the resource to be healthy again. -/
  start : Policy
  deriving DecidableEq

/-- What a resize reports in the end (`ResizeReport`). -/
structure ResizeReport where
  /-- Whether the resource was stopped already. -/
  stopSkipped : Bool
  /-- The status on which the start converged. -/
  finalStatus : String
  deriving DecidableEq

/-- A resize that is set up (`ResizeOrchestrator`). -/
structure Resize where
  stop : ValidPolicy
  mutate : ValidPolicy
  start : ValidPolicy
  retry : Retry := Config.retry {}
  jobWait : JobWait := .ofConfig {}
  /-- Whether the caller's token ends the resize. -/
  heeds : Bool := false

namespace Resize

/-- `new`: a resize under policies, if all of them make sense. -/
def ofPolicies (p : ResizePolicies) : Except Error Resize := do
  let stop ← p.stop.validate
  let mutate ← p.mutate.validate
  let start ← p.start.validate
  return { stop, mutate, start }

/-- `with_retry`: repeats calls in another way. -/
def withRetry (r : Resize) (retry : Retry) : Resize := { r with retry }

/-- `with_job_waiter`: waits for jobs in another way. The job wait that is given keeps its own
token. -/
def withJobWait (r : Resize) (jobWait : JobWait) : Resize := { r with jobWait }

/-- `with_cancellation`: heeds the caller's token, in the resize itself and in the job wait it has
now. -/
def withCancellation (r : Resize) : Resize :=
  { r with heeds := true, jobWait := { r.jobWait with heeds := true } }

variable {I : Interface} {σ ε ρ : Type} [RemoteFailure ε]

/-- `in_phase`: wraps what goes wrong in an activity with the phase it belongs to. -/
def during {α : Type} (phase : Phase) (task : Task I σ Error α) : Task I σ Error α :=
  ExceptT.adapt (.inPhase phase) task

/-- `current_status`: the status before anything is done. -/
def inspect (r : Resize) (R : Remote I σ) (status : Query I (Except ε Reading)) :
    Task I σ Error String := do
  let reading ← r.retry.call r.heeds R status
  match reading.status with
  | some status =>
    if status ∈ r.stop.fatal then
      throw (.remoteFault (r.stop.subject ++ " status " ++ status) reading.fault)
    else return status
  | none => throw (.invalidPayload (r.stop.subject ++ " status missing from response"))

/-- `await_ack`: what follows from the acknowledgement of an action before the resource is looked
at. -/
def await (r : Resize) (R : Remote I σ) (job : String → Query I (Except ε JobReport))
    (policy : ValidPolicy) : Ack → Task I σ Error Unit
  | .accepted => return ()
  | .status status =>
    if status ∈ policy.fatal then
      throw (.remoteFault (policy.subject ++ " status " ++ status) none)
    else return ()
  | .job id => discard (r.jobWait.settle R (job id) policy.timeout)

/-- One phase: an action, what its acknowledgement asks for (`await_ack`), and the wait for the
resource (`wait`). -/
def act (r : Resize) (R : Remote I σ) (resource : Resource I ε ρ) (id : String) (phase : Phase)
    (action : Query I (Except ε Ack)) (policy : ValidPolicy) : Task I σ Error String :=
  during phase do
    Task.note (.issuing phase)
    let ack ← r.retry.call r.heeds R action
    r.await R resource.job policy ack
    Wait.settle ⟨policy, r.heeds⟩ R .update (resource.status id)

/-- `run`: resizes a resource. -/
def run (r : Resize) (R : Remote I σ) (resource : Resource I ε ρ) (id : String) (payload : ρ) :
    Task I σ Error ResizeReport := do
  let current ← during .inspecting (r.inspect R (resource.status id))
  let stopSkipped := decide (current ∈ r.stop.target)
  if stopSkipped then
    Task.note (.alreadyStopped current)
  else
    discard (r.act R resource id .stopping (resource.stop id) r.stop)
  discard (r.act R resource id .mutating (resource.update id payload) r.mutate)
  let finalStatus ← r.act R resource id .starting (resource.start id) r.start
  Task.note .resized
  return { stopSkipped, finalStatus }

end Resize

end Settle
