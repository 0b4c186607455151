/-
Jobs: `wait_for_job`.

Some operations go on as a job of their own. A job is waited for like any other
resource, with a fixed vocabulary; a job that fails always has a fault text, and
a job that disappears has failed, since jobs are kept long after they end.
-/
import Settle.Config
import Settle.Wait

set_option autoImplicit false

namespace Settle

/-- The states of a job. -/
inductive JobState where
  | queued
  | readyForProcessing
  | inProgress
  | running
  | waiting
  | completed
  | failed
  deriving DecidableEq

namespace JobState

/-- Every state. -/
def all : List JobState :=
  [.queued, .readyForProcessing, .inProgress, .running, .waiting, .completed, .failed]

/-- The word for a state. -/
def name : JobState → String
  | .queued => "queued"
  | .readyForProcessing => "readyForProcessing"
  | .inProgress => "inProgress"
  | .running => "running"
  | .waiting => "waiting"
  | .completed => "completed"
  | .failed => "failed"

/-- `parse`: the state with a name, if there is one. -/
def ofName? (name : String) : Option JobState := all.find? (·.name == name)

/-- The states in which a job makes progress. -/
def pending : List JobState := [.queued, .readyForProcessing, .inProgress, .running, .waiting]

/-- Whether a job in this state has ended. -/
def isTerminal : JobState → Bool
  | .completed | .failed => true
  | _ => false

end JobState

/-- What the remote side reports on a job (`JobSnapshot`). -/
structure JobReport where
  state : Option String := none
  /-- A progress or failure message. -/
  message : Option String := none
  deriving DecidableEq

namespace JobReport

/-- The report of a job in a state. -/
def of (state : JobState) : JobReport := { state := some state.name }

/-- The report of a failed job. -/
def failed (message : String) : JobReport :=
  { state := some JobState.failed.name, message := some message }

/-- `job_state`: the state, if it is one of the known ones. -/
def jobState? (r : JobReport) : Option JobState := r.state.bind JobState.ofName?

/-- The fault of a failed job that gives none. -/
def genericFault : String := "job failed"

/-- `into_status`: a report as a reading. A failed job has a fault, whatever its message. -/
def reading (r : JobReport) : Reading :=
  { status := r.state
    fault :=
      if r.jobState? = some .failed then
        some (match r.message with
          | some message => if message = "" then genericFault else message
          | none => genericFault)
      else r.message }

end JobReport

/-- How jobs are waited for (`JobWaiter`). -/
structure JobWait where
  pollInterval : Nat
  minPollInterval : Nat := 0
  initialDelay : Nat := 0
  /-- Whether the caller's token ends the wait. -/
  heeds : Bool := false
  deriving DecidableEq

namespace JobWait

/-- `from_config`: the configured wait. The first look comes after the time of one interval. -/
def ofConfig (c : Config) : JobWait :=
  { pollInterval := c.jobPollInterval, initialDelay := c.jobPollInterval }

/-- `policy`: that of a wait for a job. -/
def policy (j : JobWait) (timeout : Nat) : Policy :=
  { timeout
    subject := "job"
    pending := .ofList (JobState.pending.map JobState.name)
    target := .ofList [JobState.completed.name]
    fatal := .ofList [JobState.failed.name]
    pollInterval := j.pollInterval
    minPollInterval := j.minPollInterval
    initialDelay := j.initialDelay }

variable {I : Interface} {σ ε : Type} [RemoteFailure ε]

/-- `wait_for_job`: waits for a job to end. A policy that makes no sense is an outcome like any
other, and nothing is asked for then. -/
def run (j : JobWait) (R : Remote I σ) (job : Query I (Except ε JobReport)) (timeout : Nat) :
    Act I σ Outcome :=
  match (j.policy timeout).validate with
  | .error e => return .failed e.message none .invalidPolicy
  | .ok policy =>
    Wait.run ⟨policy, j.heeds⟩ R .action (job.map (Except.map JobReport.reading))

/-- `wait`: waits for a job to complete, and gives its state or why it did not (`into_result`). -/
def settle (j : JobWait) (R : Remote I σ) (job : Query I (Except ε JobReport)) (timeout : Nat) :
    Task I σ Error String :=
  ExceptT.mk (Outcome.result <$> j.run R job timeout)

end JobWait

end Settle
