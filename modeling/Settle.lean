import Settle.Cloud.ApiFailure
import Settle.Cloud.Change
import Settle.Cloud.Connections
import Settle.Cloud.Instances
import Settle.Cloud.Model
import Settle.Cloud.Networks
import Settle.Cloud.OperationError
import Settle.Cloud.Preset
import Settle.Cloud.Request
import Settle.Cloud.Sandbox
import Settle.Cloud.Status
import Settle.Cloud.Storage
import Settle.Cloud.Wire
import Settle.Cloud.Workspace
import Settle.Config
import Settle.Decimal.Scaled
import Settle.Decimal.Shortest
import Settle.Error
import Settle.Identifier
import Settle.Job
import Settle.Json
import Settle.Json.Printer
import Settle.Json.Reader
import Settle.Json.Record
import Settle.Notice
import Settle.Outcome
import Settle.Policy
import Settle.Proofs.Attempt
import Settle.Proofs.Calls
import Settle.Proofs.Calls.Loops
import Settle.Proofs.Chronicle
import Settle.Proofs.Clock
import Settle.Proofs.Cloud.Change
import Settle.Proofs.Cloud.Change.Course
import Settle.Proofs.Cloud.Change.Stop
import Settle.Proofs.Cloud.Connections
import Settle.Proofs.Cloud.Connections.Addressing
import Settle.Proofs.Cloud.Connections.Cancellation
import Settle.Proofs.Cloud.Connections.Naming
import Settle.Proofs.Cloud.Connections.Orphans
import Settle.Proofs.Cloud.Connections.Requests
import Settle.Proofs.Cloud.Deletion
import Settle.Proofs.Cloud.Jobs
import Settle.Proofs.Cloud.Readiness
import Settle.Proofs.Cloud.Sandbox
import Settle.Proofs.Cloud.Sandbox.Failures
import Settle.Proofs.Cloud.Sandbox.Scripts
import Settle.Proofs.Cloud.Signals
import Settle.Proofs.Cloud.Vocabulary
import Settle.Proofs.Cloud.Wire
import Settle.Proofs.Cloud.Workspace
import Settle.Proofs.Config
import Settle.Proofs.Config.Lookup
import Settle.Proofs.Elapsed
import Settle.Proofs.Faults
import Settle.Proofs.Following
import Settle.Proofs.Fuel
import Settle.Proofs.Heeding
import Settle.Proofs.Identifier
import Settle.Proofs.Identifier.Agreement
import Settle.Proofs.Jobs
import Settle.Proofs.Jobs.Awaited
import Settle.Proofs.Json
import Settle.Proofs.Judgement
import Settle.Proofs.Notes
import Settle.Proofs.Pace
import Settle.Proofs.Parallel
import Settle.Proofs.Petition
import Settle.Proofs.Petition.Cancellation
import Settle.Proofs.Resize.Attribution
import Settle.Proofs.Resize.Budget
import Settle.Proofs.Resize.Cancellation
import Settle.Proofs.Resize.Configuration
import Settle.Proofs.Resize.Jobs
import Settle.Proofs.Resize.Order
import Settle.Proofs.Rewording
import Settle.Proofs.Round
import Settle.Proofs.Succession
import Settle.Proofs.Text.Count
import Settle.Proofs.Text.Phrase
import Settle.Proofs.Truncation
import Settle.Proofs.Truncation.Loops
import Settle.Proofs.Validation
import Settle.Proofs.Vigil
import Settle.Proofs.Vigil.Cancellation
import Settle.Proofs.Vigil.ClosedForm
import Settle.Proofs.Vigil.Looks
import Settle.Proofs.Vigil.Run
import Settle.Proofs.Vigil.Settlement
import Settle.Proofs.Wire
import Settle.Reading
import Settle.Rehearsal
import Settle.RemoteFailure
import Settle.Resize
import Settle.Retry
import Settle.Script
import Settle.StateSet
import Settle.Text.Blank
import Settle.Text.Cased
import Settle.Text.Combining
import Settle.Text.Count
import Settle.Text.Hidden
import Settle.Text.Lowercase
import Settle.Text.Phrase
import Settle.Text.Quoted
import Settle.Text.Ranges
import Settle.Text.Unassigned
import Settle.Verdict
import Settle.Wait
import Settle.Wire
import Settle.World
