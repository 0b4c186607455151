/-
The written forms of readings, reports and outcomes.

Each form has a writer `toJson` and a reader `ofJson?` that takes back what the
writer gives. Words are written as tags, all else as records.
-/
import Settle.Job
import Settle.Json.Record

set_option autoImplicit false

namespace Settle

def Operation.toJson (o : Operation) : Json := .string o.name

def Operation.ofJson? : Json → Option Operation := Json.tag? all name

def Phase.toJson (p : Phase) : Json := .string p.name

def Phase.ofJson? : Json → Option Phase := Json.tag? all name

def JobState.toJson (s : JobState) : Json := .string s.name

def JobState.ofJson? : Json → Option JobState := Json.tag? all name

def FailureClass.toJson (c : FailureClass) : Json := .string c.name

def FailureClass.ofJson? : Json → Option FailureClass := Json.tag? all name

def FailureKind.toJson (k : FailureKind) : Json := .string k.name

def FailureKind.ofJson? : Json → Option FailureKind := Json.tag? all name

def Interruption.toJson (i : Interruption) : Json := .string i.name

def Interruption.ofJson? : Json → Option Interruption := Json.tag? all name

namespace Reading

def toJson (r : Reading) : Json :=
  .object [("status", .ofOption .string r.status), ("fault", .ofOption .string r.fault)]

def ofJson? (j : Json) : Option Reading := do
  let f ← j.fields? 2
  let status ← f.optional 0 "status" Json.string?
  let fault ← f.optional 1 "fault" Json.string?
  return { status, fault }

end Reading

namespace JobReport

def toJson (r : JobReport) : Json :=
  .object [("state", .ofOption .string r.state), ("message", .ofOption .string r.message)]

def ofJson? (j : Json) : Option JobReport := do
  let f ← j.fields? 2
  let state ← f.optional 0 "state" Json.string?
  let message ← f.optional 1 "message" Json.string?
  return { state, message }

end JobReport

namespace Ack

/-- The forms of an acknowledgement. -/
inductive Form where
  | accepted
  | status
  | job
  deriving DecidableEq

/-- Every form of an acknowledgement. -/
def Form.all : List Form := [.accepted, .status, .job]

/-- The word for a form. -/
def Form.name : Form → String
  | .accepted => "accepted"
  | .status => "status"
  | .job => "job"

/-- The form stands beside the value, if the form has one. -/
def toJson : Ack → Json
  | .accepted => .object [("type", .string Form.accepted.name)]
  | .status value => .object [("type", .string Form.status.name), ("value", .string value)]
  | .job id => .object [("type", .string Form.job.name), ("value", .string id)]

def ofJson? (j : Json) : Option Ack := do
  let f ← j.fields? 2
  match ← f.required 0 "type" (Json.tag? Form.all Form.name) with
  | .accepted =>
    let _ ← f.optional 1 "value" Json.nothing?
    return .accepted
  | .status => return .status (← f.required 1 "value" Json.string?)
  | .job => return .job (← f.required 1 "value" Json.string?)

end Ack

namespace Outcome

/-- The ways in which a wait can end. -/
inductive Form where
  | converged
  | failed
  | timedOut
  deriving DecidableEq

/-- Every way of ending. -/
def Form.all : List Form := [.converged, .failed, .timedOut]

/-- The word for a way of ending. -/
def Form.name : Form → String
  | .converged => "converged"
  | .failed => "failed"
  | .timedOut => "timed_out"

/-- The way of ending stands among what else there is to tell. -/
def toJson : Outcome → Json
  | .converged status =>
    .object [("outcome", .string Form.converged.name), ("status", .string status)]
  | .failed reason fault kind =>
    .object [("outcome", .string Form.failed.name), ("reason", .string reason),
      ("remote_fault", .ofOption .string fault), ("kind", kind.toJson)]
  | .timedOut cause =>
    .object [("outcome", .string Form.timedOut.name), ("cause", cause.toJson)]

/-- The number of fields of a form, the form itself among them. -/
def Form.size : Form → Nat
  | .converged => 2
  | .failed => 4
  | .timedOut => 2

def ofJson? (j : Json) : Option Outcome := do
  let form ← (← j.fields? 4).required 0 "outcome" Json.string?
  let form ← Form.all.find? (·.name == form)
  let f ← j.fields? form.size
  match form with
  | .converged => return .converged (← f.required 1 "status" Json.string?)
  | .failed =>
    let reason ← f.required 1 "reason" Json.string?
    let fault ← f.optional 2 "remote_fault" Json.string?
    let kind ← f.required 3 "kind" (Json.innerTag? FailureKind.all FailureKind.name)
    return .failed reason fault kind
  | .timedOut =>
    let cause ← f.required 1 "cause" (Json.innerTag? Interruption.all Interruption.name)
    return .timedOut cause

end Outcome

def Handle.toJson (h : Handle) : Json :=
  .object [("resource_id", .string h.resource), ("job_id", .ofOption .string h.job),
    ("kind", h.operation.toJson)]

end Settle
