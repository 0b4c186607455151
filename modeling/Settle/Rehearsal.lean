/-
Rehearsals.

A remote side that follows scripts, for trying out waits, repeated calls, jobs
and resizes. Every answer has its delay and may cancel the caller's token when it
arrives. What has no script does not exist, except that an action without one is
simply accepted.
-/
import Settle.Json
import Settle.Resize
import Settle.Script

set_option autoImplicit false

namespace Settle

namespace Rehearsal

/-- A failure as a script gives it. -/
structure Failure where
  message : String
  absent : Bool := false
  transient : Bool := false
  deriving DecidableEq

instance : RemoteFailure Failure where
  isAbsent e := e.absent
  isTransient e := e.transient
  message e := e.message

/-- What can be asked in a rehearsal. -/
inductive Request where
  /-- A look at the one resource of a wait. -/
  | fetch
  /-- Any call. -/
  | call
  | job (id : String)
  | status (id : String)
  | stop (id : String)
  | start (id : String)
  | update (id : String) (payload : Nat)
  deriving DecidableEq

/-- The name of a request in a record of calls. -/
def Request.label : Request → String
  | .fetch => "fetch"
  | .call => "call"
  | .job id => "job:" ++ id
  | .status id => "status:" ++ id
  | .stop id => "stop:" ++ id
  | .start id => "start:" ++ id
  | .update id payload => "update:" ++ id ++ ":" ++ toString payload

/-- What a request is answered with if it succeeds. -/
def Request.Value : Request → Type
  | .fetch | .status _ => Reading
  | .call => Json
  | .job _ => JobReport
  | .stop _ | .start _ | .update _ _ => Ack

/-- What a rehearsal can be asked and how it answers. -/
def interface : Interface := ⟨Request, fun q => Except Failure q.Value⟩

/-- A prepared answer. -/
abbrev Cue (α : Type) := Answer (Except Failure α)

end Rehearsal

/-- The scripts that are still to be played. -/
structure Rehearsal where
  /-- Looks at a resource, whichever it is. -/
  readings : Script (Rehearsal.Cue Reading) := []
  calls : Script (Rehearsal.Cue Json) := []
  jobs : Table (Rehearsal.Cue JobReport) := []
  stops : Option (Script (Rehearsal.Cue Ack)) := none
  starts : Option (Script (Rehearsal.Cue Ack)) := none
  updates : Option (Script (Rehearsal.Cue Ack)) := none

namespace Rehearsal

/-- The answer to a request that has no script. -/
def missing {α : Type} (q : Request) : Cue α :=
  { response := .error { message := q.label ++ " not found", absent := true } }

/-- Plays the next answer of a script. -/
def play {α : Type} (q : Request) (script : Script (Cue α)) : Cue α × Script (Cue α) :=
  (script.next?).getD (missing q, script)

/-- Plays the next acknowledgement of an action, which is accepted if nothing is prepared for it. -/
def playAck (q : Request) : Option (Script (Cue Ack)) → Cue Ack × Option (Script (Cue Ack))
  | none => ({ response := .ok .accepted }, none)
  | some script => let (cue, rest) := play q script; (cue, some rest)

/-- The answer to a request, and the scripts after it. -/
def answer : (q : Request) → Rehearsal → Cue q.Value × Rehearsal
  | .fetch, r => let (cue, readings) := play .fetch r.readings; (cue, { r with readings })
  | .status id, r => let (cue, readings) := play (.status id) r.readings; (cue, { r with readings })
  | .call, r => let (cue, calls) := play .call r.calls; (cue, { r with calls })
  | .job id, r => (r.jobs.next? id).elim (missing (.job id), r) fun (cue, jobs) =>
    (cue, { r with jobs })
  | .stop id, r => let (cue, stops) := playAck (.stop id) r.stops; (cue, { r with stops })
  | .start id, r => let (cue, starts) := playAck (.start id) r.starts; (cue, { r with starts })
  | .update id payload, r =>
    let (cue, updates) := playAck (.update id payload) r.updates
    (cue, { r with updates })

/-- A remote side that follows scripts. -/
def remote : Remote interface Rehearsal where
  answer := answer
  unplayed r :=
    r.readings.length + r.calls.length + r.jobs.size + (r.stops.getD []).length
      + (r.starts.getD []).length + (r.updates.getD []).length

/-- A request whose answer is taken as it is. -/
def query (q : Request) : Query interface (Except Failure q.Value) := ⟨q, id⟩

/-- The requests of a resize in a rehearsal. -/
def resource : Resource interface Failure Nat where
  status id := query (.status id)
  stop id := query (.stop id)
  update id payload := query (.update id payload)
  start id := query (.start id)
  job id := query (.job id)

end Rehearsal

end Settle
