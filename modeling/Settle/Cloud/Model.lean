/-
Resources of the cloud.

What the cloud tells about its resources, as far as anything here depends on it.
A field that the cloud may leave out is optional; numbers have the width that the
cloud gives them.
-/
import Settle.Job

set_option autoImplicit false

namespace Settle.Cloud

/-- A virtual server (`PvmInstance`), with the word of its health and the message of its fault. -/
structure Instance where
  id : String
  status : Option String := none
  /-- How healthy the server is, in one word. -/
  health : Option String := none
  /-- What went wrong with a server in error. -/
  fault : Option String := none
  memory : Float := 0
  processors : Float := 0
  /-- The most memory the server can have while it runs. -/
  maxMemory : Float := 0
  /-- The most processors the server can have while it runs. -/
  maxProcessors : Float := 0
  processorType : Option String := none

/-- The body of an update of a server (`InstanceUpdate`). What is unset stays as it is. -/
structure InstanceUpdate where
  name : Option String := none
  memory : Option Float := none
  processors : Option Float := none
  processorType : Option String := none
  sapProfile : Option String := none
  /-- The number of virtual cores assigned. -/
  virtualCores : Option Int64 := none

/-- What can be done to a running or stopped server (`InstanceAction`). -/
inductive InstanceAction where
  | start
  | stop
  | immediateShutdown
  | softReboot
  | hardReboot
  deriving DecidableEq

namespace InstanceAction

/-- Every action. -/
def all : List InstanceAction := [.start, .stop, .immediateShutdown, .softReboot, .hardReboot]

/-- The word for an action. -/
def name : InstanceAction → String
  | .start => "start"
  | .stop => "stop"
  | .immediateShutdown => "immediate-shutdown"
  | .softReboot => "soft-reboot"
  | .hardReboot => "hard-reboot"

end InstanceAction

/-- A storage volume. -/
structure Volume where
  id : String
  state : Option String := none
  deriving DecidableEq

/-- A boot image. -/
structure Image where
  id : String
  state : Option String := none
  deriving DecidableEq

/-- A network. It has a VLAN once it is ready. -/
structure Network where
  id : String
  vlan : Option Int64 := none
  deriving DecidableEq

/-- A port of a network (`NetworkPort`). -/
structure Port where
  id : String
  status : Option String := none
  /-- The server that the port is attached to. -/
  attachedTo : Option String := none
  deriving DecidableEq

/-- A snapshot of a server. -/
structure Snapshot where
  id : String
  status : Option String := none
  percentComplete : Int64 := 0
  deriving DecidableEq

/-- A network security group with the names of its rules. -/
structure SecurityGroup where
  id : String
  rules : List String := []
  deriving DecidableEq

/-- `has_rule`: whether a group has a rule. -/
def SecurityGroup.hasRule (g : SecurityGroup) (rule : String) : Bool := rule ∈ g.rules

/-- A cloud connection. -/
structure Connection where
  id : String
  name : String
  speed : Int64
  deriving DecidableEq

/-- A cloud connection that is to be created. -/
structure ConnectionSpec where
  name : String
  speed : Int64
  globalRouting : Bool := false
  metered : Bool := false
  transitEnabled : Bool := false
  deriving DecidableEq

/-- A change to a cloud connection. What is unset stays as it is. -/
structure ConnectionUpdate where
  name : Option String := none
  speed : Option Int64 := none
  deriving DecidableEq

/-- A request on a cloud connection that goes on as a job (`CloudConnectionJob`). -/
structure ConnectionJob where
  connection : String
  job : String
  deriving DecidableEq

/-- The answer to creating or updating a cloud connection (`CloudConnectionResponse`). -/
inductive ConnectionResponse where
  /-- The request is done. -/
  | done (connection : Connection)
  /-- The request goes on as a job. -/
  | job (job : ConnectionJob)
  deriving DecidableEq

namespace ConnectionResponse

/-- The connection that the request was about. -/
def connection : ConnectionResponse → String
  | .done c => c.id
  | .job j => j.connection

/-- The job that the request goes on as. -/
def job? : ConnectionResponse → Option String
  | .done _ => none
  | .job j => some j.job

/-- The handle of the change that the request started. -/
def handle (r : ConnectionResponse) (operation : Operation) : Handle :=
  { resource := r.connection, job := r.job?, operation }

end ConnectionResponse

/-- A job with what it reports, if it reports anything yet. -/
structure Job where
  id : String
  status : Option JobReport := none
  deriving DecidableEq

/-- The report of a job, which is empty as long as there is none. -/
def Job.report (j : Job) : JobReport := j.status.getD {}

end Settle.Cloud
