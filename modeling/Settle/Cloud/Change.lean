/-
Changes to servers: `plan_change`.

Memory and processors can be changed while a server runs, up to the most it can
have. More than that needs a stopped server, and so does another processor type
or another profile. A plan says which way a change goes.
-/
import Settle.Cloud.OperationError
import Settle.Cloud.Status

set_option autoImplicit false

namespace Settle.Cloud

/-- What is to be changed about a server (`InstanceChange`). What is unset stays as it is. -/
structure Change where
  name : Option String := none
  memory : Option Float := none
  processors : Option Float := none
  processorType : Option String := none
  sapProfile : Option String := none
  virtualCores : Option Int64 := none

/-- What to wait for after a change to a server that is not restarted. -/
inductive HotWait where
  /-- The server is running with good health. -/
  | available
  /-- The stopped server is through with the change. -/
  | postResize
  deriving DecidableEq

/-- The word for a wait in a plan. -/
def HotWait.name : HotWait → String
  | .available => "available"
  | .postResize => "post_resize"

/-- The way in which a change is applied (`ChangePlan`). -/
inductive Plan where
  /-- Change the server as it is, then wait. -/
  | hot (wait : HotWait)
  /-- Stop the server, change it, start it. -/
  | cold
  deriving DecidableEq

namespace Change

/-- `is_empty`: whether nothing is to be changed. -/
def isEmpty (c : Change) : Bool :=
  c.name.isNone && c.memory.isNone && c.processors.isNone && c.processorType.isNone
    && c.sapProfile.isNone && c.virtualCores.isNone

/-- `to_update`: the body of the request that makes the change. -/
def toUpdate (c : Change) : InstanceUpdate :=
  { name := c.name
    memory := c.memory
    processors := c.processors
    processorType := c.processorType
    sapProfile := c.sapProfile
    virtualCores := c.virtualCores }

/-- `exceeds_maximums`: whether the change asks for more than a server can have while it runs. -/
def exceedsMaximums (c : Change) (current : Instance) : Bool :=
  c.memory.any (fun memory => decide (current.maxMemory < memory))
    || c.processors.any (fun processors => decide (current.maxProcessors < processors))

/-- `plan_change`: the way in which a change is applied to a server as it is now. A server with a
health warning is left alone, and so is one with nothing to change. -/
def plan (c : Change) (current : Instance) : Except OperationError Plan :=
  if current.health = some Health.warning then .error (.unhealthyInstance Health.warning)
  else if c.isEmpty then .error (.invalidChange "no changes requested")
  else
    let stopped := current.status = some State.shutoff
    if c.processorType.isSome ∨ c.sapProfile.isSome then .ok .cold
    else if c.exceedsMaximums current ∧ ¬stopped then .ok .cold
    else if stopped then .ok (.hot .postResize)
    else .ok (.hot .available)

end Change

end Settle.Cloud
