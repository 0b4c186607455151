/-
What the remote side shows: `StatusSnapshot`, `ActionAck`.

A look at a resource gives a reading: its status, if there is one, and a fault
text if the remote side has one to give. An action is acknowledged at once in
one of three ways, and an operation that goes on remotely is tracked by a handle.
-/
set_option autoImplicit false

namespace Settle

/-- The kind of change that is being waited for (`OperationKind`). It decides what a missing
resource means. -/
inductive Operation where
  | create
  | update
  | delete
  /-- A lifecycle action such as a start or a stop. -/
  | action
  deriving DecidableEq

namespace Operation

/-- Every operation. -/
def all : List Operation := [.create, .update, .delete, .action]

/-- The word for an operation. -/
def name : Operation → String
  | .create => "create"
  | .update => "update"
  | .delete => "delete"
  | .action => "action"

end Operation

/-- What one look at a resource gives (`StatusSnapshot`). -/
structure Reading where
  /-- The status, unless there was none. -/
  status : Option String := none
  /-- The fault text that came with it. -/
  fault : Option String := none
  deriving DecidableEq

/-- A reading of a status without fault. -/
def Reading.of (status : String) : Reading := { status := some status }

/-- A reading of a status with a fault. -/
def Reading.faulty (status fault : String) : Reading :=
  { status := some status, fault := some fault }

/-- The immediate answer to an action (`ActionAck`). -/
inductive Ack where
  /-- The request was accepted; progress shows in the status of the resource. -/
  | accepted
  /-- The request returned the new status of the resource. -/
  | status (value : String)
  /-- The request goes on as a job. -/
  | job (id : String)
  deriving DecidableEq

/-- A change in flight on the remote side (`RemoteOperationHandle`). -/
structure Handle where
  resource : String
  /-- The job that tracks the change, if the resource itself does not show it. -/
  job : Option String
  operation : Operation
  deriving DecidableEq

end Settle
