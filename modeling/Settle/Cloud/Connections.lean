/-
Cloud connections in a workspace.

A connection is named by its cloud instance and its own name. Creating and
changing one can fail while the service sets things up, and is then repeated as a
whole; all three changes may go on as a job, which is waited for (`await_operation`).

The order of the steps is that of the program. A new connection is named only when the
service has created it, and a deletion makes its requests without a look at the token.
-/
import Settle.Cloud.Workspace
import Settle.Identifier

set_option autoImplicit false

namespace Settle.Cloud.Workspace

variable {σ : Type}

/-- `ID_SEGMENTS`: a connection's name consists of its cloud instance and its own name. -/
def connectionSegments : Nat := 2

/-- `parse_id`: the connection that a token names. -/
def parseConnection (token : String) : Except OperationError Identifier :=
  (Identifier.parse token connectionSegments).mapError (.unsettled ·.error)

/-- `await_operation`: waits for the job of a change, if it has one. -/
def follow (ws : Workspace) (R : Remote interface σ) (handle : Handle) (timeout : Option Nat) :
    Operate σ Unit :=
  match handle.job with
  | some job => discard (ws.waitJob R job timeout)
  | none => return ()

/-- `create_cloud_connection`: creates a connection, waits for its job, and gives its name. -/
def createConnection (ws : Workspace) (R : Remote interface σ) (spec : ConnectionSpec)
    (timeout : Option Nat) : Operate σ Identifier := do
  let response : ConnectionResponse ← ws.insist R (.createConnection spec)
  let id ← ((Identifier.ofSegments [ws.cloudInstance, response.connection]).mapError
    (.unsettled ·.error) : Except OperationError Identifier)
  ws.follow R (response.handle .create) timeout
  return id

/-- `update_cloud_connection`: changes a connection and waits for the job. -/
def updateConnection (ws : Workspace) (R : Remote interface σ) (token : String)
    (update : ConnectionUpdate) (timeout : Option Nat) : Operate σ Identifier := do
  let id ← parseConnection token
  let response : ConnectionResponse ← ws.insist R (.updateConnection id.leaf update)
  ws.follow R (response.handle .update) timeout
  return id

/-- `read_cloud_connection`: reads a connection, which may be gone. -/
def readConnection (R : Remote interface σ) (token : String) : Operate σ (Option Connection) := do
  let id ← parseConnection token
  match ← ask R (.getConnection id.leaf) with
  | .ok connection => return some connection
  | .error e =>
    if RemoteFailure.classify e = .absent then return none
    else throw (failed e)

/-- `delete_cloud_connection`: deletes a connection and waits for the job. One that cannot be found
beforehand counts as deleted; one that is gone only when it is to be deleted is an error. -/
def deleteConnection (ws : Workspace) (R : Remote interface σ) (token : String)
    (timeout : Option Nat) : Operate σ Unit := do
  let id ← parseConnection token
  match ← ask R (.getConnection id.leaf) with
  | .ok _ =>
    let job : Option String ← demand R (.deleteConnection id.leaf)
    ws.follow R { resource := id.leaf, job, operation := .delete } timeout
  | .error e =>
    if RemoteFailure.classify e = .absent then return ()
    else throw (failed e)

end Settle.Cloud.Workspace
