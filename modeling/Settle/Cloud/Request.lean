/-
Requests to the cloud.

Everything that can be asked of the cloud, what each request is answered with if
it succeeds, and how it is called in the record of `calls`. A request is a method of the
cloud's clients together with its arguments.
-/
import Settle.Cloud.ApiFailure
import Settle.Cloud.Model

set_option autoImplicit false

namespace Settle.Cloud

/-- A request to the cloud. -/
inductive Request where
  | getInstance (id : String)
  | updateInstance (id : String) (update : InstanceUpdate)
  | actOnInstance (id : String) (action : InstanceAction)
  | deleteInstance (id : String)
  | getVolume (id : String)
  | deleteVolume (id : String)
  | getImage (id : String)
  | getNetwork (id : String)
  | getPort (network port : String)
  | getSnapshot (id : String)
  | deleteSnapshot (id : String)
  | getSecurityGroup (id : String)
  | getConnection (id : String)
  | createConnection (spec : ConnectionSpec)
  | updateConnection (id : String) (update : ConnectionUpdate)
  /-- Answered with the job that the deletion goes on as, if any. -/
  | deleteConnection (id : String)
  | getJob (id : String)

namespace Request

/-- What a request is answered with if it succeeds. -/
def Value : Request → Type
  | .getInstance _ | .updateInstance _ _ => Instance
  | .actOnInstance _ _ | .deleteInstance _ | .deleteVolume _ | .deleteSnapshot _ => Unit
  | .getVolume _ => Volume
  | .getImage _ => Image
  | .getNetwork _ => Network
  | .getPort _ _ => Port
  | .getSnapshot _ => Snapshot
  | .getSecurityGroup _ => SecurityGroup
  | .getConnection _ => Connection
  | .createConnection _ | .updateConnection _ _ => ConnectionResponse
  | .deleteConnection _ => Option String
  | .getJob _ => JobReport

/-- What is done. -/
def operation : Request → String
  | .getInstance _ => "get_instance"
  | .updateInstance _ _ => "update_instance"
  | .actOnInstance _ action => "action:" ++ action.name
  | .deleteInstance _ => "delete_instance"
  | .getVolume _ => "get_volume"
  | .deleteVolume _ => "delete_volume"
  | .getImage _ => "get_image"
  | .getNetwork _ => "get_network"
  | .getPort _ _ => "get_port"
  | .getSnapshot _ => "get_snapshot"
  | .deleteSnapshot _ => "delete_snapshot"
  | .getSecurityGroup _ => "get_security_group"
  | .getConnection _ => "get_cloud_connection"
  | .createConnection _ => "create_cloud_connection"
  | .updateConnection _ _ => "update_cloud_connection"
  | .deleteConnection _ => "delete_cloud_connection"
  | .getJob _ => "get_job"

/-- What it is done to. -/
def subject : Request → String
  | .getPort network port => network ++ "/" ++ port
  | .createConnection spec => spec.name
  | .getInstance id | .updateInstance id _ | .actOnInstance id _ | .deleteInstance id
  | .getVolume id | .deleteVolume id | .getImage id | .getNetwork id | .getSnapshot id
  | .deleteSnapshot id | .getSecurityGroup id | .getConnection id | .updateConnection id _
  | .deleteConnection id | .getJob id => id

/-- How a request is called in a record of calls. -/
def label (q : Request) : String := q.operation ++ ":" ++ q.subject

end Request

/-- What the cloud can be asked and how it answers. -/
def interface : Interface := ⟨Request, fun q => Except ApiFailure q.Value⟩

/-- A request whose answer is taken as it is. -/
def query (q : Request) : Query interface (Except ApiFailure q.Value) := ⟨q, id⟩

/-- A look at a resource that is read in a certain way. -/
def look (q : Request) (read : q.Value → Reading) : Query interface (Except ApiFailure Reading) :=
  (query q).map (Except.map read)

end Settle.Cloud
