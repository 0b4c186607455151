/-
A cloud in memory (`MockPowerCloud`).

A stand-in for the cloud that is told beforehand what to answer. Lookups follow a
script for each resource, and a resource without one does not exist. Requests
that change something succeed unless a failure is waiting for them; a failure is
used once. Only creating and updating a connection take no failures: they have a
script of their own. All requests are recorded in the order in which they are made.
-/
import Settle.Cloud.Request
import Settle.Script

set_option autoImplicit false

namespace Settle.Cloud

/-- A prepared result. -/
abbrev Result (α : Type) := Except ApiFailure α

/-- What a cloud in memory will answer, and what it was asked. -/
structure Sandbox where
  instances : Table (Result Instance) := []
  volumes : Table (Result Volume) := []
  images : Table (Result Image) := []
  networks : Table (Result Network) := []
  /-- The key of a port is that of its network, a slash, and its own. -/
  ports : Table (Result Port) := []
  snapshots : Table (Result Snapshot) := []
  securityGroups : Table (Result SecurityGroup) := []
  connections : Table (Result Connection) := []
  jobs : Table (Result Job) := []
  /-- The answers to creating and updating connections, whichever they are. -/
  connectionResponses : Script (Result ConnectionResponse) := []
  /-- The jobs as which the deletions of a connection go on. -/
  deleteJobs : Table (Option String) := []
  /-- The failures that are waiting, by operation. -/
  failures : Table ApiFailure := []
  /-- The requests so far, oldest first. -/
  calls : Array Request := #[]

/-- Answers that are prepared together, each kind by its own function of the program
(`script_instance`, `script_volume` and so on). -/
inductive Batch where
  | instances (id : String) (answers : List (Result Instance))
  | volumes (id : String) (answers : List (Result Volume))
  | images (id : String) (answers : List (Result Image))
  | networks (id : String) (answers : List (Result Network))
  | ports (network port : String) (answers : List (Result Port))
  | snapshots (id : String) (answers : List (Result Snapshot))
  | securityGroups (id : String) (answers : List (Result SecurityGroup))
  | connections (id : String) (answers : List (Result Connection))
  | jobs (id : String) (answers : List (Result Job))
  | connectionResponses (answers : List (Result ConnectionResponse))
  /-- The job as which the deletion of a connection goes on, if any. -/
  | deleteJob (id : String) (job : Option String)

namespace Sandbox

/-- `lookup`: looks a resource up in its scripts. -/
def lookup {α : Type} (scripts : Table (Result α)) (operation key : String) :
    Result α × Table (Result α) :=
  (scripts.next? key).getD (.error (.missing operation key), scripts)

/-- Does what is asked for unless `take_failure` finds a failure waiting for the operation. -/
def attempt {α : Type} (s : Sandbox) (operation : String) (value : α) : Result α × Sandbox :=
  match s.failures.get operation with
  | [] => (.ok value, s)
  | e :: rest => (.error e, { s with failures := s.failures.set operation rest })

/-- The next prepared answer to creating or updating a connection, or the one it has otherwise. -/
def respond (s : Sandbox) (otherwise : Connection) : Result ConnectionResponse × Sandbox :=
  match Script.next? s.connectionResponses with
  | some (response, rest) => (response, { s with connectionResponses := rest })
  | none => (.ok (.done otherwise), s)

/-- The answer to a request that has been recorded. -/
def handle : (q : Request) → Sandbox → Result q.Value × Sandbox
  | .getInstance id, s =>
    let (r, instances) := lookup s.instances "pcloudPvminstancesGet" id
    (r, { s with instances })
  | .updateInstance id update, s =>
    s.attempt (Request.updateInstance id update).operation ({ id } : Instance)
  | .actOnInstance id action, s => s.attempt (Request.actOnInstance id action).operation ()
  | .deleteInstance id, s => s.attempt (Request.deleteInstance id).operation ()
  | .getVolume id, s =>
    let (r, volumes) := lookup s.volumes "pcloudCloudinstancesVolumesGet" id
    (r, { s with volumes })
  | .deleteVolume id, s => s.attempt (Request.deleteVolume id).operation ()
  | .getImage id, s =>
    let (r, images) := lookup s.images "pcloudCloudinstancesImagesGet" id
    (r, { s with images })
  | .getNetwork id, s =>
    let (r, networks) := lookup s.networks "pcloudNetworksGet" id
    (r, { s with networks })
  | .getPort network port, s =>
    let (r, ports) := lookup s.ports "pcloudNetworksPortsGet" (network ++ "/" ++ port)
    (r, { s with ports })
  | .getSnapshot id, s =>
    let (r, snapshots) := lookup s.snapshots "pcloudCloudinstancesSnapshotsGet" id
    (r, { s with snapshots })
  | .deleteSnapshot id, s => s.attempt (Request.deleteSnapshot id).operation ()
  | .getSecurityGroup id, s =>
    let (r, securityGroups) := lookup s.securityGroups "v1NetworkSecurityGroupsGet" id
    (r, { s with securityGroups })
  | .getConnection id, s =>
    let (r, connections) := lookup s.connections "pcloudCloudconnectionsGet" id
    (r, { s with connections })
  | .createConnection spec, s =>
    s.respond { id := "cc-" ++ spec.name, name := spec.name, speed := spec.speed }
  | .updateConnection id update, s =>
    s.respond { id, name := update.name.getD "", speed := update.speed.getD 0 }
  | .deleteConnection id, s =>
    match s.attempt (Request.deleteConnection id).operation () with
    | (.error e, s) => (.error e, s)
    | (.ok (), s) =>
      match s.deleteJobs.next? id with
      | some (job, deleteJobs) => (.ok job, { s with deleteJobs })
      | none => (.ok none, s)
  | .getJob id, s =>
    let (r, jobs) := lookup s.jobs "pcloudCloudinstancesJobsGet" id
    (r.map Job.report, { s with jobs })

/-- Records a request and answers it. -/
def answer (q : Request) (s : Sandbox) : Result q.Value × Sandbox :=
  handle q { s with calls := s.calls.push q }

/-- A remote side that answers at once. -/
def remote : Remote interface Sandbox where
  answer q s :=
    let (response, s) := s.answer q
    ({ response }, s)
  unplayed s :=
    s.instances.size + s.volumes.size + s.images.size + s.networks.size + s.ports.size
      + s.snapshots.size + s.securityGroups.size + s.connections.size + s.jobs.size
      + s.connectionResponses.length + s.deleteJobs.size + s.failures.size

/-- `push`: adds answers to the end of the script that they are prepared for. -/
def prepare (s : Sandbox) : Batch → Sandbox
  | .instances id answers => { s with instances := s.instances.append id answers }
  | .volumes id answers => { s with volumes := s.volumes.append id answers }
  | .images id answers => { s with images := s.images.append id answers }
  | .networks id answers => { s with networks := s.networks.append id answers }
  | .ports network port answers =>
    { s with ports := s.ports.append (network ++ "/" ++ port) answers }
  | .snapshots id answers => { s with snapshots := s.snapshots.append id answers }
  | .securityGroups id answers => { s with securityGroups := s.securityGroups.append id answers }
  | .connections id answers => { s with connections := s.connections.append id answers }
  | .jobs id answers => { s with jobs := s.jobs.append id answers }
  | .connectionResponses answers =>
    { s with connectionResponses := s.connectionResponses ++ answers }
  | .deleteJob id job => { s with deleteJobs := s.deleteJobs.append id [job] }

/-- `fail_next`: makes the next request of an operation fail, after those that are waiting already.
An operation that takes no failures leaves it waiting. -/
def failNext (s : Sandbox) (operation : String) (e : ApiFailure) : Sandbox :=
  { s with failures := s.failures.append operation [e] }

end Sandbox

end Settle.Cloud
