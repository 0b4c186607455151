/-
What the state of a resource comes to.

Few resources of the cloud have one field that says when they are done: a server
has a status and a health, a snapshot a status and a progress, a network is ready
once it has a VLAN, and a rule is nothing but its presence. Each function here
turns a resource as it was fetched into the reading that a wait judges, and is named in
its comment as in the program.
-/
import Settle.Cloud.Model
import Settle.Text.Lowercase

set_option autoImplicit false

namespace Settle.Cloud

/-! ## The words

A resource is described by words of the cloud, and by words of its own where the
cloud has none. The letter case of a word is part of it. -/

namespace State

def active : String := "ACTIVE"
def build : String := "BUILD"
def error : String := "ERROR"
def pending : String := "PENDING"
def shutoff : String := "SHUTOFF"
def stopping : String := "STOPPING"
def resize : String := "RESIZE"
def verifyResize : String := "VERIFY_RESIZE"
def deletingInstance : String := "DELETING"

def volumeAvailable : String := "available"
def volumeInUse : String := "in-use"
def volumeCreating : String := "creating"
def volumeDeleting : String := "deleting"

def imageActive : String := "active"
def imageQueued : String := "queued"

def networkReady : String := "NETWORK_READY"
def networkBuild : String := "build"

def portDown : String := "DOWN"
def portActive : String := "ACTIVE"
def portBuild : String := "build"

def snapshotAvailable : String := "available"
def snapshotInProgress : String := "in_progress"
def snapshotDeleting : String := "deleting"

def ruleAvailable : String := "available"
def rulePending : String := "pending"
def ruleRemoved : String := "removed"

end State

namespace Health

def ok : String := "OK"
def warning : String := "WARNING"

end Health

/-- The health with which a server counts as ready (`ReadyHealth`). -/
inductive ReadyHealth where
  /-- Nothing but good health will do. -/
  | ok
  /-- A warning will do as well. -/
  | warning
  deriving DecidableEq

/-- `accepts`: whether a server with this health counts as ready. -/
def ReadyHealth.accepts (ready : ReadyHealth) (health : Option String) : Bool :=
  health == some Health.ok || (ready == .warning && health == some Health.warning)

/-! ## Servers -/

namespace Instance

/-- `instance_fault`: the fault text of a server in error. -/
def faultText (i : Instance) : String :=
  match i.fault with
  | some fault => "failed to create the lpar: " ++ fault
  | none => "failed to create the lpar"

/-- `instance_reaching`: a server on its way to a status, which is there with ready health, in
error, or still being built. -/
def reaching (wanted : String) (ready : ReadyHealth) (i : Instance) : Reading :=
  match i.status with
  | none => {}
  | some status =>
    if status = State.error then .faulty State.error i.faultText
    else if status = wanted ∧ ready.accepts i.health then .of wanted
    else .of State.build

/-- `instance_available`: a server that is created or started. -/
def available (ready : ReadyHealth) (i : Instance) : Reading := i.reaching State.active ready

/-- `instance_shutoff`: a server that is created stopped. -/
def shutoff (ready : ReadyHealth) (i : Instance) : Reading := i.reaching State.shutoff ready

/-- `instance_normalized`: a server while it is stopped, changed and started. Its status is as it
is, except that an error brings its fault, and that a stable status with anything but good health is
a warning. -/
def normalized (i : Instance) : Reading :=
  match i.status with
  | none => {}
  | some status =>
    if status = State.error then .faulty State.error i.faultText
    else if (status = State.active ∨ status = State.shutoff) ∧ i.health ≠ some Health.ok then
      .of Health.warning
    else .of status

/-- `instance_deleting`: a server that is deleted and still there. One in error is deleted like any
other. -/
def deleting (_ : Instance) : Reading := .of State.deletingInstance

end Instance

/-! ## Storage -/

/-- `volume_available`: a volume that is created; an attached one is available too. -/
def Volume.available (v : Volume) : Reading :=
  match v.state with
  | some state =>
    if state = State.volumeAvailable ∨ state = State.volumeInUse then .of State.volumeAvailable
    else if Text.sameIgnoringCase state State.error then
      .faulty State.error ("volume " ++ v.id ++ " is in error")
    else .of State.volumeCreating
  | none => .of State.volumeCreating

/-- `volume_deleting`: a volume that is deleted and still there. -/
def Volume.deleting (_ : Volume) : Reading := .of State.volumeDeleting

/-- `image_available`: an image that is imported or captured. -/
def Image.available (i : Image) : Reading :=
  .of (if i.state = some State.imageActive then State.imageActive else State.imageQueued)

/-- The progress of a snapshot that is complete. -/
def Snapshot.complete : Int64 := 100

/-- `snapshot_available`: a snapshot that is taken. A good status counts only once the snapshot is
complete. -/
def Snapshot.available (s : Snapshot) : Reading :=
  match s.status with
  | some status =>
    if (status = State.snapshotAvailable ∨ status = State.active)
        ∧ Snapshot.complete ≤ s.percentComplete then
      .of State.snapshotAvailable
    else if Text.sameIgnoringCase status State.error then
      .faulty State.error ("snapshot " ++ s.id ++ " is in error")
    else .of State.snapshotInProgress
  | none => .of State.snapshotInProgress

/-- `snapshot_deleting`: a snapshot that is deleted and still there. -/
def Snapshot.deleting (_ : Snapshot) : Reading := .of State.snapshotDeleting

/-! ## Networks -/

/-- `network_ready`: a network that is created. -/
def Network.ready (n : Network) : Reading :=
  .of (if n.vlan.isSome then State.networkReady else State.networkBuild)

/-- `port_down`: a port that is created and not attached. -/
def Port.down (p : Port) : Reading :=
  .of (if p.status = some State.portDown then State.portDown else State.portBuild)

/-- `port_attached`: a port that is attached to a server. -/
def Port.attached (instanceId : String) (p : Port) : Reading :=
  .of (if p.status = some State.portActive ∧ p.attachedTo = some instanceId then State.portActive
    else State.portBuild)

/-- `rule_added`: a rule that is added to a group. -/
def SecurityGroup.ruleAdded (rule : String) (g : SecurityGroup) : Reading :=
  .of (if g.hasRule rule then State.ruleAvailable else State.rulePending)

/-- `rule_removed`: a rule that is removed from a group. -/
def SecurityGroup.ruleRemoved (rule : String) (g : SecurityGroup) : Reading :=
  .of (if g.hasRule rule then State.rulePending else State.ruleRemoved)

end Settle.Cloud
