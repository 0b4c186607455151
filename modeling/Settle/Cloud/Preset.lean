/-
Policies for the resources of the cloud.

How often to look follows from how slowly a resource moves: servers and ports
take minutes, networks and images seconds. The states of a policy are the words
that the readings of its resource use. There is one policy for each wait of a workspace,
made by `preset` from its own values.
-/
import Settle.Cloud.Status
import Settle.Resize

set_option autoImplicit false

namespace Settle.Cloud.Preset

/-- Seconds in milliseconds. -/
def seconds (n : Nat) : Nat := n * 1000

/-- Minutes in milliseconds. -/
def minutes (n : Nat) : Nat := seconds (n * 60)

/-- How long a server may take to be created or started. -/
def instanceAvailableTimeout : Nat := minutes 120

/-- How long a server may take to stop. -/
def instanceStoppedTimeout : Nat := minutes 30

/-- How long a server may take to settle after a change. -/
def postResizeTimeout : Nat := minutes 60

/-- How long a server may take to be deleted. -/
def instanceDeletedTimeout : Nat := minutes 10

/-- `preset`: a policy that looks at most every ten seconds, and not more often than `least`
allows. -/
def every (subject : String) (timeout initialDelay least : Nat)
    (pending target fatal : List String) : Policy :=
  { timeout
    subject
    pending := .ofList pending
    target := .ofList target
    fatal := .ofList fatal
    pollInterval := seconds 10
    minPollInterval := least
    initialDelay }

/-! ## Servers -/

/-- The least time between looks at a server that is created or started. -/
def availableInterval : ReadyHealth → Nat
  | .ok => minutes 2
  | .warning => seconds 60

/-- A server on its way to a stable status. -/
def instanceReaching (wanted : String) (ready : ReadyHealth) : Policy :=
  every "instance" instanceAvailableTimeout (seconds 30) (availableInterval ready)
    [State.pending, State.build, Health.warning] [wanted] [State.error]

/-- `instance_available`: a server that is created or started, until it runs. -/
def instanceAvailable (ready : ReadyHealth) : Policy := instanceReaching State.active ready

/-- `instance_shutoff`: a server that is created stopped. -/
def instanceShutoff (ready : ReadyHealth) : Policy := instanceReaching State.shutoff ready

/-- `instance_stopped`: a server that was running, until it has stopped. -/
def instanceStopped : Policy :=
  every "instance" instanceStoppedTimeout (seconds 10) (minutes 2)
    [State.active, State.stopping, State.resize, State.verifyResize, Health.warning]
    [State.shutoff] [State.error]

/-- `post_resize`: a server that is changed as it is. It settles running or stopped. -/
def postResize : Policy :=
  every "instance" postResizeTimeout (seconds 10) (minutes 5)
    [State.resize, State.verifyResize, Health.warning] [State.active, State.shutoff]
    [State.error]

/-- `instance_deleted`: only a server that is gone ends this wait; one in error is still being
deleted. -/
def instanceDeleted : Policy :=
  every "instance" instanceDeletedTimeout (seconds 10) (seconds 10) [State.deletingInstance]
    [deletedStatus] []

/-- `resize`: the three waits of a resize. -/
def resize : ResizePolicies where
  stop := instanceStopped
  mutate := postResize
  start :=
    every "instance" instanceAvailableTimeout (seconds 10) (minutes 2)
      [State.shutoff, State.build, State.pending, Health.warning] [State.active] [State.error]

/-! ## Storage -/

/-- `volume_available`: a volume that is created. -/
def volumeAvailable (timeout : Nat) : Policy :=
  every "volume" timeout (seconds 10) (minutes 2) [State.volumeCreating] [State.volumeAvailable]
    [State.error]

/-- `volume_deleted`: a volume that is deleted; like a server it is waited for whatever its
state. -/
def volumeDeleted (timeout : Nat) : Policy :=
  every "volume" timeout (seconds 10) (minutes 2) [State.volumeDeleting] [deletedStatus] []

/-- `image_active`: an image that is imported or captured. -/
def imageActive (timeout : Nat) : Policy :=
  every "image" timeout (seconds 20) (seconds 10) [State.imageQueued] [State.imageActive] []

/-- `snapshot_available`: a snapshot that is taken. -/
def snapshotAvailable (timeout : Nat) : Policy :=
  every "snapshot" timeout (seconds 30) (minutes 2) [State.snapshotInProgress]
    [State.snapshotAvailable] [State.error]

/-- `snapshot_deleted`: a snapshot that is deleted. -/
def snapshotDeleted (timeout : Nat) : Policy :=
  every "snapshot" timeout (seconds 10) (seconds 10) [State.snapshotDeleting] [deletedStatus]
    []

/-! ## Networks -/

/-- `network_ready`: a network that is created. -/
def networkReady (timeout : Nat) : Policy :=
  every "network" timeout (seconds 10) (seconds 10) [State.networkBuild] [State.networkReady]
    []

/-- `port_down`: a port that is created. -/
def portDown (timeout : Nat) : Policy :=
  every "network port" timeout (seconds 10) (minutes 10) [State.portBuild] [State.portDown]
    []

/-- `port_attached`: a port that is attached to a server. -/
def portAttached (timeout : Nat) : Policy :=
  every "network port" timeout (seconds 10) (minutes 10) [State.portBuild] [State.portActive]
    []

/-- `rule_added`: a rule that is added to its group. -/
def ruleAdded (timeout : Nat) : Policy :=
  every "security group rule" timeout (seconds 10) (minutes 10) [State.rulePending]
    [State.ruleAvailable] []

/-- `rule_removed`: a rule that is removed from its group. -/
def ruleRemoved (timeout : Nat) : Policy :=
  every "security group rule" timeout (seconds 10) (minutes 10) [State.rulePending]
    [State.ruleRemoved] []

end Settle.Cloud.Preset
