/-
Volumes, images and snapshots in a workspace.

Waiting for them to be there or to be gone, and for volumes and snapshots a deletion,
which is a request and the wait after it. The deletions are `Workspace.delete` with the
request and the wait of their resource.
-/
import Settle.Cloud.Workspace

set_option autoImplicit false

namespace Settle.Cloud.Workspace

variable {σ : Type}

/-- `wait_for_volume_available`: waits for a volume to be available. -/
def waitVolumeAvailable (ws : Workspace) (R : Remote interface σ) (id : String)
    (timeout : Option Nat) : Operate σ String :=
  ws.wait R (Preset.volumeAvailable (ws.config.timeout timeout)) .create
    (look (.getVolume id) Volume.available)

/-- `wait_for_volume_deleted`: waits for a deleted volume to be gone. -/
def waitVolumeDeleted (ws : Workspace) (R : Remote interface σ) (id : String)
    (timeout : Option Nat) : Operate σ String :=
  ws.wait R (Preset.volumeDeleted (ws.config.timeout timeout)) .delete
    (look (.getVolume id) Volume.deleting)

/-- `delete_volume`: deletes a volume and waits until it is gone. -/
def deleteVolume (ws : Workspace) (R : Remote interface σ) (id : String)
    (timeout : Option Nat) : Operate σ Unit :=
  delete R (.deleteVolume id) (ws.waitVolumeDeleted R id timeout)

/-- `wait_for_image_active`: waits for an imported or captured image to be active. -/
def waitImageActive (ws : Workspace) (R : Remote interface σ) (id : String)
    (timeout : Option Nat) : Operate σ String :=
  ws.wait R (Preset.imageActive (ws.config.timeout timeout)) .create
    (look (.getImage id) Image.available)

/-- `wait_for_snapshot_available`: waits for a snapshot to be available and complete. -/
def waitSnapshotAvailable (ws : Workspace) (R : Remote interface σ) (id : String)
    (timeout : Option Nat) : Operate σ String :=
  ws.wait R (Preset.snapshotAvailable (ws.config.timeout timeout)) .create
    (look (.getSnapshot id) Snapshot.available)

/-- `wait_for_snapshot_deleted`: waits for a deleted snapshot to be gone. -/
def waitSnapshotDeleted (ws : Workspace) (R : Remote interface σ) (id : String)
    (timeout : Option Nat) : Operate σ String :=
  ws.wait R (Preset.snapshotDeleted (ws.config.timeout timeout)) .delete
    (look (.getSnapshot id) Snapshot.deleting)

/-- `delete_snapshot`: deletes a snapshot and waits until it is gone. -/
def deleteSnapshot (ws : Workspace) (R : Remote interface σ) (id : String)
    (timeout : Option Nat) : Operate σ Unit :=
  delete R (.deleteSnapshot id) (ws.waitSnapshotDeleted R id timeout)

end Settle.Cloud.Workspace
