/-
Networks, ports and security rules in a workspace.

All of these are waits: whoever uses a network makes the request elsewhere and waits
here until the cloud shows that it has taken effect. Each wait is `Workspace.wait` with the
policy and the reading of its resource, and has the name of the program's function in its
comment.
-/
import Settle.Cloud.Workspace

set_option autoImplicit false

namespace Settle.Cloud.Workspace

variable {σ : Type}

/-- `wait_for_network_ready`: waits for a network to have its VLAN. -/
def waitNetworkReady (ws : Workspace) (R : Remote interface σ) (id : String)
    (timeout : Option Nat) : Operate σ String :=
  ws.wait R (Preset.networkReady (ws.config.timeout timeout)) .create
    (look (.getNetwork id) Network.ready)

/-- `wait_for_port_down`: waits for a new port to be down. -/
def waitPortDown (ws : Workspace) (R : Remote interface σ) (network port : String)
    (timeout : Option Nat) : Operate σ String :=
  ws.wait R (Preset.portDown (ws.config.timeout timeout)) .create
    (look (.getPort network port) Port.down)

/-- `wait_for_port_attached`: waits for a port to be active and attached to a server. -/
def waitPortAttached (ws : Workspace) (R : Remote interface σ) (network port instanceId : String)
    (timeout : Option Nat) : Operate σ String :=
  ws.wait R (Preset.portAttached (ws.config.timeout timeout)) .update
    (look (.getPort network port) (Port.attached instanceId))

/-- `wait_for_rule_added`: waits for a rule to be in its group. -/
def waitRuleAdded (ws : Workspace) (R : Remote interface σ) (group rule : String)
    (timeout : Option Nat) : Operate σ String :=
  ws.wait R (Preset.ruleAdded (ws.config.timeout timeout)) .create
    (look (.getSecurityGroup group) (SecurityGroup.ruleAdded rule))

/-- `wait_for_rule_removed`: waits for a rule to be gone from its group, or for the group to be
gone. -/
def waitRuleRemoved (ws : Workspace) (R : Remote interface σ) (group rule : String)
    (timeout : Option Nat) : Operate σ String :=
  ws.wait R (Preset.ruleRemoved (ws.config.timeout timeout)) .delete
    (look (.getSecurityGroup group) (SecurityGroup.ruleRemoved rule))

end Settle.Cloud.Workspace
