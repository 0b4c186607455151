/-
Deleting a cloud connection that is gone.

`delete_cloud_connection` looks the connection up and then asks for it to be deleted. A
connection that the lookup does not find counts as deleted. One that disappears
between the two requests does not: the request fails, and the failure reaches the
caller as it would in any other operation. The deletions of servers, volumes and
snapshots treat the same failure as success (`Deletion.run_ok_iff`).
-/
import Settle.Cloud.Connections
import Settle.Cloud.Sandbox
import Settle.Proofs.Cloud.Workspace

set_option autoImplicit false

namespace Settle.Cloud.Workspace

variable {σ : Type}

/-! ## 1. The two requests -/

section Requests

variable (R : Remote interface σ) (id : Identifier) (w : World interface σ)

/-- The lookup of a deletion. -/
def lookedUp : (query (.getConnection id.leaf)).Call := w.callOf R _

/-- The world when the answer to the lookup has arrived. -/
def afterLookup : World interface σ := (w.call R (query (.getConnection id.leaf))).2

/-- The request of a deletion that has found its connection. -/
def requested : (query (.deleteConnection id.leaf)).Call := (afterLookup R id w).callOf R _

/-- The world when the answer to the request has arrived. -/
def afterRequest : World interface σ :=
  ((afterLookup R id w).call R (query (.deleteConnection id.leaf))).2

theorem afterLookup_trace :
    (afterLookup R id w).trace.toList = w.trace.toList ++ [(lookedUp R id w).exchange] :=
  (w.leads_call R _).trace_eq

theorem afterRequest_trace :
    (afterRequest R id w).trace.toList =
      w.trace.toList ++ [(lookedUp R id w).exchange, (requested R id w).exchange] := by
  have htrace := ((w.leads_call R (query (.getConnection id.leaf))).trans
    ((afterLookup R id w).leads_call R (query (.deleteConnection id.leaf)))).trace_eq
  exact htrace

/-- What a deletion does, request by request. -/
theorem runIn_deleteConnection (ws : Workspace) {token : String}
    (hid : parseConnection token = .ok id) (timeout : Option Nat) :
    (ws.deleteConnection R token timeout).run.runIn w =
      match (lookedUp R id w).result with
      | .ok _ =>
        match (requested R id w).result with
        | .ok job =>
          (ws.follow R { resource := id.leaf, job, operation := .delete } timeout).run.runIn
            (afterRequest R id w)
        | .error e => (some (.error (failed e)), afterRequest R id w)
      | .error e =>
        (some (if RemoteFailure.classify e = .absent then .ok () else .error (failed e)),
          afterLookup R id w) := by
  unfold deleteConnection
  rw [hid, Task.lift_ok_bind]
  refine (runIn_ask_bind R (.getConnection id.leaf) w _).trans ?_
  rw [show (w.callOf R (query (.getConnection id.leaf))).result = (lookedUp R id w).result from rfl]
  cases (lookedUp R id w).result with
  | ok connection =>
    simp only
    refine (runIn_demand_bind R (.deleteConnection id.leaf) (afterLookup R id w) fun job =>
      ws.follow R { resource := id.leaf, job, operation := .delete } timeout).trans ?_
    rw [show ((afterLookup R id w).callOf R (query (.deleteConnection id.leaf))).result =
      (requested R id w).result from rfl]
    cases (requested R id w).result <;> rfl
  | error e =>
    simp only
    split <;> rfl

end Requests

/-! ## 2. Connections that are gone -/

/-- **Deleting a connection that is gone succeeds if the lookup does not find it, and fails if it
disappears only after the lookup.** No job is waited for in either case: there are no exchanges
but the lookup, and the request if it is made. -/
theorem deleteConnection_absent (ws : Workspace) (R : Remote interface σ) (w : World interface σ)
    (timeout : Option Nat) {token : String} {id : Identifier}
    (hid : parseConnection token = .ok id) :
    (∀ e, (lookedUp R id w).result = .error e → RemoteFailure.classify e = .absent →
      (ws.deleteConnection R token timeout).run.runIn w = (some (.ok ()), afterLookup R id w) ∧
        (afterLookup R id w).trace.toList = w.trace.toList ++ [(lookedUp R id w).exchange]) ∧
    (∀ connection e, (lookedUp R id w).result = .ok connection →
      (requested R id w).result = .error e → RemoteFailure.classify e = .absent →
        (ws.deleteConnection R token timeout).run.runIn w =
            (some (.error (.unsettled (.notFound e.message))), afterRequest R id w) ∧
          (afterRequest R id w).trace.toList =
            w.trace.toList ++ [(lookedUp R id w).exchange, (requested R id w).exchange]) := by
  constructor
  · intro e hlookup habsent
    refine ⟨?_, afterLookup_trace R id w⟩
    rw [runIn_deleteConnection R id w ws hid, hlookup]
    simp only [if_pos habsent]
  · intro connection e hlookup hrequest habsent
    refine ⟨?_, afterRequest_trace R id w⟩
    have hfailed : failed e = .unsettled (.notFound e.message) := by
      unfold failed Error.ofFailure
      rw [habsent]
      rfl
    rw [runIn_deleteConnection R id w ws hid, hlookup]
    simp only [hrequest, hfailed]

/-! ## 3. A connection that disappears -/

/-- The name of a connection. -/
def link : Identifier := ⟨["cloud-1", "cc-1"], by decide⟩

/-- The failure that says that it is gone. -/
def gone : ApiFailure := .http "pcloudCloudconnectionsDelete" ApiFailure.absentStatus "gone"

/-- The connection is there when it is looked up, and gone when it is to be deleted. -/
def vanishing : World interface Sandbox where
  remote :=
    { connections := [("cc-1", [.ok { id := "cc-1", name := "link", speed := 50 }])]
      failures := [("delete_cloud_connection", [gone])] }

theorem deleteConnection_absent_vanishing :
    parseConnection "cloud-1/cc-1" = .ok link ∧
      (({ cloudInstance := "cloud-1" } : Workspace).deleteConnection Sandbox.remote "cloud-1/cc-1"
          none).run.runIn vanishing =
        (some (.error (.unsettled (.notFound "pcloudCloudconnectionsDelete failed: gone"))),
          afterRequest Sandbox.remote link vanishing) := by
  have hid : parseConnection "cloud-1/cc-1" = .ok link := rfl
  have hrun := ((deleteConnection_absent { cloudInstance := "cloud-1" } Sandbox.remote vanishing
    none hid).2 { id := "cc-1", name := "link", speed := 50 } gone rfl rfl rfl).1
  exact ⟨hid, hrun⟩

/-- So it is not true that a connection which disappears before it is deleted counts as deleted. -/
theorem not_deleteConnection_vanishing :
    ¬ ∀ (ws : Workspace) (w : World interface Sandbox) (token : String) (id : Identifier)
        (e : ApiFailure),
      parseConnection token = .ok id → (requested Sandbox.remote id w).result = .error e →
        RemoteFailure.classify e = .absent →
          ((ws.deleteConnection Sandbox.remote token none).run.runIn w).1 = some (.ok ()) := by
  intro h
  have hok := h { cloudInstance := "cloud-1" } vanishing "cloud-1/cc-1" link gone rfl rfl rfl
  have herror : ((({ cloudInstance := "cloud-1" } : Workspace).deleteConnection Sandbox.remote
      "cloud-1/cc-1" none).run.runIn vanishing).1 =
        some (.error (.unsettled (.notFound "pcloudCloudconnectionsDelete failed: gone"))) := rfl
  rw [herror] at hok
  cases hok

end Settle.Cloud.Workspace
