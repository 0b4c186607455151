/-
Changing cloud connections when the caller has cancelled.

Creating and updating a connection look at the token before each of their requests
(`call_cancellable`), so there is none after it has fired. Deleting one
(`delete_cloud_connection`) does not: the lookup and the request are
made once each, whatever the token, and only the wait for the job heeds it. So a
deletion that was cancelled before it began still takes place.
-/
import Settle.Proofs.Cloud.Connections
import Settle.Proofs.Heeding
import Settle.Proofs.Truncation.Loops

set_option autoImplicit false

namespace Settle.Cloud.Workspace

variable {σ : Type} {R : Remote interface σ}

/-! ## 1. The parts -/

section Parts

variable (ws : Workspace) (hheeds : ws.heeds = true)

include hheeds

theorem insist_heeds (q : Request) (w : World interface σ) : (ws.insist R q).run.Heeds R w := by
  unfold insist settling
  rw [hheeds]
  exact .map (ws.config.retry.call_heeds w)

theorem insist_idles (q : Request) :
    (ws.insist R q).run.Idles (· = .error (.unsettled (.timedOut true))) := by
  unfold insist settling
  rw [hheeds]
  refine .map (ws.config.retry.call_idles.mono ?_)
  rintro _ rfl
  rfl

theorem follow_heeds (handle : Handle) (timeout : Option Nat) (w : World interface σ) :
    (ws.follow R handle timeout).run.Heeds R w := by
  unfold follow
  split
  · rename_i job _
    have hwait : (ws.waitJob R job timeout).run.Heeds R w :=
      .map (ws.jobWait.settle_heeds hheeds (ws.config.timeout timeout) w)
    exact Task.heeds_bind hwait fun _ w' _ => .pure _ w'
  · exact .pure _ w

end Parts

/-! ## 2. The three changes -/

/-- An operation that obeys the token: wherever it begins, each of its requests is made before the
token fires, and if the token has fired by then there are none and it fails as cancelled. -/
structure Obeys {α : Type} (R : Remote interface σ) (op : Operate σ α) : Prop where
  heeds : ∀ w : World interface σ, op.run.Heeds R w
  in_time : ∀ w : World interface σ, ∃ calls, w.LeadsInTime calls (op.run.runIn w).2
  cancelled : op.run.Idles (· = .error (.unsettled (.timedOut true)))

theorem createConnection_obeys (ws : Workspace) (hheeds : ws.heeds = true) (spec : ConnectionSpec)
    (timeout : Option Nat) : Obeys R (ws.createConnection R spec timeout) := by
  have heeds : ∀ w, (ws.createConnection R spec timeout).run.Heeds R w := by
    intro w
    refine Task.heeds_bind (ws.insist_heeds hheeds _ w) fun response w' _ => ?_
    refine Task.heeds_lift_bind fun id _ => ?_
    exact Task.heeds_bind (ws.follow_heeds hheeds _ timeout w') fun _ w'' _ => .pure _ w''
  exact ⟨heeds, fun w => (heeds w).leads_in_time,
    Task.idles_bind_of_fails (ws.insist_idles hheeds _)⟩

theorem updateConnection_obeys (ws : Workspace) (hheeds : ws.heeds = true) {token : String}
    {id : Identifier} (hid : parseConnection token = .ok id) (update : ConnectionUpdate)
    (timeout : Option Nat) : Obeys R (ws.updateConnection R token update timeout) := by
  unfold updateConnection
  rw [hid, Task.lift_ok_bind]
  have heeds : ∀ w, (do
      let response : ConnectionResponse ← ws.insist R (.updateConnection id.leaf update)
      ws.follow R (response.handle .update) timeout
      return id : Operate σ Identifier).run.Heeds R w := by
    intro w
    refine Task.heeds_bind (ws.insist_heeds hheeds _ w) fun response w' _ => ?_
    exact Task.heeds_bind (ws.follow_heeds hheeds _ timeout w') fun _ w'' _ => .pure _ w''
  exact ⟨heeds, fun w => (heeds w).leads_in_time,
    Task.idles_bind_of_fails (ws.insist_idles hheeds _)⟩

/-- The wait for the job of a deletion. -/
def followDeletion (ws : Workspace) (R : Remote interface σ) (id : Identifier)
    (timeout : Option Nat) (job : Option String) : Operate σ Unit :=
  ws.follow R { resource := id.leaf, job, operation := .delete } timeout

/-- A deletion asks for its lookup and then, if that succeeds, for the deletion itself, and neither
waits for the token. What comes after these is the wait for the job, which obeys it. -/
structure DeletesAnyway (ws : Workspace) (R : Remote interface σ) (id : Identifier)
    (timeout : Option Nat) (op : Operate σ Unit) (w : World interface σ) : Prop where
  missing : ∀ e, (lookedUp R id w).result = .error e →
    (op.run.runIn w).2.trace.toList = w.trace.toList ++ [(lookedUp R id w).exchange]
  found : ∀ connection, (lookedUp R id w).result = .ok connection →
    ∃ jobs, (afterRequest R id w).LeadsInTime jobs (op.run.runIn w).2 ∧
      (op.run.runIn w).2.trace.toList =
        w.trace.toList ++ (lookedUp R id w).exchange :: (requested R id w).exchange :: jobs
  waits : ∀ connection job, (lookedUp R id w).result = .ok connection →
    (requested R id w).result = .ok job →
      (ws.followDeletion R id timeout job).run.Heeds R (afterRequest R id w) ∧
        op.run.runIn w = (ws.followDeletion R id timeout job).run.runIn (afterRequest R id w)

theorem deleteConnection_anyway (ws : Workspace) (hheeds : ws.heeds = true) {token : String}
    {id : Identifier} (hid : parseConnection token = .ok id) (timeout : Option Nat)
    (w : World interface σ) :
    DeletesAnyway ws R id timeout (ws.deleteConnection R token timeout) w := by
  have hrun := runIn_deleteConnection R id w ws hid timeout
  have hbefore := afterRequest_trace R id w
  have hfollow (job : Option String) :
      (ws.followDeletion R id timeout job).run.Heeds R (afterRequest R id w) :=
    ws.follow_heeds hheeds _ timeout _
  have hwaits : ∀ connection job, (lookedUp R id w).result = .ok connection →
      (requested R id w).result = .ok job →
        (ws.deleteConnection R token timeout).run.runIn w =
          (ws.followDeletion R id timeout job).run.runIn (afterRequest R id w) := by
    intro connection job hlookup hrequest
    rw [hrun, hlookup]
    simp only [hrequest]
    rfl
  refine ⟨fun e hlookup => ?_, fun connection hlookup => ?_, fun connection job hlookup hrequest =>
    ⟨hfollow job, hwaits connection job hlookup hrequest⟩⟩
  · rw [hrun, hlookup]
    exact afterLookup_trace R id w
  · cases hrequest : (requested R id w).result with
    | error e =>
      have hworld :
          ((ws.deleteConnection R token timeout).run.runIn w).2 = afterRequest R id w := by
        rw [hrun, hlookup]
        simp only [hrequest]
      rw [hworld]
      exact ⟨[], .quiet (.refl _) (.refl _), hbefore⟩
    | ok job =>
      obtain ⟨jobs, hjobs⟩ := (hfollow job).leads_in_time
      rw [hwaits connection job hlookup hrequest]
      refine ⟨jobs, hjobs, ?_⟩
      rw [hjobs.leads.trace_eq, hbefore, List.append_assoc]
      rfl

/-- **Creating and updating a connection ask for nothing once the token has fired, and fail as
cancelled if it has fired before they begin. A deletion makes its lookup and its request all the
same.** A connection that cannot be named is asked nothing about. -/
theorem connectionChanges_cancelled (ws : Workspace) (hheeds : ws.heeds = true)
    (R : Remote interface σ) (timeout : Option Nat) :
    (∀ spec, Obeys R (ws.createConnection R spec timeout)) ∧
    (∀ token id, parseConnection token = .ok id →
      (∀ update, Obeys R (ws.updateConnection R token update timeout)) ∧
        ∀ w, DeletesAnyway ws R id timeout (ws.deleteConnection R token timeout) w) ∧
    ∀ token e, parseConnection token = .error e → ∀ w,
      (∀ update, (ws.updateConnection R token update timeout).run.runIn w = (some (.error e), w)) ∧
        (ws.deleteConnection R token timeout).run.runIn w = (some (.error e), w) := by
  refine ⟨fun spec => createConnection_obeys ws hheeds spec timeout, fun token id hid => ?_,
    fun token e hbad w => ?_⟩
  · refine ⟨fun update => updateConnection_obeys ws hheeds hid update timeout, fun w => ?_⟩
    exact deleteConnection_anyway ws hheeds hid timeout w
  · constructor
    · intro update
      unfold updateConnection
      rw [hbad]
      rfl
    · unfold deleteConnection
      rw [hbad]
      rfl

/-! ## 3. A deletion that was cancelled beforehand -/

/-- The workspace of a caller who can cancel. -/
def cancellable : Workspace := { cloudInstance := "cloud-1", heeds := true }

/-- The connection is there, and the caller has cancelled. -/
def revoked : World interface Sandbox where
  token := { fired := true }
  remote := { connections := [("cc-1", [.ok { id := "cc-1", name := "link", speed := 50 }])] }

theorem connectionChanges_cancelled_revoked :
    cancellable.heeds = true ∧ parseConnection "cloud-1/cc-1" = .ok link ∧
      (∃ w', (cancellable.updateConnection Sandbox.remote "cloud-1/cc-1" { speed := some 100 }
          none).run.runIn revoked = (some (.error (.unsettled (.timedOut true))), w') ∧
        w'.trace = revoked.trace) ∧
      ∃ jobs, ((cancellable.deleteConnection Sandbox.remote "cloud-1/cc-1" none).run.runIn
          revoked).2.trace.toList =
        revoked.trace.toList ++ (lookedUp Sandbox.remote link revoked).exchange ::
          (requested Sandbox.remote link revoked).exchange :: jobs := by
  have hid : parseConnection "cloud-1/cc-1" = .ok link := rfl
  have hchanges := connectionChanges_cancelled cancellable rfl Sandbox.remote none
  obtain ⟨hupdate, hdelete⟩ := hchanges.2.1 "cloud-1/cc-1" link hid
  refine ⟨rfl, hid, ?_, ?_⟩
  · obtain ⟨_, w', hrun, -, htrace, -, rfl⟩ := (hupdate { speed := some 100 }).cancelled revoked rfl
    exact ⟨w', hrun, htrace⟩
  · obtain ⟨jobs, -, htrace⟩ := (hdelete revoked).found
      { id := "cc-1", name := "link", speed := 50 } rfl
    exact ⟨jobs, htrace⟩

/-- So it is not true that a deletion which was cancelled beforehand asks for nothing and fails as
cancelled. -/
theorem not_deleteConnection_cancelled :
    ¬ ∀ (ws : Workspace) (w : World interface Sandbox) (token : String) (id : Identifier),
      ws.heeds = true → parseConnection token = .ok id → w.token.fired = true →
        ∃ w', (ws.deleteConnection Sandbox.remote token none).run.runIn w =
            (some (.error (.unsettled (.timedOut true))), w') ∧
          w'.trace.toList = w.trace.toList := by
  intro h
  obtain ⟨w', hrun, -⟩ := h cancellable revoked "cloud-1/cc-1" link rfl rfl rfl
  have hok : ((cancellable.deleteConnection Sandbox.remote "cloud-1/cc-1" none).run.runIn
      revoked).1 = some (.ok ()) := rfl
  rw [hrun] at hok
  cases hok

end Settle.Cloud.Workspace
