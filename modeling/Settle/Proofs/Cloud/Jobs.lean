/-
The jobs of a workspace.

Whoever starts a job waits for it in the same way: a caller who asks for one, the three
changes to a cloud connection, and the phases of a resize. The wait is one for an action
everywhere, so a job that disappears has failed, also if it was to delete something.
`EndsAsJob` says that an operation ends as the wait for its job does, and `jobs_awaited`
that all of them do.
-/
import Settle.Proofs.Cloud.Connections
import Settle.Proofs.Resize.Jobs

set_option autoImplicit false

namespace Settle.Cloud.Workspace

variable {σ α : Type}

/-! ## 1. Operations that end with a job -/

/-- The wait for a job in a workspace. -/
def awaitJob (ws : Workspace) (R : Remote interface σ) (job : String) (timeout : Option Nat) :
    Act interface σ Outcome :=
  ws.jobWait.run R (query (.getJob job)) (ws.config.timeout timeout)

/-- The operation, begun in `w`, ends as the wait for the job does that begins in `w₁`: with the
value if the job completes, and with the error of the wait otherwise. -/
structure EndsAsJob (ws : Workspace) (R : Remote interface σ) (job : String) (timeout : Option Nat)
    (w₁ : World interface σ) (op : Operate σ α) (value : α) (w : World interface σ) : Prop where
  ends : ∀ outcome w₂, (ws.awaitJob R job timeout).runIn w₁ = (some outcome, w₂) →
    op.run.runIn w = (some ((outcome.result.map fun _ => value).mapError .unsettled), w₂)
  vanished : 1 ≤ (ws.jobWait.policy (ws.config.timeout timeout)).tick → ∀ n e,
    ws.jobWait.HeardAt R (query (.getJob job)) (ws.config.timeout timeout) w₁ n (.error e) →
    RemoteFailure.classify e = .absent →
      ∃ w₂, op.run.runIn w =
        (some (.error (.unsettled (.notFound ("job not found: " ++ RemoteFailure.message e)))), w₂)

variable {ws : Workspace} {R : Remote interface σ} {job : String} {timeout : Option Nat}
  {w w₁ w₂ : World interface σ} {op : Operate σ α} {value : α}

/-- An operation ends as its job does if it ends as every wait for it does. -/
theorem EndsAsJob.of_ends
    (h : ∀ outcome w₂, (ws.awaitJob R job timeout).runIn w₁ = (some outcome, w₂) →
      op.run.runIn w = (some ((outcome.result.map fun _ => value).mapError .unsettled), w₂)) :
    EndsAsJob ws R job timeout w₁ op value w := by
  refine ⟨h, fun htick n e hheard habsent => ?_⟩
  obtain ⟨w₂, hrun⟩ := JobWait.run_of_absent htick hheard habsent
  exact ⟨w₂, h _ w₂ hrun⟩

theorem runIn_waitJob {outcome : Outcome}
    (h : (ws.awaitJob R job timeout).runIn w = (some outcome, w₂)) :
    (ws.waitJob R job timeout).run.runIn w = (some (outcome.result.mapError .unsettled), w₂) :=
  Act.runIn_map_of_some (Act.runIn_map_of_some h Outcome.result)
    (Except.mapError OperationError.unsettled)

/-- The status that a wait for a job gives is that of its completion. -/
theorem waitJob_endsAsJob (w : World interface σ) :
    EndsAsJob ws R job timeout w (ws.waitJob R job timeout) "completed" w := by
  refine .of_ends fun outcome w₂ hrun => ?_
  rw [runIn_waitJob hrun]
  rcases outcome with status | ⟨reason, fault, kind⟩ | cause
  · have hcompleted : status = "completed" := JobWait.eq_completed_of_converged hrun
    rw [hcompleted]
    rfl
  · cases kind <;> rfl
  · rfl

theorem follow_endsAsJob {handle : Handle} (hjob : handle.job = some job)
    (w : World interface σ) :
    EndsAsJob ws R job timeout w (ws.follow R handle timeout) () w := by
  refine .of_ends fun outcome w₂ hrun => ?_
  unfold follow
  rw [hjob]
  refine (Task.runIn_discard (runIn_waitJob hrun)).trans ?_
  cases outcome.result <;> rfl

/-- An operation that does nothing but follow its handle in the end ends as the job does. -/
theorem EndsAsJob.of_follow (handle : Handle) (hjob : handle.job = some job)
    (h : op.run.runIn w =
      (ws.follow R handle timeout >>= fun _ => (pure value : Operate σ α)).run.runIn w₁) :
    EndsAsJob ws R job timeout w₁ op value w := by
  refine .of_ends fun outcome w₂ hrun => h.trans ?_
  have hfollow := (follow_endsAsJob hjob w₁).ends outcome w₂ hrun
  cases hresult : outcome.result with
  | ok status =>
    rw [hresult] at hfollow
    exact Task.runIn_bind_of_ok hfollow _
  | error e =>
    rw [hresult] at hfollow
    exact Task.runIn_bind_of_error hfollow _

/-! ## 2. The changes to a connection -/

variable {id : Identifier}

theorem createConnection_endsAsJob {spec : ConnectionSpec} {response : ConnectionResponse}
    (hrequest : (ws.insist R (.createConnection spec)).run.runIn w = (some (.ok response), w₁))
    (hid : Identifier.ofSegments [ws.cloudInstance, response.connection] = .ok id)
    (hjob : response.job? = some job) :
    EndsAsJob ws R job timeout w₁ (ws.createConnection R spec timeout) id w := by
  refine .of_follow (response.handle .create) hjob ?_
  refine (Task.runIn_bind_of_ok hrequest _).trans ?_
  rw [hid]
  rfl

theorem updateConnection_endsAsJob {token : String} {update : ConnectionUpdate}
    {response : ConnectionResponse} (hid : parseConnection token = .ok id)
    (hrequest : (ws.insist R (.updateConnection id.leaf update)).run.runIn w =
      (some (.ok response), w₁))
    (hjob : response.job? = some job) :
    EndsAsJob ws R job timeout w₁ (ws.updateConnection R token update timeout) id w := by
  refine .of_follow (response.handle .update) hjob ?_
  unfold updateConnection
  rw [hid, Task.lift_ok_bind]
  exact Task.runIn_bind_of_ok hrequest _

theorem deleteConnection_endsAsJob {token : String} {connection : Connection}
    (hid : parseConnection token = .ok id) (hlookup : (lookedUp R id w).result = .ok connection)
    (hrequest : (requested R id w).result = .ok (some job)) :
    EndsAsJob ws R job timeout (afterRequest R id w) (ws.deleteConnection R token timeout) ()
      w := by
  refine .of_ends fun outcome w₂ hrun => ?_
  rw [runIn_deleteConnection R id w ws hid, hlookup]
  simp only [hrequest]
  exact (follow_endsAsJob rfl _).ends outcome w₂ hrun

end Settle.Cloud.Workspace

namespace Settle.Cloud

/-! ## 3. All waits for jobs -/

/-- What comes of a wait for a job, wherever somebody waits for one. -/
structure JobsAwaited (I : Interface) (σ ε ρ τ : Type) [RemoteFailure ε] : Prop where
  waits : ∀ (j : JobWait) (R : Remote I σ) (job : Query I (Except ε JobReport)) (timeout : Nat)
    (w : World I σ), j.Awaited R job timeout w
  /-- A phase of a resize that goes on as a job. -/
  resizes : ∀ (r : Resize) (R : Remote I σ) (resource : Resource I ε ρ) (id : String) (payload : ρ)
    (w : World I σ) (phase : Phase) (policy : ValidPolicy) (job : String) (w₁ : World I σ),
    r.AwaitsJob R resource id payload w phase policy job w₁ →
      r.EndsWithJob R resource id payload w phase policy job w₁
  /-- A job that a caller asks about. -/
  asked : ∀ (ws : Workspace) (R : Remote interface τ) (job : String) (timeout : Option Nat)
    (w : World interface τ),
    ws.EndsAsJob R job timeout w (ws.waitJob R job timeout) "completed" w
  created : ∀ (ws : Workspace) (R : Remote interface τ) (spec : ConnectionSpec)
    (timeout : Option Nat) (w w₁ : World interface τ) (response : ConnectionResponse)
    (job : String) (id : Identifier),
    (ws.insist R (.createConnection spec)).run.runIn w = (some (.ok response), w₁) →
    Identifier.ofSegments [ws.cloudInstance, response.connection] = .ok id →
    response.job? = some job →
      ws.EndsAsJob R job timeout w₁ (ws.createConnection R spec timeout) id w
  updated : ∀ (ws : Workspace) (R : Remote interface τ) (token : String)
    (update : ConnectionUpdate) (timeout : Option Nat) (w w₁ : World interface τ)
    (response : ConnectionResponse) (job : String) (id : Identifier),
    Workspace.parseConnection token = .ok id →
    (ws.insist R (.updateConnection id.leaf update)).run.runIn w = (some (.ok response), w₁) →
    response.job? = some job →
      ws.EndsAsJob R job timeout w₁ (ws.updateConnection R token update timeout) id w
  deleted : ∀ (ws : Workspace) (R : Remote interface τ) (token : String) (timeout : Option Nat)
    (w : World interface τ) (connection : Connection) (job : String) (id : Identifier),
    Workspace.parseConnection token = .ok id →
    (Workspace.lookedUp R id w).result = .ok connection →
    (Workspace.requested R id w).result = .ok (some job) →
      ws.EndsAsJob R job timeout (Workspace.afterRequest R id w)
        (ws.deleteConnection R token timeout) () w

/-- **Every wait for a job is a wait for an action, and whoever waits for a job ends as the wait
does.** In particular a job that disappears has failed, whatever it was to do. -/
theorem jobs_awaited (I : Interface) (σ ε ρ τ : Type) [RemoteFailure ε] :
    JobsAwaited I σ ε ρ τ where
  waits := JobWait.awaited
  resizes _ _ _ _ _ _ _ _ _ _ := Resize.AwaitsJob.endsWithJob
  asked _ _ _ _ := Workspace.waitJob_endsAsJob
  created _ _ _ _ _ _ _ _ _ := Workspace.createConnection_endsAsJob
  updated _ _ _ _ _ _ _ _ _ _ := Workspace.updateConnection_endsAsJob
  deleted _ _ _ _ _ _ _ _ := Workspace.deleteConnection_endsAsJob

/-- The connection is there, and the job that deletes it is not. -/
def forgetful : World interface Sandbox where
  remote :=
    { connections := [("cc-1", [.ok { id := "cc-1", name := "link", speed := 50 }])]
      deleteJobs := [("cc-1", [some "job-1"])] }

example : ((({ cloudInstance := "cloud-1" } : Workspace).deleteConnection Sandbox.remote
    "cloud-1/cc-1" none).run.runIn forgetful).1 =
      some (.error (.unsettled (.notFound
        "job not found: pcloudCloudinstancesJobsGet failed: job-1 not found"))) := by
  rfl

end Settle.Cloud
