/-
The jobs of a resize.

Each action of a resize may go on as a job. The job is waited for before the resource is
looked at, with as much time as the wait that follows has. `Begins` says in which world a
resize begins a phase if it gets that far, and an error there is how the whole resize ends. So
a job that fails or vanishes ends the resize, as an error of the phase that it belongs to.
-/
import Settle.Proofs.Jobs.Awaited
import Settle.Proofs.Resize.Order
import Settle.Rehearsal

set_option autoImplicit false

namespace Settle.Resize

variable {I : Interface} {σ ε ρ : Type} [RemoteFailure ε]

/-! ## 1. How far a resize has got -/

section Phases

variable (r : Resize) (R : Remote I σ) (resource : Resource I ε ρ) (id : String) (payload : ρ)
  (w : World I σ)

/-- What each phase after the inspection does: its action, and the policy under which its effect
is waited for. -/
inductive Acts : Phase → Query I (Except ε Ack) → ValidPolicy → Prop
  | stopping : Acts .stopping (resource.stop id) r.stop
  | mutating : Acts .mutating (resource.update id payload) r.mutate
  | starting : Acts .starting (resource.start id) r.start

/-- A resize that begins in `w` begins one of its actions in another world. -/
inductive Begins : Phase → World I σ → Prop
  | stopping {current : String} {w₁ : World I σ}
    (hinspect : (during .inspecting (r.inspect R (resource.status id))).run.runIn w =
      (some (.ok current), w₁)) (hrunning : current ∉ r.stop.target) : Begins .stopping w₁
  | skipping {current : String} {w₁ : World I σ}
    (hinspect : (during .inspecting (r.inspect R (resource.status id))).run.runIn w =
      (some (.ok current), w₁)) (hstopped : current ∈ r.stop.target) :
    Begins .mutating (w₁.note (.alreadyStopped current))
  | mutating {stopped : String} {w₁ w₂ : World I σ} (hbegins : Begins .stopping w₁)
    (hstop : (r.act R resource id .stopping (resource.stop id) r.stop).run.runIn w₁ =
      (some (.ok stopped), w₂)) : Begins .mutating w₂
  | starting {landed : String} {w₁ w₂ : World I σ} (hbegins : Begins .mutating w₁)
    (hmutate : (r.act R resource id .mutating (resource.update id payload) r.mutate).run.runIn w₁ =
      (some (.ok landed), w₂)) : Begins .starting w₂

/-- What is left of a resize that begins a phase, given whether it has skipped the stop. -/
def remaining (stopSkipped : Bool) : Phase → Task I σ Error ResizeReport
  | .inspecting => r.run R resource id payload
  | .stopping => do
    discard (r.act R resource id .stopping (resource.stop id) r.stop)
    r.change R resource id payload false
  | .mutating => r.change R resource id payload stopSkipped
  | .starting => do
    let finalStatus ← r.act R resource id .starting (resource.start id) r.start
    Task.note .resized
    return { stopSkipped, finalStatus }

variable {r R resource id payload w} {phase : Phase} {w₁ w₂ : World I σ}

/-- By induction on the phases that are behind. -/
theorem Begins.run_eq (h : r.Begins R resource id payload w phase w₁) :
    ∃ stopSkipped, (r.run R resource id payload).run.runIn w =
      (r.remaining R resource id payload stopSkipped phase).run.runIn w₁ := by
  induction h with
  | stopping hinspect hrunning =>
    refine ⟨false, ?_⟩
    rw [Resize.run_eq, Task.runIn_bind_of_ok hinspect, if_neg hrunning]
    rfl
  | skipping hinspect hstopped =>
    refine ⟨true, ?_⟩
    rw [Resize.run_eq, Task.runIn_bind_of_ok hinspect, if_pos hstopped]
    exact Task.runIn_bind_of_ok (Task.runIn_note _ _) _
  | mutating _ hstop ih =>
    obtain ⟨_, hrun⟩ := ih
    refine ⟨false, hrun.trans ?_⟩
    exact Task.runIn_bind_of_ok (Task.runIn_discard hstop) _
  | starting _ hmutate ih =>
    obtain ⟨stopSkipped, hrun⟩ := ih
    refine ⟨stopSkipped, hrun.trans ?_⟩
    exact Task.runIn_bind_of_ok (Task.runIn_discard hmutate) _

/-- **An error in a phase is how the resize ends.** -/
theorem Begins.run_of_error {action : Query I (Except ε Ack)} {policy : ValidPolicy} {e : Error}
    (h : r.Begins R resource id payload w phase w₁)
    (hacts : r.Acts resource id payload phase action policy)
    (herror : (r.act R resource id phase action policy).run.runIn w₁ = (some (.error e), w₂)) :
    (r.run R resource id payload).run.runIn w = (some (.error e), w₂) := by
  obtain ⟨stopSkipped, hrun⟩ := h.run_eq
  rw [hrun]
  cases hacts with
  | stopping => exact Task.runIn_bind_of_error (Task.runIn_discard herror) _
  | mutating => exact Task.runIn_bind_of_error (Task.runIn_discard herror) _
  | starting => exact Task.runIn_bind_of_error herror _

end Phases

/-! ## 2. A phase that goes on as a job -/

section Jobs

variable {r : Resize} {R : Remote I σ} {resource : Resource I ε ρ} {id : String} {payload : ρ}
  {w : World I σ} {phase : Phase} {policy : ValidPolicy} {job : String} {w₁ w₂ : World I σ}

/-- A resize that begins in `w` has issued the action of a phase, and now waits for a job. -/
inductive AwaitsJob (r : Resize) (R : Remote I σ) (resource : Resource I ε ρ) (id : String)
    (payload : ρ) (w : World I σ) (phase : Phase) (policy : ValidPolicy) (job : String)
    (w₁ : World I σ) : Prop
  | issued {action : Query I (Except ε Ack)} {w₀ : World I σ}
    (hbegins : r.Begins R resource id payload w phase w₀)
    (hacts : r.Acts resource id payload phase action policy)
    (hcall : (r.retry.call r.heeds R action).run.runIn (w₀.note (.issuing phase)) =
      (some (.ok (.job job)), w₁))

/-- **If the wait for a job does not converge, its error ends the resize**, as an error of the
phase. -/
theorem AwaitsJob.run_of_error {outcome : Outcome} {e : Error}
    (h : r.AwaitsJob R resource id payload w phase policy job w₁)
    (hjob : (r.jobWait.run R (resource.job job) policy.timeout).runIn w₁ = (some outcome, w₂))
    (hresult : outcome.result = .error e) :
    (r.run R resource id payload).run.runIn w = (some (.error (.inPhase phase e)), w₂) := by
  cases h with
  | @issued action w₀ hbegins hacts hcall =>
    refine hbegins.run_of_error hacts ?_
    have hsettle : (r.jobWait.settle R (resource.job job) policy.timeout).run.runIn w₁ =
        (some (.error e), w₂) := by
      rw [← hresult]
      exact Act.runIn_map_of_some hjob Outcome.result
    have hawait : (r.await R resource.job policy (.job job)).run.runIn w₁ =
        (some (.error e), w₂) := Task.runIn_discard hsettle
    have hissued : (do
        Task.note (.issuing phase)
        let ack ← r.retry.call r.heeds R action
        r.await R resource.job policy ack
        Wait.settle ⟨policy, r.heeds⟩ R .update (resource.status id) :
          Task I σ Error String).run.runIn w₀ = (some (.error e), w₂) := by
      rw [Task.runIn_bind_of_ok (Task.runIn_note _ _), Task.runIn_bind_of_ok hcall]
      exact Task.runIn_bind_of_error hawait _
    exact Act.runIn_map_of_some hissued (Except.mapError (Error.inPhase phase))

/-- A resize that waits for a job ends with it unless the job completes: with the error of the wait,
as an error of the phase. -/
structure EndsWithJob (r : Resize) (R : Remote I σ) (resource : Resource I ε ρ) (id : String)
    (payload : ρ) (w : World I σ) (phase : Phase) (policy : ValidPolicy) (job : String)
    (w₁ : World I σ) : Prop where
  fails : ∀ outcome w₂ e,
    (r.jobWait.run R (resource.job job) policy.timeout).runIn w₁ = (some outcome, w₂) →
      outcome.result = .error e →
        (r.run R resource id payload).run.runIn w = (some (.error (.inPhase phase e)), w₂)
  vanished : 1 ≤ (r.jobWait.policy policy.timeout).tick → ∀ n e,
    r.jobWait.HeardAt R (resource.job job) policy.timeout w₁ n (.error e) →
    RemoteFailure.classify e = .absent →
      ∃ w₂, (r.run R resource id payload).run.runIn w =
        (some (.error (.inPhase phase (.notFound ("job not found: " ++ RemoteFailure.message e)))),
          w₂)

theorem AwaitsJob.endsWithJob (h : r.AwaitsJob R resource id payload w phase policy job w₁) :
    r.EndsWithJob R resource id payload w phase policy job w₁ where
  fails _ _ _ := h.run_of_error
  vanished htick n e hheard habsent := by
    obtain ⟨w₂, hrun⟩ := JobWait.run_of_absent htick hheard habsent
    exact ⟨w₂, h.run_of_error hrun rfl⟩

end Jobs

/-- A database that is stopped goes on to grow as a job that nobody keeps. -/
def growingDatabase : World Rehearsal.interface Rehearsal where
  remote :=
    { readings := [{ response := .ok (.of "stopped") }]
      updates := some [{ response := .ok (.job "grow-1") }] }

example :
    let stopped : ValidPolicy := ⟨{ timeout := 60000, target := .ofList ["stopped"] }, by decide⟩
    let running : ValidPolicy := ⟨{ timeout := 60000, target := .ofList ["running"] }, by decide⟩
    ((({ stop := stopped, mutate := stopped, start := running } : Resize).run Rehearsal.remote
        Rehearsal.resource "db" 4).run.runIn growingDatabase).1 =
      some (.error (.inPhase .mutating (.notFound "job not found: job:grow-1 not found"))) := by
  decide +kernel

end Settle.Resize
