/-
The order in which a resize is configured.

How calls are repeated (`with_retry`) and how jobs are waited for (`with_job_waiter`) is
set up by the caller, and so is whether the resize heeds the token (`with_cancellation`).
The last of these reaches into the wait for jobs that is set at the time, so it matters
whether that is set before or after. Set before, it heeds the token like everything else,
and nothing is asked once the token has fired. Set after, it keeps to what the caller made
it, and a job is looked at for as long as it runs: `StraysIn`. Nothing else differs:
unless the token fires while a job is waited for, all orders do the same, and if it does,
nothing is asked after that job.
-/
import Mathlib.Data.List.Permutation
import Settle.Proofs.Following
import Settle.Proofs.Resize.Cancellation
import Settle.Proofs.Resize.Jobs

set_option autoImplicit false

namespace Settle

variable {I : Interface} {σ ε ρ α β : Type}

/-! ## 1. Orders -/

/-- What can be set about a resize. -/
inductive Setting where
  | retry (retry : Retry)
  | jobWait (jobWait : JobWait)
  | cancellation

namespace Resize

/-- The resize with one thing set. -/
def set (r : Resize) : Setting → Resize
  | .retry retry => r.withRetry retry
  | .jobWait jobWait => r.withJobWait jobWait
  | .cancellation => r.withCancellation

/-- The resize with these things set, one after the other. -/
def configured (r : Resize) (settings : List Setting) : Resize := settings.foldl set r

/-- The resize that heeds the token, with its wait for jobs as the caller made it. -/
def loose (r : Resize) (retry : Retry) (jobWait : JobWait) : Resize :=
  { r with retry, jobWait, heeds := true }

/-- The same resize with a wait for jobs that heeds the token, too. -/
def bound (r : Resize) : Resize := { r with jobWait := r.jobWait.heeding }

/-- **The order decides about the wait for jobs and about nothing else.** -/
theorem configured_of_perm (r : Resize) {retry : Retry} {jobWait : JobWait}
    {settings : List Setting}
    (h : settings.Perm [.retry retry, .jobWait jobWait, .cancellation]) :
    (List.Sublist [.jobWait jobWait, .cancellation] settings ∧
        r.configured settings = (r.loose retry jobWait).bound) ∨
      (List.Sublist [.cancellation, .jobWait jobWait] settings ∧
        r.configured settings = r.loose retry jobWait) := by
  -- There are six orders, and in three of them the cancellation is set last of the two.
  have horder : settings ∈ [
      [.retry retry, .jobWait jobWait, .cancellation],
      [.jobWait jobWait, .retry retry, .cancellation],
      [.jobWait jobWait, .cancellation, .retry retry],
      [.retry retry, .cancellation, .jobWait jobWait],
      [.cancellation, .retry retry, .jobWait jobWait],
      [.cancellation, .jobWait jobWait, .retry retry]] := List.mem_permutations'.2 h
  simp only [List.mem_cons, List.not_mem_nil, or_false] at horder
  rcases horder with rfl | rfl | rfl | rfl | rfl | rfl
  · exact .inl ⟨by simp, rfl⟩
  · exact .inl ⟨by simp, rfl⟩
  · exact .inl ⟨by simp, rfl⟩
  · exact .inr ⟨by simp, rfl⟩
  · exact .inr ⟨by simp, rfl⟩
  · exact .inr ⟨by simp, rfl⟩

variable [RemoteFailure ε] {R : Remote I σ} {resource : Resource I ε ρ} {id : String}
  {payload : ρ} {action : Query I (Except ε Ack)} {r : Resize} {w : World I σ}

/-! ## 2. Heeding the token -/

section Heeding

variable (hr : r.Heeding)
include hr

theorem inspect_heeds (query : Query I (Except ε Reading)) (w : World I σ) :
    (r.inspect R query).run.Heeds R w := by
  unfold inspect
  rw [hr.resize]
  refine Task.heeds_bind (r.retry.call_heeds w) fun reading w' _ => ?_
  split
  · split
    · exact .pure _ w'
    · exact .pure _ w'
  · exact .pure _ w'

theorem await_heeds (job : String → Query I (Except ε JobReport)) (policy : ValidPolicy) (ack : Ack)
    (w : World I σ) : (r.await R job policy ack).run.Heeds R w := by
  cases ack with
  | accepted => exact .pure _ w
  | status status =>
    simp only [await]
    split
    · exact .pure _ w
    · exact .pure _ w
  | job id =>
    exact Task.heeds_bind (r.jobWait.settle_heeds hr.job policy.timeout w) fun _ w' _ => .pure _ w'

theorem act_heeds (phase : Phase) (policy : ValidPolicy) (w : World I σ) :
    (r.act R resource id phase action policy).run.Heeds R w := by
  unfold act during
  rw [hr.resize]
  refine .map ?_
  have hnote (w : World I σ) : (Task.note (.issuing phase) : Task I σ Error Unit).run.Heeds R w :=
    .map (.note _ w)
  refine Task.heeds_bind (hnote w) fun _ w₁ _ => ?_
  refine Task.heeds_bind (r.retry.call_heeds w₁) fun ack w₂ _ => ?_
  refine Task.heeds_bind (r.await_heeds hr resource.job policy ack w₂) fun _ w₃ _ => ?_
  exact .map (Wait.run_heeds _ rfl w₃)

/-- **A resize every part of which heeds the token asks for nothing once it has fired.** -/
theorem run_heeds (resource : Resource I ε ρ) (id : String) (payload : ρ) (w : World I σ) :
    (r.run R resource id payload).run.Heeds R w := by
  have hnote (n : Notice) (w : World I σ) : (Task.note n : Task I σ Error Unit).run.Heeds R w :=
    .map (.note n w)
  have hchange (stopSkipped : Bool) (w : World I σ) :
      (r.change R resource id payload stopSkipped).run.Heeds R w := by
    unfold change
    rw [Task.discard_bind_eq]
    refine Task.heeds_bind (r.act_heeds hr _ _ w) fun _ w₁ _ => ?_
    refine Task.heeds_bind (r.act_heeds hr _ _ w₁) fun _ w₂ _ => ?_
    exact Task.heeds_bind (hnote _ w₂) fun _ w₃ _ => .pure _ w₃
  rw [run_eq]
  refine Task.heeds_bind (.map (r.inspect_heeds hr _ w)) fun current w₁ _ => ?_
  split
  · exact Task.heeds_bind (hnote _ w₁) fun _ w₂ _ => hchange true w₂
  · rw [Task.discard_bind_eq]
    exact Task.heeds_bind (r.act_heeds hr _ _ w₁) fun _ w₂ _ => hchange false w₂

/-- It comes to each of its phases in time. By induction on the phases that are behind. -/
theorem Begins.in_time {phase : Phase} {w₁ : World I σ}
    (h : r.Begins R resource id payload w phase w₁) : ∃ calls, w.LeadsInTime calls w₁ := by
  have hinspected {result : Except Error String} {w₁ : World I σ}
      (hrun : (during .inspecting (r.inspect R (resource.status id))).run.runIn w =
        (some result, w₁)) : ∃ calls, w.LeadsInTime calls w₁ := by
    have hheeds : (during .inspecting (r.inspect R (resource.status id))).run.Heeds R w :=
      .map (r.inspect_heeds hr _ w)
    have hcalls := hheeds.leads_in_time
    rwa [hrun] at hcalls
  have hacted {phase : Phase} {action : Query I (Except ε Ack)} {policy : ValidPolicy}
      {result : Except Error String} {w₁ w₂ : World I σ} (h₁ : ∃ calls, w.LeadsInTime calls w₁)
      (hrun : (r.act R resource id phase action policy).run.runIn w₁ = (some result, w₂)) :
      ∃ calls, w.LeadsInTime calls w₂ := by
    obtain ⟨calls, hcalls⟩ := h₁
    have hheeds : (r.act R resource id phase action policy).run.Heeds R w₁ :=
      r.act_heeds hr phase policy w₁
    obtain ⟨later, hlater⟩ := hheeds.leads_in_time
    rw [hrun] at hlater
    exact ⟨calls ++ later, hcalls.trans hlater⟩
  induction h with
  | stopping hinspect _ => exact hinspected hinspect
  | @skipping current w₁ hinspect _ =>
    obtain ⟨calls, hcalls⟩ := hinspected hinspect
    exact ⟨_, hcalls.trans (.quiet (w₁.leads_note _) (.of_eq rfl rfl))⟩
  | mutating _ hstop ih => exact hacted ih hstop
  | starting _ hmutate ih => exact hacted ih hmutate

/-- So it does to each of its waits for a job. -/
theorem AwaitsJob.in_time {phase : Phase} {policy : ValidPolicy} {job : String} {w₁ : World I σ}
    (h : r.AwaitsJob R resource id payload w phase policy job w₁) :
    ∃ calls, w.LeadsInTime calls w₁ := by
  -- The phase was begun in time, and the call that led to the job heeds the token.
  cases h with
  | @issued action w₀ hbegins hacts hcall =>
    obtain ⟨calls, hcalls⟩ := hbegins.in_time hr
    have hheeds : (r.retry.call r.heeds R action).run.Heeds R (w₀.note (.issuing phase)) := by
      rw [hr.resize]
      exact r.retry.call_heeds _
    obtain ⟨later, hlater⟩ := hheeds.leads_in_time
    rw [hcall] at hlater
    exact ⟨_, (hcalls.trans (.quiet (w₀.leads_note _) (.of_eq rfl rfl))).trans hlater⟩

end Heeding

/-! ## 3. Where the orders differ -/

end Resize

/-- Begun in `w`, both tasks do the same, or the second does not succeed and ends in a world of this
kind. -/
def Task.Agree (t t' : Task I σ ε α) (S : World I σ → Prop) (w : World I σ) : Prop :=
  t.run.runIn w = t'.run.runIn w ∨
    (∀ x, (t'.run.runIn w).1 ≠ some (.ok x)) ∧ S (t'.run.runIn w).2

namespace Task.Agree

variable {t t' : Task I σ ε α} {f f' : α → Task I σ ε β} {S : World I σ → Prop} {w : World I σ}

theorem refl (t : Task I σ ε α) (S : World I σ → Prop) (w : World I σ) : Task.Agree t t S w :=
  .inl rfl

theorem mono {S' : World I σ → Prop} (h : Task.Agree t t' S w) (hS : ∀ w', S w' → S' w') :
    Task.Agree t t' S' w :=
  h.imp_right fun h => ⟨h.1, hS _ h.2⟩

/-- Two tasks agree if their first parts do, and the second parts wherever both have come. -/
theorem bind (h : Task.Agree t t' S w)
    (hf : ∀ x w', t.run.runIn w = (some (.ok x), w') → t'.run.runIn w = (some (.ok x), w') →
      Task.Agree (f x) (f' x) S w') :
    Task.Agree (t >>= f) (t' >>= f') S w := by
  unfold Task.Agree
  rcases h with hsame | ⟨hfails, hS⟩
  · cases hrun : t'.run.runIn w with
    | mk result w' =>
      have hrun' := hsame.trans hrun
      rcases result with _ | e | x
      · rw [Task.runIn_bind_of_none hrun, Task.runIn_bind_of_none hrun']
        exact .inl rfl
      · rw [Task.runIn_bind_of_error hrun, Task.runIn_bind_of_error hrun']
        exact .inl rfl
      · rw [Task.runIn_bind_of_ok hrun, Task.runIn_bind_of_ok hrun']
        exact hf x w' hrun' hrun
  · -- What does not succeed has nothing come after it.
    right
    cases hrun : t'.run.runIn w with
    | mk result w' =>
      rw [hrun] at hfails hS
      rcases result with _ | e | x
      · rw [Task.runIn_bind_of_none hrun]
        exact ⟨nofun, hS⟩
      · rw [Task.runIn_bind_of_error hrun]
        exact ⟨nofun, hS⟩
      · exact absurd rfl (hfails x)

theorem discard_bind {f f' : Unit → Task I σ ε β} (h : Task.Agree t t' S w)
    (hf : ∀ x w', t.run.runIn w = (some (.ok x), w') → t'.run.runIn w = (some (.ok x), w') →
      Task.Agree (f ()) (f' ()) S w') :
    Task.Agree (discard t >>= f) (discard t' >>= f') S w := by
  rw [Task.discard_bind_eq, Task.discard_bind_eq]
  exact h.bind hf

theorem adapt {ε' : Type} {g : ε → ε'} (h : Task.Agree t t' S w) :
    Task.Agree (ExceptT.adapt g t) (ExceptT.adapt g t') S w := by
  have hrun (t : Task I σ ε α) : (ExceptT.adapt g t).run.runIn w =
      ((t.run.runIn w).1.map (Except.mapError g), (t.run.runIn w).2) := Act.runIn_map _ _ _
  unfold Task.Agree
  rw [hrun, hrun]
  rcases h with hsame | ⟨hfails, hS⟩
  · exact .inl (by rw [hsame])
  · refine .inr ⟨fun x hx => ?_, hS⟩
    exact hfails x (Task.mapError_eq_some_ok.1 hx)

end Task.Agree

namespace Resize

variable [RemoteFailure ε] {R : Remote I σ} {resource : Resource I ε ρ} {id : String}
  {payload : ρ} {action : Query I (Except ε Ack)} {r : Resize} {w : World I σ}

/-- A resize that was begun in `w` has strayed: in a world to which it comes as it would if its wait
for jobs heeded the token, it waits for a job, the token fires in the meantime, and nothing is
asked any more but how the job is. -/
structure StraysIn (r : Resize) (R : Remote I σ) (resource : Resource I ε ρ) (id : String)
    (payload : ρ) (w : World I σ) (phase : Phase) (policy : ValidPolicy) (job : String)
    (w₁ ending : World I σ) : Prop where
  awaits : r.AwaitsJob R resource id payload w phase policy job w₁
  awaits_bound : r.bound.AwaitsJob R resource id payload w phase policy job w₁
  fired : ((r.jobWait.run R (resource.job job) policy.timeout).runIn w₁).2.token.fired = true
  looks : ∃ looks : List (resource.job job).Call,
    ending.trace.toList = w₁.trace.toList ++ looks.map Query.Call.exchange

/-- A resize that was begun in `w` and ends in this world has strayed somewhere. -/
def Strays (r : Resize) (R : Remote I σ) (resource : Resource I ε ρ) (id : String) (payload : ρ)
    (w ending : World I σ) : Prop :=
  ∃ phase policy job w₁, r.StraysIn R resource id payload w phase policy job w₁ ending

section Agreement

variable (hheeds : r.heeds = true)
include hheeds

/-- After the token has fired in the wait for a job, the wait for the resource comes to nothing. -/
theorem awaitJob_agree (policy : ValidPolicy) (job : String) (w : World I σ) :
    Task.Agree
      (r.bound.await R resource.job policy (.job job) >>= fun _ =>
        Wait.settle ⟨policy, r.heeds⟩ R .update (resource.status id))
      (r.await R resource.job policy (.job job) >>= fun _ =>
        Wait.settle ⟨policy, r.heeds⟩ R .update (resource.status id))
      (fun ending =>
        ((r.jobWait.run R (resource.job job) policy.timeout).runIn w).2.token.fired = true ∧
          ending.trace = ((r.jobWait.run R (resource.job job) policy.timeout).runIn w).2.trace)
      w := by
  have hsettle (j : JobWait) : (j.settle R (resource.job job) policy.timeout).run.runIn w =
      (((j.run R (resource.job job) policy.timeout).runIn w).1.map Outcome.result,
        ((j.run R (resource.job job) policy.timeout).runIn w).2) := Act.runIn_map _ _ _
  rcases (r.jobWait.run_follows R (resource.job job) policy.timeout w).same with hfired | hsame
  · right
    have hawait : r.await R resource.job policy (.job job) =
        discard (r.jobWait.settle R (resource.job job) policy.timeout) := rfl
    rw [hawait, Task.discard_bind_eq]
    cases hwait : (r.jobWait.run R (resource.job job) policy.timeout).runIn w with
    | mk outcome w₁ =>
      rw [hwait] at hfired
      have hsettled : (r.jobWait.settle R (resource.job job) policy.timeout).run.runIn w =
          (outcome.map Outcome.result, w₁) := by rw [hsettle, hwait]
      rcases outcome with _ | outcome
      · rw [Task.runIn_bind_of_none hsettled]
        exact ⟨nofun, hfired, rfl⟩
      · cases hresult : outcome.result with
        | error e =>
          rw [Option.map_some, hresult] at hsettled
          rw [Task.runIn_bind_of_error hsettled]
          exact ⟨nofun, hfired, rfl⟩
        | ok status =>
          rw [Option.map_some, hresult] at hsettled
          rw [Task.runIn_bind_of_ok hsettled]
          -- The job is done, but the wait for the resource finds that the token has fired.
          have hidles : (Wait.settle ⟨policy, r.heeds⟩ R .update (resource.status id)).run.Idles
              (· = .error (.timedOut true)) := Wait.settle_idles _ hheeds
          obtain ⟨result, w₂, hidle, -, htrace, -, rfl⟩ := hidles w₁ hfired
          rw [hidle]
          exact ⟨nofun, hfired, htrace⟩
  · refine Task.Agree.discard_bind (.inl ?_) fun _ w' _ _ => .refl _ _ w'
    rw [hsettle, hsettle]
    exact congrArg (fun run => (run.1.map Outcome.result, run.2)) hsame.symm

/-- **A phase goes as it would with a wait for jobs that heeds the token, or the resize strays.** -/
theorem act_agree {phase : Phase} {policy : ValidPolicy} {w₀ : World I σ}
    (hbegins : r.Begins R resource id payload w phase w₀)
    (hbound : r.bound.Begins R resource id payload w phase w₀)
    (hacts : r.Acts resource id payload phase action policy) :
    Task.Agree (r.bound.act R resource id phase action policy)
      (r.act R resource id phase action policy) (r.Strays R resource id payload w) w₀ := by
  have hacts' : r.bound.Acts resource id payload phase action policy := by
    cases hacts with
    | stopping => exact .stopping
    | mutating => exact .mutating
    | starting => exact .starting
  refine .adapt (.bind (.refl _ _ w₀) fun _ w₁ hnote _ => ?_)
  refine .bind (.refl _ _ w₁) fun ack w₂ hcall _ => ?_
  rw [Task.runIn_note] at hnote
  cases hnote
  cases ack with
  | accepted => exact .refl _ _ w₂
  | status status => exact .refl _ _ w₂
  | job job =>
    refine (awaitJob_agree hheeds policy job w₂).mono ?_
    rintro ending ⟨hfired, hsilent⟩
    obtain ⟨_, hlead, looks, rfl, -⟩ := r.jobWait.run_spec R (resource.job job) policy.timeout w₂
    have hlooks : ending.trace.toList = w₂.trace.toList ++ looks.map Query.Call.exchange := by
      rw [hsilent, hlead.trace_eq]
    exact ⟨phase, policy, job, w₂, .issued hbegins hacts hcall, .issued hbound hacts' hcall,
      hfired, looks, hlooks⟩

/-- What comes after the stop goes as it would, or the resize strays in it. -/
theorem change_agree {stopSkipped : Bool} {w₀ : World I σ}
    (hbegins : r.Begins R resource id payload w .mutating w₀)
    (hbound : r.bound.Begins R resource id payload w .mutating w₀) :
    Task.Agree (r.bound.change R resource id payload stopSkipped)
      (r.change R resource id payload stopSkipped) (r.Strays R resource id payload w) w₀ := by
  refine .discard_bind (act_agree hheeds hbegins hbound .mutating)
    fun landed w₁ hmutate hmutate' => ?_
  refine .bind (act_agree hheeds (.starting hbegins hmutate') (.starting hbound hmutate) .starting)
    fun _ w₂ _ _ => ?_
  exact .refl _ _ w₂

/-- **A resize goes as it would with a wait for jobs that heeds the token, or it strays.** -/
theorem run_agree (R : Remote I σ) (resource : Resource I ε ρ) (id : String) (payload : ρ)
    (w : World I σ) :
    Task.Agree (r.bound.run R resource id payload) (r.run R resource id payload)
      (r.Strays R resource id payload w) w := by
  rw [run_eq, run_eq]
  refine .bind (.refl _ _ w) fun current w₁ hinspect _ => ?_
  by_cases hstopped : current ∈ r.stop.target
  · have hstopped' : current ∈ r.bound.stop.target := hstopped
    rw [if_pos hstopped, if_pos hstopped']
    refine .bind (.refl _ _ w₁) fun _ w₂ hnote _ => ?_
    rw [Task.runIn_note] at hnote
    cases hnote
    exact change_agree hheeds (.skipping hinspect hstopped) (.skipping hinspect hstopped')
  · have hrunning : current ∉ r.bound.stop.target := hstopped
    rw [if_neg hstopped, if_neg hrunning]
    have hbegins : r.Begins R resource id payload w .stopping w₁ := .stopping hinspect hstopped
    have hbound : r.bound.Begins R resource id payload w .stopping w₁ := .stopping hinspect hrunning
    refine .discard_bind (act_agree hheeds hbegins hbound .stopping) fun _ w₂ hstop hstop' => ?_
    exact change_agree hheeds (.mutating hbegins hstop') (.mutating hbound hstop)

end Agreement

/-! ## 4. All orders -/

/-- What the order in which a resize is configured means for its run from `w`. -/
structure OrdersCompared (r : Resize) (retry : Retry) (jobWait : JobWait) (R : Remote I σ)
    (resource : Resource I ε ρ) (id : String) (payload : ρ) (w : World I σ) : Prop where
  /-- All orders in which the wait for jobs is set before the cancellation give one resize, and all
  others give one, too. -/
  orders : ∀ settings : List Setting,
    settings.Perm [.retry retry, .jobWait jobWait, .cancellation] →
      (List.Sublist [.jobWait jobWait, .cancellation] settings ∧
          r.configured settings = (r.loose retry jobWait).bound) ∨
        (List.Sublist [.cancellation, .jobWait jobWait] settings ∧
          r.configured settings = r.loose retry jobWait)
  /-- The first one asks for nothing once the token has fired. -/
  heeds : ((r.loose retry jobWait).bound.run R resource id payload).run.Heeds R w
  in_time : ∃ calls, w.LeadsInTime calls
    (((r.loose retry jobWait).bound.run R resource id payload).run.runIn w).2
  /-- The second one does the same, or it does not succeed: it comes to a job in time, the token
  fires while it waits for the job, and it asks for nothing but the job from then on. -/
  strays : ((r.loose retry jobWait).bound.run R resource id payload).run.runIn w =
      ((r.loose retry jobWait).run R resource id payload).run.runIn w ∨
    (∀ report, (((r.loose retry jobWait).run R resource id payload).run.runIn w).1 ≠
      some (.ok report)) ∧
    ∃ phase policy job w₁ calls, w.LeadsInTime calls w₁ ∧
      (r.loose retry jobWait).StraysIn R resource id payload w phase policy job w₁
        (((r.loose retry jobWait).run R resource id payload).run.runIn w).2

/-- **The order in which a resize is configured matters only to a wait for a job in which the token
fires.** -/
theorem orders_compared (r : Resize) (retry : Retry) (jobWait : JobWait) (R : Remote I σ)
    (resource : Resource I ε ρ) (id : String) (payload : ρ) (w : World I σ) :
    r.OrdersCompared retry jobWait R resource id payload w := by
  have hbound : (r.loose retry jobWait).bound.Heeding := ⟨rfl, rfl⟩
  have hheeds := (r.loose retry jobWait).bound.run_heeds (R := R) hbound resource id payload w
  refine ⟨fun settings => r.configured_of_perm, hheeds, hheeds.leads_in_time, ?_⟩
  rcases (r.loose retry jobWait).run_agree rfl R resource id payload w with
    hsame | ⟨hfails, hstrays⟩
  · exact .inl hsame
  · obtain ⟨phase, policy, job, w₁, hstrays⟩ := hstrays
    obtain ⟨calls, hcalls⟩ := hstrays.awaits_bound.in_time hbound
    exact .inr ⟨hfails, phase, policy, job, w₁, calls, hcalls, hstrays⟩

/-! ## 5. A job that is looked at too late -/

/-- So it is not true that nothing is asked once the token has fired, whatever the order: the
database is cancelled while it waits for the job of its stop, and looks at the job again. -/
theorem not_every_order_in_time :
    ¬ ∀ settings : List Setting,
      settings.Perm [.retry ⟨1, 5⟩, .jobWait ⟨10, 0, 5, false⟩, .cancellation] →
        ∃ calls, (databaseWorld.armed 15).LeadsInTime calls
          (((databaseResize.configured settings).run Rehearsal.remote Rehearsal.resource "db"
            4).run.runIn (databaseWorld.armed 15)).2 := by
  intro h
  obtain ⟨calls, hcalls⟩ := h [.retry ⟨1, 5⟩, .cancellation, .jobWait ⟨10, 0, 5, false⟩]
    (.cons _ (.swap _ _ _))
  have htimes : calls.map (·.time) = [0, 2, 10, 21] := by
    have htrace := congrArg (List.map (·.time)) hcalls.leads.trace_eq
    have hlooked : ((((databaseResize.configured
        [.retry ⟨1, 5⟩, .cancellation, .jobWait ⟨10, 0, 5, false⟩]).run Rehearsal.remote
          Rehearsal.resource "db" 4).run.runIn (databaseWorld.armed 15)).2.trace.toList.map
            (·.time)) = [0, 2, 10, 21] := by decide +kernel
    exact htrace.symm.trans hlooked
  -- The token is due at 15, and the job is looked at once more at 21.
  obtain ⟨e, he, htime⟩ : ∃ e ∈ calls, e.time = 21 := by
    rw [← List.mem_map, htimes]
    decide
  have hlate := hcalls.due 15 rfl e he
  rw [htime] at hlate
  exact absurd hlate (by decide)

end Resize

end Settle
