/-
How long a resize takes.

Every part of a resize ends: a call when its answer arrives, a retry when it has no
repetitions left, and a wait by its deadline. So the resize ends, and it takes no longer
than its parts together. A phase has one wait for the resource, and one for the job if
its action goes on as one: `Leg.waits` counts them.

The calls are those of an orderly itinerary, as always. What is new is how much time
each leg of it takes, and this goes from leg to leg as the calls themselves do.
-/
import Settle.Proofs.Elapsed
import Settle.Proofs.Resize.Cancellation

set_option autoImplicit false

namespace Settle

variable {I : Interface} {σ ε ρ : Type}

namespace Resize

variable {resource : Resource I ε ρ} {id : String} {action : Query I (Except ε Ack)} {payload : ρ}

/-! ## 1. Budgets -/

/-- Whether a call was acknowledged with a job. -/
def acknowledgesJob : Except ε Ack → Bool
  | .ok (.job _) => true
  | _ => false

namespace Leg

/-- The waits of a leg: one for the resource, and one for the job if there is any. -/
def waits (leg : Leg resource id action) : Nat :=
  if leg.actions.any (fun c => acknowledgesJob c.result) then 2 else 1

theorem waits_le_two (leg : Leg resource id action) : leg.waits ≤ 2 := by
  unfold waits
  split <;> omega

theorem one_le_waits (leg : Leg resource id action) : 1 ≤ leg.waits := by
  unfold waits
  split <;> omega

/-- Without a job there is one wait, -/
theorem waits_eq_one {leg : Leg resource id action}
    (h : ∀ c ∈ leg.actions, ∀ job, c.result ≠ .ok (.job job)) : leg.waits = 1 := by
  unfold waits
  rw [if_neg]
  rw [List.any_eq_true]
  rintro ⟨c, hc, hjob⟩
  unfold acknowledgesJob at hjob
  split at hjob
  · exact h c hc _ ‹_›
  · cases hjob

/-- and with one there are two. -/
theorem waits_eq_two {leg : Leg resource id action} {job : String}
    (h : EndsWith leg.actions (.ok (.job job))) : leg.waits = 2 := by
  obtain ⟨c, hc, hresult⟩ := h
  unfold waits
  rw [if_pos]
  rw [List.any_eq_true]
  exact ⟨c, List.mem_of_getLast? hc, by rw [hresult]; rfl⟩

/-- The time that a leg may take: the answers to its action, the pauses between the attempts, and
its waits. -/
def budget (leg : Leg resource id action) (retry : Retry) (p : ValidPolicy) : Nat :=
  delays (leg.actions.map Query.Call.exchange) + retry.retries * retry.delay +
    leg.waits * p.timeout

end Leg

/-- The waits that an acknowledgement asks for before the resource is looked at. -/
def Ack.waits : Ack → Nat
  | .job _ => 1
  | _ => 0

/-- A leg whose action is acknowledged is in its budget with the waits that the acknowledgement asks
for and one for the resource. -/
theorem Leg.le_budget {leg : Leg resource id action} {retry : Retry} {p : ValidPolicy} {ack : Ack}
    (hack : EndsWith leg.actions (.ok ack)) {called held looked : Nat}
    (hcalled : called ≤ delays (leg.actions.map Query.Call.exchange) + retry.retries * retry.delay)
    (hheld : held ≤ Ack.waits ack * p.timeout) (hlooked : looked ≤ p.timeout) :
    called + (held + looked) ≤ leg.budget retry p := by
  have hwaits : Ack.waits ack + 1 ≤ leg.waits := by
    cases ack with
    | job job => exact Nat.le_of_eq (waits_eq_two hack).symm
    | accepted => exact leg.one_le_waits
    | status status => exact leg.one_le_waits
  have htimeouts := Nat.mul_le_mul_right p.timeout hwaits
  rw [Nat.succ_mul] at htimeouts
  unfold budget
  omega

/-! ## 2. The parts of a resize -/

variable [RemoteFailure ε] {R : Remote I σ} {r : Resize}

/-- An inspection takes its answers and the pauses between them. -/
theorem inspect_takes (r : Resize) (query : Query I (Except ε Reading)) :
    Task.Takes (r.inspect R query) fun calls time _ =>
      time ≤ delays calls + r.retry.retries * r.retry.delay := by
  unfold inspect
  refine .bind (r.retry.call_takes r.heeds) (fun _ _ htime => htime) ?_
  rintro calls time ⟨_ | status, fault⟩ htime
  · refine .throw ?_
    rwa [List.append_nil, Nat.add_zero]
  · simp only
    split
    · refine .throw ?_
      rwa [List.append_nil, Nat.add_zero]
    · refine .pure ?_
      rwa [List.append_nil, Nat.add_zero]

/-- What an acknowledgement asks for takes no longer than its waits. -/
theorem await_takes (hjob : 1 ≤ max r.jobWait.pollInterval r.jobWait.minPollInterval)
    (job : String → Query I (Except ε JobReport)) (p : ValidPolicy) (ack : Ack) :
    Task.Takes (r.await R job p ack) fun _ time _ => time ≤ Ack.waits ack * p.timeout := by
  cases ack with
  | accepted => exact .pure (Nat.zero_le _)
  | status status =>
    simp only [await]
    split
    · exact .throw (Nat.zero_le _)
    · exact .pure (Nat.zero_le _)
  | job id =>
    have hwait := r.jobWait.settle_takes (R := R) hjob (Policy.timeout_pos p.valid) (job id)
    refine .map (hwait.mono fun _ time _ htime => ?_)
    exact Nat.le_trans htime (Nat.le_of_eq (Nat.one_mul _).symm)

/-- **A phase makes the calls of an orderly leg and takes no longer than its budget.** -/
theorem act_takes (hjob : 1 ≤ max r.jobWait.pollInterval r.jobWait.minPollInterval)
    (phase : Phase) {p : ValidPolicy} (htick : 1 ≤ p.tick) :
    Task.Takes (r.act R resource id phase action p) fun calls time o =>
      ∃ leg : Leg resource id action, calls = leg.exchanges ∧
        leg.Orderly r.retry.maxAttempts p ∧ time ≤ leg.budget r.retry p ∧
        ∀ status, o = some status → leg.Reaches p status := by
  unfold act during
  refine .adapt (.note_bind (.bind
    ((r.retry.call_takes r.heeds).and_yields (r.retry.call_spec r.heeds)) ?_ ?_))
  · rintro _ time ⟨htime, actions, rfl, htries, -⟩
    refine ⟨⟨actions, [], []⟩, Leg.exchanges_tried.symm, .tried htries, ?_, fun _ h => by cases h⟩
    exact Nat.le_trans htime (Nat.le_add_right _ _)
  rintro _ time ack ⟨htime, actions, rfl, htries, hends⟩
  have hack := hends ack rfl
  refine .bind ((r.await_takes hjob resource.job p ack).and_yields (r.await_spec id p hack)) ?_ ?_
  · -- The acknowledgement is not cleared, so there is no wait for the resource.
    rintro _ more ⟨hmore, jobs, rfl, hjobs, -⟩
    refine ⟨⟨actions, jobs, []⟩, Leg.exchanges_unlooked.symm, .unlooked htries hjobs, ?_,
      fun _ h => by cases h⟩
    have hlooked : 0 ≤ p.timeout := Nat.zero_le _
    exact Leg.le_budget hack htime hmore hlooked
  · rintro _ more ⟨⟩ ⟨hmore, jobs, rfl, hjobs, hcleared⟩
    refine ((Wait.settle_takes ⟨p, r.heeds⟩ htick .update (resource.status id)).and_yields
      (Wait.settle_spec ⟨p, r.heeds⟩ (by decide))).mono ?_
    rintro _ last o ⟨hlast, looks, rfl, hopen, hreaches⟩
    refine ⟨⟨actions, jobs, looks⟩, Leg.exchanges_looked.symm,
      ⟨htries, hjobs, fun _ => ⟨ack, hack, hcleared rfl⟩, hopen⟩, ?_,
      fun status ho => ⟨(hreaches status ho).1, (hreaches status ho).2⟩⟩
    exact Leg.le_budget hack htime hmore hlast

/-- **The change makes the calls of two orderly legs and takes no longer than their budgets.** -/
theorem change_takes (hpaced : r.Paced) (stopSkipped : Bool) :
    Task.Takes (r.change R resource id payload stopSkipped) fun calls time _ =>
      ∃ (mutate : Leg resource id (resource.update id payload))
        (start : Leg resource id (resource.start id)),
        calls = mutate.exchanges ++ start.exchanges ∧
        mutate.Orderly r.retry.maxAttempts r.mutate ∧ start.Orderly r.retry.maxAttempts r.start ∧
        (start.exchanges ≠ [] → ∃ status, mutate.Reaches r.mutate status) ∧
        time ≤ mutate.budget r.retry r.mutate + start.budget r.retry r.start := by
  unfold change
  rw [Task.discard_bind_eq]
  refine .bind (r.act_takes hpaced.job .mutating hpaced.mutate) ?_ ?_
  · -- The change did not land, so nothing is started.
    rintro _ time ⟨mutate, rfl, hmutate, htime, -⟩
    exact ⟨mutate, {}, (List.append_nil _).symm, hmutate, .empty, fun h => absurd rfl h,
      Nat.le_trans htime (Nat.le_add_right _ _)⟩
  rintro _ time landed ⟨mutate, rfl, hmutate, htime, hlanded⟩
  have hreached := hlanded landed rfl
  refine .bind (r.act_takes hpaced.job .starting hpaced.start) ?_ ?_
  · rintro _ more ⟨start, rfl, hstart, hmore, -⟩
    exact ⟨mutate, start, rfl, hmutate, hstart, fun _ => ⟨landed, hreached⟩,
      Nat.add_le_add htime hmore⟩
  · rintro _ more finalStatus ⟨start, rfl, hstart, hmore, -⟩
    refine .note_bind (.pure ?_)
    rw [List.append_nil, Nat.add_zero]
    exact ⟨mutate, start, rfl, hmutate, hstart, fun _ => ⟨landed, hreached⟩,
      Nat.add_le_add htime hmore⟩

/-! ## 3. The whole resize -/

/-- The time that an itinerary may take. -/
def Itinerary.budget (it : Itinerary resource id payload) (r : Resize) : Nat :=
  delays (it.inspections.map Query.Call.exchange) + r.retry.retries * r.retry.delay +
    it.stop.budget r.retry r.stop + it.mutate.budget r.retry r.mutate +
      it.start.budget r.retry r.start

/-- **A resize makes the calls of an orderly itinerary and takes no longer than its budget.** -/
theorem run_takes (hpaced : r.Paced) :
    Task.Takes (r.run R resource id payload) fun calls time _ =>
      ∃ it : Itinerary resource id payload, calls = it.exchanges ∧ it.Orderly r ∧
        time ≤ it.budget r := by
  rw [run_eq]
  refine .bind (.adapt ((r.inspect_takes (resource.status id)).and_yields
    (r.inspect_spec (resource.status id)))) ?_ ?_
  · rintro _ time ⟨htime, inspections, rfl, htries, -⟩
    refine ⟨⟨inspections, {}, {}, {}⟩, Itinerary.exchanges_inspected.symm, .inspected htries, ?_⟩
    simp only [Itinerary.budget]
    omega
  rintro _ time current ⟨htime, inspections, rfl, htries, hcurrent⟩
  obtain ⟨hfatal, fault, hshown⟩ := hcurrent current rfl
  by_cases hstopped : current ∈ r.stop.target
  · rw [if_pos hstopped]
    refine .note_bind ((r.change_takes hpaced true).mono ?_)
    rintro _ more _ ⟨mutate, start, rfl, hmutate, hstart, hbefore, hmore⟩
    refine ⟨⟨inspections, {}, mutate, start⟩, Itinerary.exchanges_skipping.symm,
      .skipping htries hshown hstopped hmutate hstart hbefore, ?_⟩
    simp only [Itinerary.budget]
    omega
  · rw [if_neg hstopped, Task.discard_bind_eq]
    refine .bind (r.act_takes hpaced.job .stopping hpaced.stop) ?_ ?_
    · rintro _ more ⟨stop, rfl, hstop, hmore, -⟩
      refine ⟨⟨inspections, stop, {}, {}⟩, Itinerary.exchanges_stopping.symm,
        .stopping htries hshown hstopped hfatal hstop, ?_⟩
      simp only [Itinerary.budget]
      omega
    · rintro _ more stopped ⟨stop, rfl, hstop, hmore, hreaches⟩
      have hstopping : (⟨inspections, stop, {}, {}⟩ : Itinerary resource id payload).Orderly r :=
        .stopping htries hshown hstopped hfatal hstop
      refine (r.change_takes hpaced false).mono ?_
      rintro _ last _ ⟨mutate, start, rfl, hmutate, hstart, hbefore, hlast⟩
      refine ⟨⟨inspections, stop, mutate, start⟩, Itinerary.exchanges_changing.symm,
        hstopping.changing (hreaches stopped rfl) hmutate hstart hbefore, ?_⟩
      simp only [Itinerary.budget]
      omega

/-- No action of the itinerary is acknowledged with a job. -/
structure Itinerary.Jobless (it : Itinerary resource id payload) : Prop where
  stop : ∀ c ∈ it.stop.actions, ∀ job, c.result ≠ .ok (.job job)
  mutate : ∀ c ∈ it.mutate.actions, ∀ job, c.result ≠ .ok (.job job)
  start : ∀ c ∈ it.start.actions, ∀ job, c.result ≠ .ok (.job job)

/-- The time that was spent on an itinerary is in the budgets of the resize: the answers to the
inspections and the actions, the pauses of four retries, and the waits of three phases. -/
structure Itinerary.InBudget (it : Itinerary resource id payload) (r : Resize) (spent : Nat) :
    Prop where
  /-- A phase waits once for the resource and once for its job. -/
  spent_le : spent ≤ delays it.requests + 4 * (r.retry.retries * r.retry.delay) +
    2 * (r.stop.timeout + r.mutate.timeout + r.start.timeout)
  /-- Without jobs it waits for the resource only. -/
  spent_le_of_jobless : it.Jobless → spent ≤ delays it.requests +
    4 * (r.retry.retries * r.retry.delay) + (r.stop.timeout + r.mutate.timeout + r.start.timeout)
  actions_le : it.stop.actions.length + it.mutate.actions.length + it.start.actions.length ≤
    3 * r.retry.maxAttempts

theorem Itinerary.Orderly.inBudget {it : Itinerary resource id payload} (hit : it.Orderly r)
    {spent : Nat} (hspent : spent ≤ it.budget r) : it.InBudget r spent := by
  simp only [budget, Leg.budget] at hspent
  have hrequests : delays it.requests =
      delays (it.inspections.map Query.Call.exchange) +
        delays (it.stop.actions.map Query.Call.exchange) +
        delays (it.mutate.actions.map Query.Call.exchange) +
        delays (it.start.actions.map Query.Call.exchange) := by
    unfold requests
    rw [delays_append, delays_append, delays_append]
  refine ⟨?_, fun hjobless => ?_, ?_⟩
  · have hstop := Nat.mul_le_mul_right r.stop.timeout it.stop.waits_le_two
    have hmutate := Nat.mul_le_mul_right r.mutate.timeout it.mutate.waits_le_two
    have hstart := Nat.mul_le_mul_right r.start.timeout it.start.waits_le_two
    omega
  · rw [Leg.waits_eq_one hjobless.stop, Leg.waits_eq_one hjobless.mutate,
      Leg.waits_eq_one hjobless.start] at hspent
    omega
  · have hstop := hit.stop.tries.length_le
    have hmutate := hit.mutate.tries.length_le
    have hstart := hit.start.tries.length_le
    omega

/-- **A resize whose waits let time pass always ends, and within its budgets.** -/
theorem run_in_budget (r : Resize) (hpaced : r.Paced) (R : Remote I σ) (resource : Resource I ε ρ)
    (id : String) (payload : ρ) (w : World I σ) :
    ∃ result w', (r.run R resource id payload).run.runIn w = (some result, w') ∧
      ∃ (it : Itinerary resource id payload) (spent : Nat),
        w'.trace.toList = w.trace.toList ++ it.exchanges ∧ it.Orderly r ∧
        w'.now = w.now + spent ∧ it.InBudget r spent := by
  have htakes : Task.Takes (r.run R resource id payload) _ := r.run_takes hpaced
  obtain ⟨result, w', _, spent, hrun, hlead, hnow, it, rfl, hit, hspent⟩ := htakes w
  exact ⟨result, w', hrun, it, spent, hlead.trace_eq, hit, hnow, hit.inBudget hspent⟩

/-- The database ends at 25, well within 4 pauses of 5, 6 waits of 100 and its answers. -/
theorem run_in_budget_database :
    (databaseResize.withJobWait ⟨10, 0, 5, false⟩).Paced ∧
      ∃ result w' spent,
        ((databaseResize.withJobWait ⟨10, 0, 5, false⟩).run Rehearsal.remote Rehearsal.resource "db"
          4).run.runIn databaseWorld = (some result, w') ∧
        w'.now = spent ∧ spent = 25 ∧
        ∃ it : Itinerary Rehearsal.resource "db" 4,
          it.InBudget (databaseResize.withJobWait ⟨10, 0, 5, false⟩) spent := by
  have hpaced : (databaseResize.withJobWait ⟨10, 0, 5, false⟩).Paced :=
    ⟨by decide, by decide, by decide, by decide⟩
  obtain ⟨result, w', hrun, it, spent, -, -, hnow, hbudget⟩ :=
    run_in_budget _ hpaced Rehearsal.remote Rehearsal.resource "db" 4 databaseWorld
  have hended : w'.now = 25 := by
    rw [← congrArg (·.2.now) hrun]
    decide +kernel
  have hspent : w'.now = spent := hnow.trans (Nat.zero_add spent)
  exact ⟨hpaced, result, w', spent, hrun, hspent, hspent ▸ hended, it, hbudget⟩

end Resize

end Settle
