/-
Cancelling a resize cuts it off.

A resize that heeds the token is made of retries and waits, and all of them do. Once
the token has fired nothing more is asked for: the spec `…_idles` of each part says
with which error it ends instead. When the token fires on the way, `…_truncates` says
what the resize ends with: as cancelled, unless the answer to an inspection or an
action is on its way, which is left to arrive and may be an error of its own.

The exception is stated on the itinerary of the calls: one of its inspections or
actions is in flight. Looks are not, since they are cut off.
-/
import Settle.Proofs.Resize.Order
import Settle.Proofs.Truncation.Loops
import Settle.Rehearsal

set_option autoImplicit false

namespace Settle

variable {I : Interface} {σ ε ρ α : Type}

namespace Resize

/-- Every part of the resize heeds the token. -/
structure Heeding (r : Resize) : Prop where
  resize : r.heeds = true
  job : r.jobWait.heeds = true

/-- Every wait of the resize lets time pass between its looks. -/
structure Paced (r : Resize) : Prop where
  stop : 1 ≤ r.stop.tick
  mutate : 1 ≤ r.mutate.tick
  start : 1 ≤ r.start.tick
  job : 1 ≤ max r.jobWait.pollInterval r.jobWait.minPollInterval

/-- The exchanges of an itinerary that nothing cuts off: the inspections and the
actions. -/
def Itinerary.requests {resource : Resource I ε ρ} {id : String} {payload : ρ}
    (it : Itinerary resource id payload) : List (Exchange I) :=
  it.inspections.map Query.Call.exchange ++ it.stop.actions.map Query.Call.exchange ++
    it.mutate.actions.map Query.Call.exchange ++ it.start.actions.map Query.Call.exchange

/-- A task that was cut off after some calls has failed, as cancelled or for a reason
that the calls give. -/
def Aborted (reason : List (Exchange I) → Prop) (calls : List (Exchange I))
    (result : Except Error α) : Prop :=
  ∃ err, result = .error err ∧ (err.root = .timedOut true ∨ reason calls)

theorem aborted_cancelled {reason : List (Exchange I) → Prop} {calls : List (Exchange I)}
    {err : Error} (h : err.root = .timedOut true) :
    Aborted reason calls (.error err : Except Error α) := ⟨err, rfl, .inl h⟩

/-- The phase of an error is no part of its cause. -/
theorem Aborted.inPhase {reason : List (Exchange I) → Prop} {calls : List (Exchange I)}
    {result : Except Error α} (h : Aborted reason calls result) (phase : Phase) :
    Aborted reason calls (result.mapError (.inPhase phase)) := by
  obtain ⟨err, rfl, hcause⟩ := h
  exact ⟨.inPhase phase err, rfl, hcause⟩

variable {R : Remote I σ} {t : Nat} {w : World I σ} {r : Resize} {resource : Resource I ε ρ}
  {id : String} {payload : ρ} {action : Query I (Except ε Ack)} [RemoteFailure ε]

/-! ## 1. Once the token has fired -/

theorem inspect_idles (hr : r.Heeding) (query : Query I (Except ε Reading)) :
    (r.inspect R query).run.Idles (· = .error (.timedOut true)) := by
  unfold inspect
  rw [hr.resize]
  exact Task.idles_bind_of_fails r.retry.call_idles

/-- Only a job is waited for; the other acknowledgements are judged at once. -/
theorem await_idles (hr : r.Heeding) (p : ValidPolicy) (ack : Ack) :
    (r.await R resource.job p ack).run.Idles fun _ => True := by
  cases ack with
  | accepted => exact .pure trivial
  | status status =>
    simp only [await]
    split <;> exact .pure trivial
  | job job =>
    change (discard (r.jobWait.settle R (resource.job job) p.timeout)).run.Idles _
    rw [← bind_pure (discard _), Task.discard_bind_eq]
    exact Task.idles_bind (r.jobWait.settle_idles hr.job p.timeout)
      (fun _ _ => .pure trivial) fun _ _ => trivial

theorem act_idles (hr : r.Heeding) (phase : Phase) (p : ValidPolicy) :
    (r.act R resource id phase action p).run.Idles
      (· = .error (.inPhase phase (.timedOut true))) := by
  unfold act during
  rw [hr.resize]
  refine .map (Act.Idles.mono (Task.idles_note_bind
    (Task.idles_bind_of_fails r.retry.call_idles)) ?_)
  rintro _ rfl
  rfl

theorem change_idles (hr : r.Heeding) (stopSkipped : Bool) :
    (r.change R resource id payload stopSkipped).run.Idles
      (· = .error (.inPhase .mutating (.timedOut true))) := by
  unfold change
  rw [Task.discard_bind_eq]
  exact Task.idles_bind_of_fails (r.act_idles hr .mutating r.mutate)

theorem run_idles (resource : Resource I ε ρ) (id : String) (payload : ρ) (hr : r.Heeding) :
    (r.run R resource id payload).run.Idles
      (· = .error (.inPhase .inspecting (.timedOut true))) := by
  rw [run_eq]
  refine Task.idles_bind_of_fails (.map ((r.inspect_idles hr (resource.status id)).mono ?_))
  rintro _ rfl
  rfl

/-! ## 2. While the token fires -/

/-- An inspection whose call is on its way may still succeed. -/
theorem inspect_truncates (hr : r.Heeding) (hneutral : R.Neutral) (hquiet : w.Quiet)
    (query : Query I (Except ε Reading)) :
    (r.inspect R query).run.Truncates t w fun calls y =>
      y = .error (.timedOut true) ∨ Retry.Overtaken query r.retry.maxAttempts t calls := by
  unfold inspect
  rw [hr.resize]
  refine Task.truncates_bind (r.retry.call_truncates hneutral hquiet) ?_ ?_ ?_
  · -- Judging the reading takes no time, so nothing can fire on the way.
    rintro ⟨_ | status, fault⟩ calls w' - - hquiet'
    · exact .pure hquiet'
    · simp only
      split <;> exact .pure hquiet'
  · rintro calls ⟨_ | status, fault⟩ (h | hovertaken)
    · cases h
    · exact .pure (.inr hovertaken)
    · cases h
    · simp only
      split <;> exact .pure (.inr hovertaken)
  · rintro calls e (h | hovertaken)
    · cases h
      exact .inl rfl
    · exact .inr hovertaken

theorem await_truncates (hr : r.Heeding) (hpaced : r.Paced) (hneutral : R.Neutral)
    (hquiet : w.Quiet) (p : ValidPolicy) (ack : Ack) :
    (r.await R resource.job p ack).run.Truncates t w fun _ y => y = .error (.timedOut true) := by
  cases ack with
  | accepted => exact .pure hquiet
  | status status =>
    simp only [await]
    split <;> exact .pure hquiet
  | job job =>
    change (discard (r.jobWait.settle R (resource.job job) p.timeout)).run.Truncates t w _
    rw [← bind_pure (discard _), Task.discard_bind_eq]
    refine Task.truncates_bind
      (r.jobWait.settle_truncates hneutral hr.job hpaced.job p.timeout hquiet) ?_ ?_ ?_
    · intro _ _ w' _ _ hquiet'
      exact .pure hquiet'
    · rintro _ _ ⟨⟩
    · rintro _ _ ⟨⟩
      rfl

theorem during_truncates {reason : List (Exchange I) → Prop} {task : Task I σ Error α}
    (phase : Phase) (h : task.run.Truncates t w (Aborted reason)) :
    (during phase task).run.Truncates t w (Aborted reason) :=
  .map (h.mono fun _ _ haborted => haborted.inPhase phase)

/-- The calls of a leg with the action on its way at `t`. -/
def ActionCaught (resource : Resource I ε ρ) (id : String) (action : Query I (Except ε Ack))
    (limit : Nat) (p : ValidPolicy) (t : Nat) (calls : List (Exchange I)) : Prop :=
  ∃ leg : Leg resource id action, calls = leg.exchanges ∧ leg.Orderly limit p ∧
    Caught t (leg.actions.map Query.Call.exchange)

theorem actionCaught_of_overtaken {limit : Nat} {p : ValidPolicy} {calls : List (Exchange I)}
    (h : Retry.Overtaken action limit t calls) :
    ActionCaught resource id action limit p t calls := by
  obtain ⟨actions, rfl, htries, hcaught⟩ := h
  exact ⟨⟨actions, [], []⟩, Leg.exchanges_tried.symm, .tried htries, hcaught⟩

/-- **A phase is cut off as cancelled, unless its action is on its way.** -/
theorem act_truncates (hr : r.Heeding) (hpaced : r.Paced) (hneutral : R.Neutral)
    (hquiet : w.Quiet) (phase : Phase) {p : ValidPolicy} (htick : 1 ≤ p.tick) :
    (r.act R resource id phase action p).run.Truncates t w
      (Aborted (ActionCaught resource id action r.retry.maxAttempts p t)) := by
  unfold act
  rw [hr.resize]
  refine during_truncates phase (Task.truncates_note_bind hquiet ?_)
  -- An action is a retry, a wait for its acknowledgement, and a wait for the status.
  refine Task.truncates_bind (r.retry.call_truncates hneutral (hquiet.note _)) ?_ ?_ ?_
  · intro ack before w' _ _ hquiet'
    refine Task.truncates_bind (r.await_truncates hr hpaced hneutral hquiet' p ack) ?_ ?_ ?_
    · intro _ _ w'' _ _ hquiet''
      refine (Wait.settle_truncates ⟨p, true⟩ hneutral rfl htick hquiet'').mono ?_
      rintro _ _ rfl
      exact aborted_cancelled rfl
    · rintro _ _ ⟨⟩
    · rintro _ _ ⟨⟩
      exact aborted_cancelled rfl
  · rintro calls ack (h | hovertaken)
    · cases h
    -- The action has its acknowledgement, but nothing can follow it.
    refine Task.idles_bind (r.await_idles hr p ack) (fun _ _ => ?_) fun e _ => ?_
    · refine (Wait.settle_idles ⟨p, true⟩ rfl).mono ?_
      rintro _ rfl
      exact aborted_cancelled rfl
    · exact ⟨e, rfl, .inr (actionCaught_of_overtaken hovertaken)⟩
  · rintro calls e (h | hovertaken)
    · cases h
      exact aborted_cancelled rfl
    · exact ⟨e, rfl, .inr (actionCaught_of_overtaken hovertaken)⟩

/-- The calls of a change with one of its two actions on its way at `t`. -/
def ChangeCaught (r : Resize) (resource : Resource I ε ρ) (id : String) (payload : ρ) (t : Nat)
    (calls : List (Exchange I)) : Prop :=
  ∃ (mutate : Leg resource id (resource.update id payload))
    (start : Leg resource id (resource.start id)),
    calls = mutate.exchanges ++ start.exchanges ∧
    mutate.Orderly r.retry.maxAttempts r.mutate ∧ start.Orderly r.retry.maxAttempts r.start ∧
    (start.exchanges ≠ [] → ∃ status, mutate.Reaches r.mutate status) ∧
    (Caught t (mutate.actions.map Query.Call.exchange) ∨
      Caught t (start.actions.map Query.Call.exchange))

theorem change_truncates (hr : r.Heeding) (hpaced : r.Paced) (hneutral : R.Neutral)
    (hquiet : w.Quiet) (stopSkipped : Bool) :
    (r.change R resource id payload stopSkipped).run.Truncates t w
      (Aborted (r.ChangeCaught resource id payload t)) := by
  unfold change
  rw [Task.discard_bind_eq]
  refine Task.truncates_bind (r.act_truncates hr hpaced hneutral hquiet .mutating hpaced.mutate)
    ?_ ?_ ?_
  · intro landed before w' hrun hlead hquiet'
    obtain ⟨mutate, rfl, hmutate, hlanded⟩ := (r.act_spec .mutating r.mutate).of_run hrun hlead
    have hreaches := hlanded landed rfl
    -- The token has not fired yet, so the leg of the start begins in a quiet world.
    refine Task.truncates_bind (r.act_truncates hr hpaced hneutral hquiet' .starting hpaced.start)
      ?_ ?_ ?_
    · intro _ _ w'' _ _ hquiet''
      exact Task.truncates_note_bind hquiet'' (.pure hquiet'')
    · rintro _ _ ⟨_, ⟨⟩, _⟩
    · rintro _ err ⟨_, ⟨⟩, hcancelled | ⟨start, rfl, hstart, hcaught⟩⟩
      · exact aborted_cancelled hcancelled
      · exact ⟨err, rfl, .inr ⟨mutate, start, rfl, hmutate, hstart, fun _ => ⟨landed, hreaches⟩,
          .inr hcaught⟩⟩
  · rintro _ _ ⟨_, ⟨⟩, _⟩
  · -- The start is not issued, so its leg is empty.
    rintro _ err ⟨_, ⟨⟩, hcancelled | ⟨mutate, rfl, hmutate, hcaught⟩⟩
    · exact aborted_cancelled hcancelled
    · exact ⟨err, rfl, .inr ⟨mutate, {}, (List.append_nil _).symm, hmutate, .empty,
        fun h => absurd rfl h, .inl hcaught⟩⟩

/-- The calls of a resize with an inspection or an action on its way at `t`. -/
def RequestCaught (r : Resize) (resource : Resource I ε ρ) (id : String) (payload : ρ) (t : Nat)
    (calls : List (Exchange I)) : Prop :=
  ∃ it : Itinerary resource id payload, calls = it.exchanges ∧ it.Orderly r ∧
    Caught t it.requests

/-- **A resize is cut off as cancelled, unless an inspection or an action is on its
way.** -/
theorem run_truncates (resource : Resource I ε ρ) (id : String) (payload : ρ)
    (hr : r.Heeding) (hpaced : r.Paced) (hneutral : R.Neutral) (hquiet : w.Quiet) :
    (r.run R resource id payload).run.Truncates t w
      (Aborted (r.RequestCaught resource id payload t)) := by
  have hinspect : (during .inspecting (r.inspect R (resource.status id))).run.Truncates t w
      fun calls y => y = .error (.inPhase .inspecting (.timedOut true)) ∨
        Retry.Overtaken (resource.status id) r.retry.maxAttempts t calls := by
    refine .map ((r.inspect_truncates hr hneutral hquiet (resource.status id)).mono ?_)
    rintro calls _ (rfl | hovertaken)
    · exact .inl rfl
    · exact .inr hovertaken
  rw [run_eq]
  refine Task.truncates_bind hinspect ?_ ?_ ?_
  · intro current before w' hrun hlead hquiet'
    obtain ⟨inspections, rfl, htries, hcurrent⟩ :=
      (Task.Yields.adapt (r.inspect_spec (resource.status id))).of_run hrun hlead
    obtain ⟨hfatal, fault, hshown⟩ := hcurrent current rfl
    split
    · -- The resource is stopped already.
      rename_i hstopped
      refine Task.truncates_note_bind hquiet'
        ((r.change_truncates hr hpaced hneutral (hquiet'.note _) true).mono ?_)
      rintro _ _ ⟨err, rfl, hcancelled | ⟨mutate, start, rfl, hmutate, hstart, hbefore, hcaught⟩⟩
      · exact aborted_cancelled hcancelled
      · refine ⟨err, rfl, .inr ⟨⟨inspections, {}, mutate, start⟩,
          Itinerary.exchanges_skipping.symm,
          .skipping htries hshown hstopped hmutate hstart hbefore, ?_⟩⟩
        simp only [Itinerary.requests, caught_append]
        exact Or.imp_left .inr hcaught
    · -- The resource is stopped first.
      rename_i hrunning
      rw [Task.discard_bind_eq]
      refine Task.truncates_bind (r.act_truncates hr hpaced hneutral hquiet' .stopping hpaced.stop)
        ?_ ?_ ?_
      · intro stopped before' w'' hrun' hlead' hquiet''
        obtain ⟨stop, rfl, hstop, hreaches⟩ := (r.act_spec .stopping r.stop).of_run hrun' hlead'
        have hreached := hreaches stopped rfl
        refine (r.change_truncates hr hpaced hneutral hquiet'' false).mono ?_
        rintro _ _ ⟨err, rfl, hcancelled | ⟨mutate, start, rfl, hmutate, hstart, hbefore,
          hcaught⟩⟩
        · exact aborted_cancelled hcancelled
        · refine ⟨err, rfl, .inr ⟨⟨inspections, stop, mutate, start⟩,
            Itinerary.exchanges_changing.symm,
            .changing (.stopping htries hshown hrunning hfatal hstop) hreached hmutate hstart
              hbefore, ?_⟩⟩
          simp only [Itinerary.requests, caught_append]
          exact Or.imp_left .inr hcaught
      · rintro _ _ ⟨_, ⟨⟩, _⟩
      · rintro _ err ⟨_, ⟨⟩, hcancelled | ⟨stop, rfl, hstop, hcaught⟩⟩
        · exact aborted_cancelled hcancelled
        · refine ⟨err, rfl, .inr ⟨⟨inspections, stop, {}, {}⟩, Itinerary.exchanges_stopping.symm,
            .stopping htries hshown hrunning hfatal hstop, ?_⟩⟩
          simp only [Itinerary.requests, caught_append]
          exact .inl (.inl (.inr hcaught))
  · -- The inspection has succeeded after `t`, and the next action is not issued.
    rintro calls current (h | -)
    · cases h
    split
    · refine Task.idles_note_bind ((r.change_idles hr true).mono ?_)
      rintro _ rfl
      exact aborted_cancelled rfl
    · rw [Task.discard_bind_eq]
      refine Act.Idles.mono (Task.idles_bind_of_fails (r.act_idles hr .stopping r.stop)) ?_
      rintro _ rfl
      exact aborted_cancelled rfl
  · rintro calls err (h | ⟨inspections, rfl, htries, hcaught⟩)
    · cases h
      exact aborted_cancelled rfl
    · refine ⟨err, rfl, .inr ⟨⟨inspections, {}, {}, {}⟩, Itinerary.exchanges_inspected.symm,
        .inspected htries, ?_⟩⟩
      simp only [Itinerary.requests, caught_append]
      exact .inl (.inl (.inl hcaught))

/-! ## 3. Truncation -/

/-- **Cancelling a resize from outside truncates its calls**, and it fails as cancelled
unless an inspection or an action is on its way. Cancelled before it starts, it calls
nothing. -/
theorem run_cancelled (r : Resize) (j : JobWait) (R : Remote I σ) (resource : Resource I ε ρ)
    (id : String) (payload : ρ) (w : World I σ) (hneutral : R.Neutral)
    (hstop : 1 ≤ r.stop.tick) (hmutate : 1 ≤ r.mutate.tick) (hstart : 1 ≤ r.start.tick)
    (hjob : 1 ≤ max j.pollInterval j.minPollInterval) :
    (w.token = {} → ∀ t, w.now ≤ t → ∃ result free calls,
      (((r.withJobWait j).withCancellation).run R resource id payload).run.runIn w =
        (some result, free) ∧
      free.trace.toList = w.trace.toList ++ calls ∧
      (free.now ≤ t →
        (((r.withJobWait j).withCancellation).run R resource id payload).run.runIn (w.armed t) =
          (some result, free.armed t)) ∧
      (t < free.now → ∃ err cut,
        (((r.withJobWait j).withCancellation).run R resource id payload).run.runIn (w.armed t) =
          (some (.error err), cut) ∧
        cut.trace.toList = w.trace.toList ++ upTo t calls ∧
        (err.root = .timedOut true ∨
          ((r.withJobWait j).withCancellation).RequestCaught resource id payload t
            (upTo t calls)))) ∧
    (w.token.fired = true → ∃ cut,
      (((r.withJobWait j).withCancellation).run R resource id payload).run.runIn w =
        (some (.error (.inPhase .inspecting (.timedOut true))), cut) ∧
      cut.now = w.now ∧ cut.trace = w.trace) := by
  have hheeding : ((r.withJobWait j).withCancellation).Heeding := ⟨rfl, rfl⟩
  have hpaced : ((r.withJobWait j).withCancellation).Paced := ⟨hstop, hmutate, hstart, hjob⟩
  constructor
  · intro hquiet t hnow
    obtain ⟨result, calls, free, hrun, hlead, -, hsame, hcut⟩ :=
      run_truncates resource id payload hheeding hpaced hneutral hquiet
    refine ⟨result, free, calls, hrun, hlead.trace_eq, hsame hnow, fun ht => ?_⟩
    obtain ⟨_, cut, hrun', -, htrace, err, rfl, hcause⟩ := hcut hnow ht
    exact ⟨err, cut, hrun', htrace, hcause⟩
  · intro hfired
    obtain ⟨_, cut, hrun, hnow, htrace, -, rfl⟩ :=
      run_idles resource id payload hheeding w hfired
    exact ⟨cut, hrun, hnow, htrace⟩

/-- The database is stopped for a change and started again. -/
def databaseResize : Resize where
  stop := ⟨{ timeout := 100, target := .ofList ["stopped"], pollInterval := 10 }, by decide⟩
  mutate := ⟨{ timeout := 100, target := .ofList ["stopped"], pollInterval := 10 }, by decide⟩
  start := ⟨{ timeout := 100, target := .ofList ["running"], pollInterval := 10 }, by decide⟩
  retry := ⟨1, 5⟩

/-- The stop goes on as a job, which is complete at the second look. -/
def databaseWorld : World Rehearsal.interface Rehearsal where
  remote :=
    { readings :=
        [{ response := .ok (.of "running"), delay := 2 },
          { response := .ok (.of "stopped"), delay := 1 },
          { response := .ok (.of "stopped"), delay := 1 },
          { response := .ok (.of "running"), delay := 1 }]
      stops := some [{ response := .ok (.job "stop-1"), delay := 3 }]
      jobs := [("stop-1",
        [{ response := .ok (.of .running), delay := 1 },
          { response := .ok (.of .completed), delay := 1 }])] }

/-- The token fires between the two looks at the job of the stop. -/
theorem run_cancelled_database :
    Rehearsal.remote.steady.Neutral ∧ 1 ≤ databaseResize.stop.tick ∧
      1 ≤ databaseResize.mutate.tick ∧ 1 ≤ databaseResize.start.tick ∧ 1 ≤ max 10 0 ∧
      ∃ err cut,
        (((databaseResize.withJobWait ⟨10, 0, 5, false⟩).withCancellation).run
          Rehearsal.remote.steady Rehearsal.resource "db" 4).run.runIn (databaseWorld.armed 15) =
            (some (.error err), cut) ∧
        cut.trace.toList.map (·.time) = [0, 2, 10] := by
  have hneutral := Rehearsal.remote.neutral_steady
  have hstop : 1 ≤ databaseResize.stop.tick := by decide
  have hmutate : 1 ≤ databaseResize.mutate.tick := by decide
  have hstart : 1 ≤ databaseResize.start.tick := by decide
  obtain ⟨result, free, calls, hrun, hcalls, -, hcut⟩ :=
    (run_cancelled databaseResize ⟨10, 0, 5, false⟩ Rehearsal.remote.steady Rehearsal.resource
      "db" 4 databaseWorld hneutral hstop hmutate hstart (by decide)).1 rfl 15 (by decide)
  have hend : free.now = 25 := by
    rw [← congrArg (·.2.now) hrun]
    decide +kernel
  obtain ⟨err, cut, hrun', htrace, -⟩ := hcut (by omega)
  refine ⟨hneutral, hstop, hmutate, hstart, by decide, err, cut, hrun', ?_⟩
  rw [htrace, show calls = free.trace.toList from hcalls.symm, ← congrArg (·.2.trace) hrun]
  decide +kernel

end Resize

end Settle
