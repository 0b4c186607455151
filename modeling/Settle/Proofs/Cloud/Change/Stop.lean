/-
Skipping the stop of a change.

A cold change does not stop a server that is stopped already. What counts is the reading
of the server when it is inspected, and a stable status without good health is read as a
warning: a stopped server in any other health, or in none, is shut down once more, and
the report's `stop_skipped` says so. So the stop is skipped exactly for a server that
is inspected stopped and in good health.
-/
import Settle.Proofs.Cloud.Change.Course

set_option autoImplicit false

namespace Settle.Cloud

variable {σ : Type}

/-! ## 1. The inspection -/

/-- A server is read as stopped exactly if it is, and in good health. -/
theorem Instance.normalized_shutoff_iff (i : Instance) :
    i.normalized.status = some State.shutoff ↔
      i.status = some State.shutoff ∧ i.health = some Health.ok := by
  constructor
  · intro h
    have hreading : i.normalized = ⟨some State.shutoff, i.normalized.fault⟩ := by rw [← h]
    exact Instance.normalized_stable hreading (.inr rfl)
  · rintro ⟨hstatus, hhealth⟩
    unfold normalized
    rw [hstatus, hhealth]
    simp only [ne_eq, not_true_eq_false, and_false, if_false]
    rw [if_neg (by decide)]
    rfl

variable {id : String} {update : InstanceUpdate}
  {it : Resize.Itinerary instanceResource id update}

/-- The lookups of an inspection, with the servers as they are. -/
def inspected (it : Resize.Itinerary instanceResource id update) :
    List (query (.getInstance id)).Call :=
  it.inspections.map Query.Call.ofMap

theorem inspected_exchanges :
    (inspected it).map Query.Call.exchange = it.inspections.map Query.Call.exchange :=
  Query.Call.map_ofMap it.inspections

theorem inspected_tries {limit : Nat} (h : Tries limit it.inspections) :
    Tries limit (inspected it) := h.ofMap

/-- An inspection that has shown a server shows its reading. -/
theorem inspected_reading {i : Instance} (h : EndsWith (inspected it) (.ok i)) :
    EndsWith it.inspections (.ok i.normalized) := h.of_map

/-- What comes after the inspection. -/
def afterInspection (it : Resize.Itinerary instanceResource id update) :
    List (Exchange interface) :=
  it.stop.exchanges ++ (it.mutate.exchanges ++ it.start.exchanges)

theorem exchanges_eq :
    it.exchanges = (inspected it).map Query.Call.exchange ++ afterInspection it := by
  unfold Resize.Itinerary.exchanges afterInspection
  rw [inspected_exchanges, List.append_assoc, List.append_assoc]

/-- Nothing is asked for after an inspection that has not shown a server. -/
theorem exists_inspected {r : Resize} (hit : it.Orderly r) (h : afterInspection it ≠ []) :
    ∃ i, EndsWith (inspected it) (.ok i) := by
  obtain ⟨status, fault, hshown⟩ := hit.inspected_of_ne_nil h
  obtain ⟨answer, hanswer, hread⟩ := hshown.ofMap
  cases answer with
  | error e => cases hread
  | ok i => exact ⟨i, hanswer⟩

/-! ## 2. The stop -/

/-- What becomes of the stop of a change once the server has been inspected: a server that is
stopped and in good health is not stopped, and the report tells this server from any other, as it
tells a change that has skipped the stop from one that has asked for it. -/
structure StopFollows (i : Instance) (exchanges : List (Exchange interface))
    (result : Option (Except OperationError ChangeReport)) : Prop where
  skipped : i.status = some State.shutoff → i.health = some Health.ok →
    ∀ e ∈ exchanges, e.request.phase? ≠ some .stopping
  reported : ∀ report, result = some (.ok report) →
    (report.stopSkipped = true ↔ i.status = some State.shutoff ∧ i.health = some Health.ok)
  requested : ∀ report, result = some (.ok report) → report.stopSkipped = false →
    ∃ e ∈ exchanges, e.request.phase? = some .stopping

theorem Resized.stopFollows {ws : Workspace} {r : Resize}
    {result : Option (Except OperationError ChangeReport)} (h : Resized ws r it result)
    {i : Instance} (hi : EndsWith (inspected it) (.ok i))
    (lookups : List (query (.getInstance id)).Call) :
    StopFollows i (lookups.map Query.Call.exchange ++ it.exchanges) result := by
  have htarget (status : String) : status ∈ r.stop.target ↔ status = State.shutoff := by
    rw [h.stop]
    exact StateSet.mem_ofList.trans List.mem_singleton
  have hreading := inspected_reading hi
  refine ⟨fun hstatus hhealth e he hphase => ?_, fun report hreport => ?_,
    fun report hreport hno => ?_⟩
  · -- The inspection shows a target of the stop, so the part of the stop is empty.
    have hshown := i.normalized_shutoff_iff.2 ⟨hstatus, hhealth⟩
    have hends : EndsWith it.inspections (.ok ⟨some State.shutoff, i.normalized.fault⟩) := by
      rw [← hshown]
      exact hreading
    have hnone : it.part .stopping = [] := h.orderly.stop_eq_nil hends ((htarget _).2 rfl)
    rcases List.mem_append.1 he with he | he
    · exact not_phase_of_mem_lookups he hphase
    · obtain ⟨phase, hpart⟩ := Resize.Itinerary.exists_mem_part he
      by_cases hstopping : phase = .stopping
      · rw [hstopping, hnone] at hpart
        exact absurd hpart List.not_mem_nil
      · exact not_phase_of_mem_part hpart hstopping hphase
  · have hcomplete := h.complete report hreport
    obtain ⟨status, fault, hends⟩ := h.orderly.inspected_of_ne_nil (by
      intro hnil
      exact hcomplete.final.exchanges_ne_nil
        (List.append_eq_nil_iff.1 (List.append_eq_nil_iff.1 hnil).2).2)
    have hread : i.normalized = ⟨some status, fault⟩ := Except.ok.inj (hreading.unique hends)
    have hskipped : report.stopSkipped = true ↔ status ∈ r.stop.target :=
      hcomplete.skipped_iff h.orderly hends
    rw [hskipped, htarget, ← i.normalized_shutoff_iff, hread, Option.some.injEq]
  · have hcomplete := h.complete report hreport
    have hne : it.stop.exchanges ≠ [] := by
      intro hnil
      have hskipped : report.stopSkipped = true := hcomplete.skipped.2 hnil
      rw [hno] at hskipped
      cases hskipped
    obtain ⟨e, rest, he⟩ := List.exists_cons_of_ne_nil hne
    refine ⟨e, List.mem_append_right _ ?_, phase_of_head_leg h.orderly.stop rfl he⟩
    unfold Resize.Itinerary.exchanges
    rw [he]
    simp

/-- **The stop of a change is skipped exactly for a server that is inspected stopped and in good
health.** A cold change inspects the server first, and what it does about the stop follows from the
last lookup of the inspection, whatever the server is like. -/
theorem applyChange_stop_iff (ws : Workspace) (R : Remote interface σ) (id : String)
    (change : Change) (w : World interface σ) :
    ∃ (lookups : List (query (.getInstance id)).Call) (later : List (Exchange interface)),
      ((ws.applyChange R id change).run.runIn w).2.trace.toList =
        w.trace.toList ++ (lookups.map Query.Call.exchange ++ later) ∧
      Tries ws.config.retry.maxAttempts lookups ∧
      ∀ current : Instance, EndsWith lookups (.ok current) → change.plan current = .ok .cold →
        ∃ (inspections : List (query (.getInstance id)).Call) (rest : List (Exchange interface)),
          later = inspections.map Query.Call.exchange ++ rest ∧
          Tries ws.config.retry.maxAttempts inspections ∧
          (rest ≠ [] → ∃ i, EndsWith inspections (.ok i)) ∧
          ∀ i : Instance, EndsWith inspections (.ok i) →
            StopFollows i (lookups.map Query.Call.exchange ++ later)
              ((ws.applyChange R id change).run.runIn w).1 := by
  obtain ⟨_, hlead, lookups, later, rfl, hcourse⟩ := applyChange_course ws R id change w
  refine ⟨lookups, later, hlead.trace_eq, hcourse.tries, fun current hends hplan => ?_⟩
  obtain ⟨r, it, rfl, hresized⟩ := hcourse.cold current hends hplan
  have htries := hresized.orderly.inspections
  rw [hresized.retry] at htries
  exact ⟨inspected it, afterInspection it, exchanges_eq, inspected_tries htries,
    exists_inspected hresized.orderly, fun i hi => hresized.stopFollows hi lookups⟩

/-! ## 3. A stopped server that is stopped -/

/-- A server that is stopped and tells nothing about its health until it is shut down once more. -/
def silentServer : World interface Sandbox where
  remote :=
    let shown (status : String) (health : Option String) : Result Instance :=
      .ok { id := "pvm-1", status := some status, health }
    { instances := [("pvm-1", [shown "SHUTOFF" none, shown "SHUTOFF" none,
        shown "SHUTOFF" (some "OK"), shown "ACTIVE" (some "OK")])] }

/-- So it is not true that a server which is inspected stopped is never stopped, whatever its
health, and that the report of its change says so. The script shows the server as it is planned and
then as it is inspected. -/
theorem not_stop_skipped_silent :
    ¬ ∀ (ws : Workspace) (w : World interface Sandbox) (id : String) (change : Change)
        (current inspected : Instance) (more : List (Result Instance)),
      w.remote.instances.get id = .ok current :: .ok inspected :: more →
        change.plan current = .ok .cold → inspected.status = some State.shutoff →
          (∀ e ∈ ((ws.applyChange Sandbox.remote id change).run.runIn w).2.trace.toList,
            e.request.phase? ≠ some .stopping) ∧
          ∀ report, ((ws.applyChange Sandbox.remote id change).run.runIn w).1 =
            some (.ok report) → report.stopSkipped = true := by
  intro h
  have hskipped := (h { cloudInstance := "cloud-1" } silentServer "pvm-1"
    { processorType := some "dedicated" } _ _ _ rfl rfl rfl).2
  have hreported : ((((({ cloudInstance := "cloud-1" } : Workspace).applyChange Sandbox.remote
      "pvm-1" { processorType := some "dedicated" }).run.runIn silentServer).1.bind
        Except.toOption).map ChangeReport.stopSkipped) = some false := by
    decide +kernel
  obtain ⟨report, hreport, hno⟩ := Option.map_eq_some_iff.1 hreported
  rw [hskipped report (Task.toOption_eq_some.1 hreport)] at hno
  cases hno

-- It is shut down although it has stopped.
example :
    ((({ cloudInstance := "cloud-1" } : Workspace).applyChange Sandbox.remote "pvm-1"
        { processorType := some "dedicated" }).run.runIn silentServer).2.trace.toList.map
        (·.request.label) =
      ["get_instance:pvm-1", "get_instance:pvm-1", "action:immediate-shutdown:pvm-1",
        "get_instance:pvm-1", "update_instance:pvm-1", "get_instance:pvm-1", "action:start:pvm-1",
        "get_instance:pvm-1"] := by
  decide +kernel

end Settle.Cloud
