/-
The course of a change to a server.

A change is planned from a lookup and then takes one of two courses. A hot one updates
the server and waits; a cold one is a resize, whose itinerary has everything that was
asked for on the way. A course keeps the exchanges together with the result, so that
what a change reports can be held against what the cloud has shown.
-/
import Settle.Proofs.Cloud.Readiness

set_option autoImplicit false

namespace Settle.Cloud

variable {σ : Type}

/-! ## 1. Plans -/

/-- The statuses in which a change may leave a server, by its plan and by what the server was when
it was planned. -/
def Plan.statuses (current : Instance) : Plan → List String
  | .hot _ =>
    if current.status = some State.shutoff then [State.active, State.shutoff] else [State.active]
  | .cold => [State.active]

/-- Whether a hot change waits for a running server depends on nothing but its raw status. -/
theorem Change.plan_hot {change : Change} {current : Instance} {wait : HotWait}
    (h : change.plan current = .ok (.hot wait)) :
    wait = if current.status = some State.shutoff then .postResize else .available := by
  unfold plan at h
  split at h
  · cases h
  split at h
  · cases h
  simp only at h
  split at h
  · cases h
  split at h
  · cases h
  by_cases hstopped : current.status = some State.shutoff
  · rw [if_pos hstopped] at h ⊢
    cases h
    rfl
  · rw [if_neg hstopped] at h ⊢
    cases h
    rfl

/-! ## 2. Cold changes -/

/-- The itinerary of a cold change: the policies are those for servers, and if the change succeeds
the itinerary is complete. -/
structure Resized (ws : Workspace) {id : String} {update : InstanceUpdate} (r : Resize)
    (it : Resize.Itinerary instanceResource id update)
    (result : Option (Except OperationError ChangeReport)) : Prop where
  stop : r.stop.toPolicy = Preset.instanceStopped
  start : r.start.toPolicy = Preset.resize.start
  retry : r.retry = ws.config.retry
  orderly : it.Orderly r
  complete : ∀ report, result = some (.ok report) →
    it.Complete r ⟨report.stopSkipped, report.finalStatus⟩

/-- A leg that reaches a stable status ends with a lookup that shows the server in it. -/
theorem reaches_settled {id : String} {action : Query interface (Except ApiFailure Ack)}
    {leg : Resize.Leg instanceResource id action} {p : ValidPolicy} {status : String}
    {statuses : List String} (hreaches : leg.Reaches p status)
    (htargets : p.target = .ofList statuses)
    (hstable : ∀ s ∈ statuses, s ∈ [State.active, State.shutoff]) :
    EndsSettled id .ok statuses leg.exchanges status := by
  have hmem : status ∈ statuses := by
    have htarget := hreaches.target
    rw [htargets] at htarget
    exact StateSet.mem_ofList.1 htarget
  obtain ⟨fault, hshown⟩ := hreaches.shown
  -- The look is the lookup with its answer read, so the raw answer is still at hand.
  obtain ⟨answer, hanswer, hread⟩ := hshown.ofMap
  cases answer with
  | error e => cases hread
  | ok i =>
    have hi := Instance.normalized_counts (Except.ok.inj hread) (hstable status hmem)
    have hexchanges : ((leg.looks.map Query.Call.ofMap : List (query (.getInstance id)).Call).map
        Query.Call.exchange) = leg.looks.map Query.Call.exchange := Query.Call.map_ofMap leg.looks
    have hlooks := EndsSettled.of_looks hanswer hmem hi
    rw [hexchanges] at hlooks
    exact hlooks.append _

/-- **A cold change that succeeds ends with a lookup that shows the server running.** -/
theorem Resized.settled {ws : Workspace} {id : String} {update : InstanceUpdate} {r : Resize}
    {it : Resize.Itinerary instanceResource id update} {report : ChangeReport}
    (h : Resized ws r it (some (.ok report))) :
    EndsSettled id .ok [State.active] it.exchanges report.finalStatus := by
  have hfinal := (h.complete report rfl).final
  have htargets : r.start.target = .ofList [State.active] := by
    rw [h.start]
    rfl
  have hstable : ∀ s ∈ [State.active], s ∈ [State.active, State.shutoff] := fun s hs =>
    List.mem_cons.2 (.inl (List.mem_singleton.1 hs))
  exact (reaches_settled hfinal htargets hstable).append _

/-- A cold change as a resize, with what the resize reports. -/
theorem cold_resized (ws : Workspace) (R : Remote interface σ) (id : String)
    (update : InstanceUpdate) :
    Task.Ends (Workspace.settling do
      let resize ← ws.instanceResize
      resize.run R instanceResource id update) fun calls o =>
      ∃ (r : Resize) (it : Resize.Itinerary instanceResource id update),
        calls = it.exchanges ∧ r.stop.toPolicy = Preset.instanceStopped ∧
          r.start.toPolicy = Preset.resize.start ∧ r.retry = ws.config.retry ∧ it.Orderly r ∧
          ∀ report, o = some (.ok report) → it.Complete r report := by
  obtain ⟨r, hr, hstop, -, hstart, hretry⟩ := instanceResize_eq_ok ws
  rw [hr]
  refine .adapt ((r.run_ends R instanceResource id update).mono ?_)
  rintro _ o ⟨it, rfl, horderly, hcomplete, -⟩
  refine ⟨r, it, rfl, hstop, hstart, hretry, horderly, fun report ho => ?_⟩
  exact hcomplete report (Task.mapError_eq_some_ok.1 ho)

/-! ## 3. Hot changes -/

/-- A hot change that succeeds ends as its wait does. -/
theorem hot_settled (ws : Workspace) (R : Remote interface σ) (id : String)
    (update : InstanceUpdate) (plan : Plan) {wait : Operate σ String} {statuses : List String}
    (hwait : Task.Ends wait fun exchanges o =>
      ∀ status, o = some (.ok status) → EndsSettled id .ok statuses exchanges status) :
    Task.Ends (do
      discard (ws.insist R (.updateInstance id update))
      let finalStatus ← wait
      return { plan, finalStatus, stopSkipped := false } : Operate σ ChangeReport) fun calls o =>
      ∀ report, o = some (.ok report) →
        report.plan = plan ∧ EndsSettled id .ok statuses calls report.finalStatus := by
  refine .discard_bind (ws.insist_ends (.updateInstance id update)) (fun _ _ _ h => by cases h)
    (fun _ _ _ _ h => by cases h) fun before _ _ => ?_
  refine .bind hwait (fun _ _ _ h => by cases h) (fun _ _ _ _ h => by cases h) ?_
  intro looks status hlast
  refine .pure ?_
  rintro _ ⟨⟩
  rw [List.append_nil]
  exact ⟨rfl, (hlast status rfl).append before⟩

/-! ## 4. Changes -/

/-- The course of a change: the lookups to plan with, what comes after them, and the result. -/
structure Course (ws : Workspace) (id : String) (change : Change)
    (lookups : List (query (.getInstance id)).Call) (later : List (Exchange interface))
    (result : Option (Except OperationError ChangeReport)) : Prop where
  tries : Tries ws.config.retry.maxAttempts lookups
  /-- A change that succeeds reports its plan and the status that the server has shown last. -/
  reported : ∀ report, result = some (.ok report) → ∃ current, EndsWith lookups (.ok current) ∧
    change.plan current = .ok report.plan ∧
    EndsSettled id .ok (report.plan.statuses current) later report.finalStatus
  cold : ∀ current, EndsWith lookups (.ok current) → change.plan current = .ok .cold →
    ∃ (r : Resize) (it : Resize.Itinerary instanceResource id change.toUpdate),
      later = it.exchanges ∧ Resized ws r it result

namespace Course

variable {ws : Workspace} {id : String} {change : Change}
  {lookups : List (query (.getInstance id)).Call} {later : List (Exchange interface)}
  {result : Option (Except OperationError ChangeReport)}

/-- There is no server to plan with, and no success. -/
theorem of_lost (htries : Tries ws.config.retry.maxAttempts lookups)
    (hlost : ∀ current, ¬ EndsWith lookups (.ok current))
    (hfailed : ∀ report, result ≠ some (.ok report)) :
    Course ws id change lookups [] result where
  tries := htries
  reported report hreport := absurd hreport (hfailed report)
  cold current hends := absurd hends (hlost current)

theorem of_plan (htries : Tries ws.config.retry.maxAttempts lookups) {current : Instance}
    (hends : EndsWith lookups (.ok current))
    (hreported : ∀ report, result = some (.ok report) → change.plan current = .ok report.plan ∧
      EndsSettled id .ok (report.plan.statuses current) later report.finalStatus)
    (hcold : change.plan current = .ok .cold →
      ∃ (r : Resize) (it : Resize.Itinerary instanceResource id change.toUpdate),
        later = it.exchanges ∧ Resized ws r it result) :
    Course ws id change lookups later result where
  tries := htries
  reported report hreport := ⟨current, hends, hreported report hreport⟩
  cold other hother hplan := by
    have hsame : other = current := Except.ok.inj (hother.unique hends)
    rw [hsame] at hplan
    exact hcold hplan

end Course

theorem applyChange_course (ws : Workspace) (R : Remote interface σ) (id : String)
    (change : Change) :
    Task.Ends (ws.applyChange R id change) fun exchanges o =>
      ∃ lookups later, exchanges = lookups.map Query.Call.exchange ++ later ∧
        Course ws id change lookups later o := by
  unfold Workspace.applyChange
  refine .bind (ws.insist_ends (.getInstance id)) ?_ ?_ ?_
  · rintro _ ⟨lookups, rfl, htries, hlast⟩
    refine ⟨lookups, [], (List.append_nil _).symm, .of_lost htries (fun current hends => ?_) ?_⟩
    · exact absurd ((hlast current).2 hends) (by simp)
    · simp
  · rintro _ e ⟨lookups, rfl, htries, hlast⟩
    refine ⟨lookups, [], (List.append_nil _).symm, .of_lost htries (fun current hends => ?_) ?_⟩
    · exact absurd ((hlast current).2 hends) (by simp)
    · simp
  rintro _ current ⟨lookups, rfl, htries, hlast⟩
  have hends := (hlast current).1 rfl
  refine .lift_bind (fun e hplan => ?_) fun plan hplan => ?_
  · refine ⟨lookups, [], rfl, .of_plan htries hends (fun _ h => by cases h) fun hcold => ?_⟩
    rw [hplan] at hcold
    cases hcold
  cases plan with
  | hot wait =>
    have hwait := Change.plan_hot hplan
    -- Whichever wait it is, the change ends as it does.
    have hcourse : ∀ later (o : Option (Except OperationError ChangeReport)),
        (∀ report, o = some (.ok report) → report.plan = .hot wait ∧
          EndsSettled id .ok ((Plan.hot wait).statuses current) later report.finalStatus) →
        ∃ lookups' later', lookups.map Query.Call.exchange ++ later =
          lookups'.map Query.Call.exchange ++ later' ∧ Course ws id change lookups' later' o := by
      intro later o hsettled
      refine ⟨lookups, later, rfl, .of_plan htries hends (fun report ho => ?_) fun hcold => ?_⟩
      · obtain ⟨hreport, hlast⟩ := hsettled report ho
        rw [hreport]
        exact ⟨hplan, hlast⟩
      · rw [hplan] at hcold
        cases hcold
    by_cases hstopped : current.status = some State.shutoff
    · rw [if_pos hstopped] at hwait
      subst hwait
      have hstatuses : (Plan.hot .postResize).statuses current = [State.active, State.shutoff] :=
        if_pos hstopped
      rw [hstatuses] at hcourse
      exact (hot_settled ws R id change.toUpdate (.hot .postResize)
        (waitInstanceResized_settled ws R id)).mono hcourse
    · rw [if_neg hstopped] at hwait
      subst hwait
      have hstatuses : (Plan.hot .available).statuses current = [State.active] := if_neg hstopped
      rw [hstatuses] at hcourse
      exact (hot_settled ws R id change.toUpdate (.hot .available)
        (waitInstanceAvailable_settled ws R id .ok)).mono hcourse
  | cold =>
    -- The report of the resize becomes that of the change, and a failure stays one.
    have hcourse : ∀ (r : Resize) (it : Resize.Itinerary instanceResource id change.toUpdate)
        (o : Option (Except OperationError ChangeReport)), Resized ws r it o →
        (∀ report, o = some (.ok report) → report.plan = .cold) →
        Course ws id change lookups it.exchanges o := by
      intro r it o hresized hreport
      refine .of_plan htries hends (fun report ho => ?_) fun _ => ⟨r, it, rfl, hresized⟩
      subst ho
      rw [hreport report rfl]
      exact ⟨hplan, hresized.settled⟩
    refine .bind (cold_resized ws R id change.toUpdate) ?_ ?_ ?_
    · rintro _ ⟨r, it, rfl, hstop, hstart, hretry, horderly, -⟩
      exact ⟨lookups, _, rfl, hcourse r it none
        ⟨hstop, hstart, hretry, horderly, fun _ h => by cases h⟩ fun _ h => by cases h⟩
    · rintro _ e ⟨r, it, rfl, hstop, hstart, hretry, horderly, -⟩
      exact ⟨lookups, _, rfl, hcourse r it _
        ⟨hstop, hstart, hretry, horderly, fun _ h => by cases h⟩ fun _ h => by cases h⟩
    · rintro _ report ⟨r, it, rfl, hstop, hstart, hretry, horderly, hcomplete⟩
      refine .pure ⟨lookups, it.exchanges, by rw [List.append_nil], ?_⟩
      refine hcourse r it _ ⟨hstop, hstart, hretry, horderly, ?_⟩ ?_
      · rintro _ ⟨⟩
        exact hcomplete report rfl
      · rintro _ ⟨⟩
        rfl

/-! ## 5. Success -/

/-- **No operation on a server succeeds unless its last request shows the server in the status that
is reported, with ready health.** Which statuses these are depends on the operation, and for a
change also on whether the server was stopped when the change was planned. -/
theorem success_shown (ws : Workspace) (R : Remote interface σ) (id : String)
    (w : World interface σ) :
    (∀ op : ServerOperation, ∃ calls,
      ((op.run ws R id).run.runIn w).2.trace.toList = w.trace.toList ++ calls ∧
      ∀ status, ((op.run ws R id).run.runIn w).1 = some (.ok status) →
        EndsSettled id op.ready op.statuses calls status) ∧
    ∀ change : Change, ∃ (lookups : List (query (.getInstance id)).Call)
      (later : List (Exchange interface)),
      ((ws.applyChange R id change).run.runIn w).2.trace.toList =
        w.trace.toList ++ (lookups.map Query.Call.exchange ++ later) ∧
      ∀ report, ((ws.applyChange R id change).run.runIn w).1 = some (.ok report) →
        ∃ current, EndsWith lookups (.ok current) ∧ change.plan current = .ok report.plan ∧
          EndsSettled id .ok (report.plan.statuses current) later report.finalStatus := by
  refine ⟨fun op => ?_, fun change => ?_⟩
  · obtain ⟨calls, hlead, hsettled⟩ := op.run_settled ws R id w
    exact ⟨calls, hlead.trace_eq, hsettled⟩
  · obtain ⟨_, hlead, lookups, later, rfl, hcourse⟩ := applyChange_course ws R id change w
    exact ⟨lookups, later, hlead.trace_eq, hcourse.reported⟩

/-- A server that is started and warns at first. -/
def warmingServer : World interface Sandbox where
  remote :=
    let shown (status health : String) : Result Instance :=
      .ok { id := "pvm-1", status := some status, health := some health }
    { instances := [("pvm-1", [shown "ACTIVE" "WARNING", shown "ACTIVE" "OK"])] }

-- The warning is waited through.
example :
    ((({ cloudInstance := "cloud-1" } : Workspace).startInstance Sandbox.remote
        "pvm-1").run.runIn warmingServer).1 = some (Except.ok "ACTIVE") := by
  rfl

end Settle.Cloud
