/-
Which error a resize ends with.

A resize that fails does so in one of its phases, and the error that the caller gets is
the phase with the error of the step that failed. That step is a call, an inspection that
came to a fatal status or none at all, a fatal acknowledgement, or one of the two waits;
nothing but that error is wrapped, and none of it is about a setting, since there is time
for every wait of a resize.

The proof goes backwards from the error. A composed task fails with one of its parts, and
`Prepared` says what has been seen and done where a phase begins; the step that fails is
added to that. `run_attributed` puts the two together.
-/
import Settle.Proofs.Attempt
import Settle.Proofs.Faults
import Settle.Proofs.Resize.Jobs

set_option autoImplicit false

namespace Settle

variable {I : Interface} {σ ε ρ α : Type}

/-! ## 1. Errors of a step -/

/-- An error of a single step: it names no phase, and it is neither about a setting nor about an
identifier. -/
structure Error.Plain (e : Error) : Prop where
  not_inPhase : ∀ phase source, e ≠ .inPhase phase source
  not_configuration : ∀ detail, e ≠ .configuration detail
  not_structural : ∀ detail, e ≠ .structural detail

/-- An outcome that is no complaint about a policy means an error of a step. -/
theorem Outcome.plain {outcome : Outcome} {e : Error} (hresult : outcome.result = .error e)
    (hvalid : ∀ reason fault, outcome ≠ .failed reason fault .invalidPolicy) : e.Plain := by
  rcases outcome with status | ⟨reason, fault, kind⟩ | cause
  · cases hresult
  · cases kind with
    | invalidPolicy => exact absurd rfl (hvalid reason fault)
    | _ =>
      cases hresult
      exact ⟨by simp, by simp, by simp⟩
  · cases hresult
    exact ⟨by simp, by simp, by simp⟩

variable [RemoteFailure ε]

theorem Error.ofFailure_plain (e : ε) (attempts : Nat) : (Error.ofFailure e attempts).Plain := by
  unfold Error.ofFailure
  cases RemoteFailure.classify e <;> exact ⟨by simp, by simp, by simp⟩

theorem Retry.Fails.plain {heeds : Bool} {q : Query I (Except ε α)} {calls : List q.Call}
    {w : World I σ} {e : Error} (h : Fails heeds calls w e) : e.Plain := by
  cases h with
  | failed _ => exact Error.ofFailure_plain _ _
  | cancelled _ _ => exact ⟨by simp, by simp, by simp⟩

section Waits

variable {R : Remote I σ} {w w' : World I σ} {outcome : Outcome} {e : Error}

/-- A wait under a policy that makes sense does not complain about it. -/
theorem Wait.result_plain {s : Wait} {operation : Operation}
    {query : Query I (Except ε Reading)}
    (hrun : (s.run R operation query).runIn w = (some outcome, w'))
    (hresult : outcome.result = .error e) : e.Plain := by
  refine Outcome.plain hresult fun reason fault hinvalid => ?_
  obtain ⟨_, -, looks, -, -, hlast⟩ := Act.Yields.of_some s.run_spec hrun
  rcases hlast outcome rfl with ⟨cause, hcut⟩ | ⟨response, -, hverdict⟩
  · rw [hcut] at hinvalid
    cases hinvalid
  · rw [hinvalid, s.policy.verdict_eq_some_iff] at hverdict
    cases hverdict

/-- Neither does a wait for a job, if there is time for it. -/
theorem JobWait.result_plain {j : JobWait} {job : Query I (Except ε JobReport)} {timeout : Nat}
    (htimeout : 0 < timeout) (hrun : (j.run R job timeout).runIn w = (some outcome, w'))
    (hresult : outcome.result = .error e) : e.Plain := by
  rw [run_eq_wait htimeout] at hrun
  exact Wait.result_plain hrun hresult

end Waits

namespace Resize

/-! ## 2. Inspections that fail -/

/-- How an inspection fails after its calls: they came to nothing, or the last one showed a fatal
status or none. -/
inductive InspectionFails (r : Resize) {query : Query I (Except ε Reading)}
    (calls : List query.Call) (w : World I σ) : Error → Prop
  | refused {source : Error} (h : Retry.Fails r.heeds calls w source) :
    InspectionFails r calls w source
  | fatal {status : String} {fault : Option String}
    (hshown : EndsWith calls (.ok ⟨some status, fault⟩)) (hfatal : status ∈ r.stop.fatal) :
    InspectionFails r calls w (.remoteFault (r.stop.subject ++ " status " ++ status) fault)
  | missing {fault : Option String} (hshown : EndsWith calls (.ok ⟨none, fault⟩)) :
    InspectionFails r calls w (.invalidPayload (r.stop.subject ++ " status missing from response"))

section Inspection

variable {r : Resize} {R : Remote I σ} {query : Query I (Except ε Reading)} {w w' : World I σ}
  {source : Error}

theorem InspectionFails.plain {calls : List query.Call} (h : r.InspectionFails calls w source) :
    source.Plain := by
  cases h with
  | refused h => exact h.plain
  | fatal _ _ => exact ⟨by simp, by simp, by simp⟩
  | missing _ => exact ⟨by simp, by simp, by simp⟩

theorem inspect_fails (h : (r.inspect R query).run.runIn w = (some (.error source), w')) :
    ∃ calls : List query.Call, w.Leads (calls.map Query.Call.exchange) w' ∧
      Tries r.retry.maxAttempts calls ∧ r.InspectionFails calls w' source := by
  rw [inspect_eq] at h
  rcases Task.of_runIn_bind_error h with hcall | ⟨⟨status, fault⟩, w₁, hcall, hjudged⟩
  · obtain ⟨calls, hlead, htries, hfails⟩ := r.retry.call_fails hcall
    exact ⟨calls, hlead, htries, .refused hfails⟩
  · obtain ⟨_, hlead, calls, rfl, htries, hlast⟩ := (r.retry.call_spec r.heeds).of_ok hcall
    have hshown := hlast _ rfl
    change (some (r.inspected ⟨status, fault⟩), w₁) = (some (.error source), w') at hjudged
    rw [Prod.mk.injEq, Option.some.injEq] at hjudged
    obtain ⟨hjudged, rfl⟩ := hjudged
    refine ⟨calls, hlead, htries, ?_⟩
    cases status with
    | none =>
      cases hjudged
      exact .missing hshown
    | some status =>
      by_cases hfatal : status ∈ r.stop.fatal
      · simp only [inspected, if_pos hfatal] at hjudged
        cases hjudged
        exact .fatal hshown hfatal
      · simp only [inspected, if_neg hfatal] at hjudged
        cases hjudged

end Inspection

/-! ## 3. Phases that fail -/

variable {resource : Resource I ε ρ} {id : String} {action : Query I (Except ε Ack)} {payload : ρ}

/-- How the phase with this leg fails, from the world in which it begins to the one in which it
ends: its action came to nothing, the acknowledgement was fatal, or a wait ended otherwise than
it should. -/
inductive Leg.Fails (r : Resize) (R : Remote I σ) (p : ValidPolicy) (w w' : World I σ) :
    Leg resource id action → Error → Prop
  | refused {actions : List action.Call} {source : Error}
    (h : Retry.Fails r.heeds actions w' source) : Fails r R p w w' ⟨actions, [], []⟩ source
  | rejected {actions : List action.Call} {status : String}
    (hack : EndsWith actions (.ok (.status status))) (hfatal : status ∈ p.fatal) :
    Fails r R p w w' ⟨actions, [], []⟩ (.remoteFault (p.subject ++ " status " ++ status) none)
  | job {actions : List action.Call} {jobs : List ((job : String) × (resource.job job).Call)}
    {job : String} {w₁ : World I σ} {outcome : Outcome} {source : Error}
    (hack : EndsWith actions (.ok (.job job)))
    (hlead : w.Leads (actions.map Query.Call.exchange) w₁)
    (hrun : (r.jobWait.run R (resource.job job) p.timeout).runIn w₁ = (some outcome, w'))
    (hresult : outcome.result = .error source) : Fails r R p w w' ⟨actions, jobs, []⟩ source
  | wait {actions : List action.Call} {jobs : List ((job : String) × (resource.job job).Call)}
    {looks : List (resource.status id).Call} {w₁ : World I σ} {outcome : Outcome} {source : Error}
    (hlead : w.Leads (actions.map Query.Call.exchange ++ jobs.map (·.2.exchange)) w₁)
    (hrun : (Wait.run ⟨p, r.heeds⟩ R .update (resource.status id)).runIn w₁ =
      (some outcome, w'))
    (hresult : outcome.result = .error source) :
    Fails r R p w w' ⟨actions, jobs, looks⟩ source

section Phases

variable {r : Resize} {R : Remote I σ} {p : ValidPolicy} {phase : Phase} {w w' : World I σ}
  {source e : Error}

/-- There is time for the waits of a phase, so none of them complains. -/
theorem Leg.Fails.plain {leg : Leg resource id action} (h : leg.Fails r R p w w' source) :
    source.Plain := by
  cases h with
  | refused h => exact h.plain
  | rejected _ _ => exact ⟨by simp, by simp, by simp⟩
  | job _ _ hrun hresult =>
    exact JobWait.result_plain (Policy.timeout_pos p.valid) hrun hresult
  | wait _ hrun hresult => exact Wait.result_plain hrun hresult

/-- An acknowledgement that is not cleared is fatal or stands for a job whose wait did not
converge. -/
theorem await_fails {ack : Ack}
    (h : (r.await R resource.job p ack).run.runIn w = (some (.error source), w')) :
    (∃ status, ack = .status status ∧ status ∈ p.fatal ∧ w = w' ∧
      source = .remoteFault (p.subject ++ " status " ++ status) none) ∨
    ∃ job outcome, ack = .job job ∧
      (r.jobWait.run R (resource.job job) p.timeout).runIn w = (some outcome, w') ∧
      outcome.result = .error source := by
  cases ack with
  | accepted => cases h
  | status status =>
    by_cases hfatal : status ∈ p.fatal
    · simp only [await, if_pos hfatal] at h
      cases h
      exact .inl ⟨status, rfl, hfatal, rfl, rfl⟩
    · simp only [await, if_neg hfatal] at h
      cases h
  | job job =>
    obtain ⟨outcome, hrun, hresult⟩ := Act.of_runIn_map (Task.of_runIn_discard_error h)
    exact .inr ⟨job, outcome, rfl, hrun, hresult⟩

/-- **A phase that fails names itself in its error**, and its leg is orderly and tells why. -/
theorem act_fails (h : (r.act R resource id phase action p).run.runIn w = (some (.error e), w')) :
    ∃ (source : Error) (leg : Leg resource id action), e = .inPhase phase source ∧
      w.Leads leg.exchanges w' ∧ leg.Orderly r.retry.maxAttempts p ∧
      leg.Fails r R p w w' source := by
  obtain ⟨source, rfl, hphase⟩ := during_fails h
  rw [Task.runIn_bind_of_ok (Task.runIn_note _ _)] at hphase
  have hnoted := w.leads_note (.issuing phase)
  rcases Task.of_runIn_bind_error hphase with hcall | ⟨ack, w₁, hcall, hrest⟩
  · -- The action came to nothing.
    obtain ⟨actions, hlead, htries, hfails⟩ := r.retry.call_fails hcall
    refine ⟨source, ⟨actions, [], []⟩, rfl, ?_, .tried htries, .refused hfails⟩
    rw [Leg.exchanges_tried]
    exact hnoted.trans hlead
  obtain ⟨_, hlead, actions, rfl, htries, hends⟩ := (r.retry.call_spec r.heeds).of_ok hcall
  have hack := hends ack rfl
  have hacted := hnoted.trans hlead
  obtain ⟨_, hlead₁, jobs, rfl, hjobs, hcleared⟩ := r.await_spec id p hack (R := R) w₁
  rcases Task.of_runIn_bind_error hrest with hawait | ⟨⟨⟩, w₂, hawait, hwait⟩
  · -- The acknowledgement was not cleared.
    rw [hawait] at hlead₁
    rcases await_fails hawait with ⟨status, rfl, hfatal, rfl, rfl⟩ |
      ⟨job, outcome, rfl, hrun, hresult⟩
    · refine ⟨_, ⟨actions, [], []⟩, rfl, ?_, .tried htries, .rejected hack hfatal⟩
      rw [Leg.exchanges_tried]
      exact hacted
    · refine ⟨source, ⟨actions, jobs, []⟩, rfl, ?_, .unlooked htries hjobs,
        .job hack hacted hrun hresult⟩
      rw [Leg.exchanges_unlooked]
      exact hacted.trans hlead₁
  · -- The resource did not show what was waited for.
    rw [hawait] at hlead₁ hcleared
    obtain ⟨outcome, hrun, hresult⟩ := Act.of_runIn_map hwait
    obtain ⟨_, hlead₂, looks, rfl, hopen, -⟩ :=
      Act.Yields.of_some (Wait.settle_spec ⟨p, r.heeds⟩ (by decide)) hwait
    refine ⟨source, ⟨actions, jobs, looks⟩, rfl, (hacted.trans hlead₁).trans hlead₂,
      ⟨htries, hjobs, fun _ => ⟨ack, hack, hcleared rfl⟩, hopen⟩,
      .wait (hacted.trans hlead₁) hrun hresult⟩

end Phases

/-! ## 4. What has been seen where a phase begins -/

/-- The calls of a resize that begins a phase: what it has seen before lets it, and the phases from
there on have made none. -/
inductive Prepared (r : Resize) : Phase → Itinerary resource id payload → Prop
  | stopping {inspections : List (resource.status id).Call} {status : String}
    {fault : Option String} (htries : Tries r.retry.maxAttempts inspections)
    (hshown : EndsWith inspections (.ok ⟨some status, fault⟩)) (hrunning : status ∉ r.stop.target)
    (hfatal : status ∉ r.stop.fatal) : Prepared r .stopping ⟨inspections, {}, {}, {}⟩
  | skipping {inspections : List (resource.status id).Call} {status : String}
    {fault : Option String} (htries : Tries r.retry.maxAttempts inspections)
    (hshown : EndsWith inspections (.ok ⟨some status, fault⟩)) (hstopped : status ∈ r.stop.target) :
    Prepared r .mutating ⟨inspections, {}, {}, {}⟩
  | mutating {inspections : List (resource.status id).Call}
    {stop : Leg resource id (resource.stop id)} {stopped : String}
    (hstopping : (⟨inspections, stop, {}, {}⟩ : Itinerary resource id payload).Orderly r)
    (hreaches : stop.Reaches r.stop stopped) : Prepared r .mutating ⟨inspections, stop, {}, {}⟩
  | starting {inspections : List (resource.status id).Call}
    {stop : Leg resource id (resource.stop id)}
    {mutate : Leg resource id (resource.update id payload)} {landed : String}
    (hprepared : Prepared r .mutating ⟨inspections, stop, {}, {}⟩)
    (hmutate : mutate.Orderly r.retry.maxAttempts r.mutate)
    (hreaches : mutate.Reaches r.mutate landed) :
    Prepared r .starting ⟨inspections, stop, mutate, {}⟩

section Prepared

variable {r : Resize} {R : Remote I σ} {phase : Phase} {w w₁ : World I σ}
  {inspections : List (resource.status id).Call} {stop : Leg resource id (resource.stop id)}
  {mutate : Leg resource id (resource.update id payload)}
  {start : Leg resource id (resource.start id)}

/-- A resize that is prepared for the change may make it, and no call is out of order. -/
theorem Prepared.changing
    (h : Prepared r .mutating (⟨inspections, stop, {}, {}⟩ : Itinerary resource id payload))
    (hmutate : mutate.Orderly r.retry.maxAttempts r.mutate)
    (hstart : start.Orderly r.retry.maxAttempts r.start)
    (hbefore : start.exchanges ≠ [] → ∃ status, mutate.Reaches r.mutate status) :
    (⟨inspections, stop, mutate, start⟩ : Itinerary resource id payload).Orderly r := by
  cases h with
  | skipping htries hshown hstopped => exact .skipping htries hshown hstopped hmutate hstart hbefore
  | mutating hstopping hreaches => exact hstopping.changing hreaches hmutate hstart hbefore

/-- Where the change begins, only the inspection and the stop have made calls. -/
theorem Prepared.only_stopped {it : Itinerary resource id payload}
    (h : Prepared r .mutating it) : it = ⟨it.inspections, it.stop, {}, {}⟩ := by
  cases h <;> rfl

omit [RemoteFailure ε] in
theorem Itinerary.exchanges_mutating :
    (⟨inspections, stop, mutate, {}⟩ : Itinerary resource id payload).exchanges =
      (⟨inspections, stop, {}, {}⟩ : Itinerary resource id payload).exchanges ++
        mutate.exchanges := by
  simp [Itinerary.exchanges, Leg.exchanges]

omit [RemoteFailure ε] in
theorem Itinerary.exchanges_starting :
    (⟨inspections, stop, mutate, start⟩ : Itinerary resource id payload).exchanges =
      (⟨inspections, stop, mutate, {}⟩ : Itinerary resource id payload).exchanges ++
        start.exchanges := by
  simp [Itinerary.exchanges, Leg.exchanges]

/-- A status that needs no stop has been observed where the change begins, by the inspection or by
the last look of the stop. -/
theorem Prepared.stopped
    (h : Prepared r .mutating (⟨inspections, stop, {}, {}⟩ : Itinerary resource id payload)) :
    ∃ status ∈ r.stop.target, ∃ fault, EndsWith inspections (.ok ⟨some status, fault⟩) ∨
      EndsWith stop.looks (.ok ⟨some status, fault⟩) := by
  cases h with
  | skipping _ hshown hstopped => exact ⟨_, hstopped, _, .inl hshown⟩
  | mutating _ hreaches =>
    obtain ⟨fault, hshown⟩ := hreaches.shown
    exact ⟨_, hreaches.target, fault, .inr hshown⟩

/-- A leg that reaches a status had its action accepted. -/
theorem Leg.Reaches.acknowledged {leg : Leg resource id action} {p : ValidPolicy} {limit : Nat}
    {status : String} (h : leg.Reaches p status) (horderly : leg.Orderly limit p) :
    ∃ ack, EndsWith leg.actions (.ok ack) := by
  obtain ⟨fault, hshown⟩ := h.shown
  obtain ⟨ack, hack, -⟩ := horderly.looks hshown.ne_nil
  exact ⟨ack, hack⟩

/-- Where a resize begins a phase, it is prepared for it. By induction on the phases that are
behind. -/
theorem Begins.prepared (h : r.Begins R resource id payload w phase w₁) :
    ∃ it : Itinerary resource id payload, w.Leads it.exchanges w₁ ∧ Prepared r phase it := by
  have hinspected {current : String} {w₂ : World I σ}
      (hinspect : (during .inspecting (r.inspect R (resource.status id))).run.runIn w =
        (some (.ok current), w₂)) :
      ∃ (inspections : List (resource.status id).Call) (fault : Option String),
        w.Leads (inspections.map Query.Call.exchange) w₂ ∧
        Tries r.retry.maxAttempts inspections ∧ current ∉ r.stop.fatal ∧
        EndsWith inspections (.ok ⟨some current, fault⟩) := by
    obtain ⟨_, hlead, inspections, rfl, htries, hseen⟩ :=
      (Task.Yields.adapt (r.inspect_spec (resource.status id))).of_ok hinspect
    obtain ⟨hfatal, fault, hshown⟩ := hseen current rfl
    exact ⟨inspections, fault, hlead, htries, hfatal, hshown⟩
  induction h with
  | stopping hinspect hrunning =>
    obtain ⟨inspections, fault, hlead, htries, hfatal, hshown⟩ := hinspected hinspect
    refine ⟨⟨inspections, {}, {}, {}⟩, ?_, .stopping htries hshown hrunning hfatal⟩
    rw [Itinerary.exchanges_inspected]
    exact hlead
  | skipping hinspect hstopped =>
    obtain ⟨inspections, fault, hlead, htries, -, hshown⟩ := hinspected hinspect
    refine ⟨⟨inspections, {}, {}, {}⟩, ?_, .skipping htries hshown hstopped⟩
    rw [Itinerary.exchanges_inspected, ← List.append_nil (inspections.map _)]
    exact hlead.trans (World.leads_note _ _)
  | mutating _ hstop ih =>
    obtain ⟨_, hlead, hprepared⟩ := ih
    -- The stop went well, so its leg ends in a status in which the resource has stopped.
    obtain ⟨_, hlead', stop, rfl, hstop, hreaches⟩ :=
      (r.act_spec .stopping r.stop).of_ok hstop
    cases hprepared with
    | @stopping inspections status fault htries hshown hrunning hfatal =>
      refine ⟨⟨inspections, stop, {}, {}⟩, ?_,
        .mutating (.stopping htries hshown hrunning hfatal hstop) (hreaches _ rfl)⟩
      rw [Itinerary.exchanges_inspected] at hlead
      rw [Itinerary.exchanges_stopping]
      exact hlead.trans hlead'
  | starting _ hmutate ih =>
    obtain ⟨it, hlead, hprepared⟩ := ih
    obtain ⟨_, hlead', mutate, rfl, hmutate, hreaches⟩ :=
      (r.act_spec .mutating r.mutate).of_ok hmutate
    -- Stopped for the change or found stopped, it goes on in the same way.
    rw [hprepared.only_stopped] at hlead hprepared
    refine ⟨⟨it.inspections, it.stop, mutate, {}⟩, ?_,
      .starting hprepared hmutate (hreaches _ rfl)⟩
    rw [Itinerary.exchanges_mutating]
    exact hlead.trans hlead'

end Prepared

/-! ## 5. The resize as a whole -/

/-- To which phase a resize that fails attributes the error of which step, with the calls it has
made, from the world in which it begins to the one in which it ends. -/
inductive Attributed (r : Resize) (R : Remote I σ) (w w' : World I σ) :
    Phase → Error → Itinerary resource id payload → Prop
  /-- Nothing but the inspection was called. -/
  | inspecting {inspections : List (resource.status id).Call} {source : Error}
    (hfails : r.InspectionFails inspections w' source) :
    Attributed r R w w' .inspecting source ⟨inspections, {}, {}, {}⟩
  /-- The inspection has shown that a stop is needed, and nothing after the stop was called. -/
  | stopping {inspections : List (resource.status id).Call}
    {stop : Leg resource id (resource.stop id)} {status : String} {fault : Option String}
    {w₁ : World I σ} {source : Error}
    (hshown : EndsWith inspections (.ok ⟨some status, fault⟩)) (hrunning : status ∉ r.stop.target)
    (hlead : w.Leads (inspections.map Query.Call.exchange) w₁)
    (hfails : stop.Fails r R r.stop w₁ w' source) :
    Attributed r R w w' .stopping source ⟨inspections, stop, {}, {}⟩
  /-- A status that needs no stop has been observed, and nothing was started. -/
  | mutating {inspections : List (resource.status id).Call}
    {stop : Leg resource id (resource.stop id)}
    {mutate : Leg resource id (resource.update id payload)} {w₁ : World I σ} {source : Error}
    (hstopped : ∃ status ∈ r.stop.target, ∃ fault,
      EndsWith inspections (.ok ⟨some status, fault⟩) ∨
        EndsWith stop.looks (.ok ⟨some status, fault⟩))
    (hlead : w.Leads (inspections.map Query.Call.exchange ++ stop.exchanges) w₁)
    (hfails : mutate.Fails r R r.mutate w₁ w' source) :
    Attributed r R w w' .mutating source ⟨inspections, stop, mutate, {}⟩
  /-- The update was accepted, and after it a status in which it has landed was observed. -/
  | starting {inspections : List (resource.status id).Call}
    {stop : Leg resource id (resource.stop id)}
    {mutate : Leg resource id (resource.update id payload)}
    {start : Leg resource id (resource.start id)} {landed : String} {w₁ : World I σ}
    {source : Error} (hacknowledged : ∃ ack, EndsWith mutate.actions (.ok ack))
    (hlanded : mutate.Reaches r.mutate landed)
    (hlead : w.Leads (inspections.map Query.Call.exchange ++ stop.exchanges ++ mutate.exchanges) w₁)
    (hfails : start.Fails r R r.start w₁ w' source) :
    Attributed r R w w' .starting source ⟨inspections, stop, mutate, start⟩

section Run

variable {r : Resize} {R : Remote I σ} {phase : Phase} {w w₁ w' : World I σ} {source e : Error}

theorem Attributed.plain {it : Itinerary resource id payload}
    (h : r.Attributed R w w' phase source it) : source.Plain := by
  cases h with
  | inspecting hfails => exact hfails.plain
  | stopping _ _ _ hfails => exact hfails.plain
  | mutating _ _ hfails => exact hfails.plain
  | starting _ _ _ hfails => exact hfails.plain

/-- What is made of a change that fails. -/
theorem of_change_error {stopSkipped : Bool}
    (hbegins : r.Begins R resource id payload w .mutating w₁)
    (h : (r.change R resource id payload stopSkipped).run.runIn w₁ = (some (.error e), w')) :
    ∃ phase action p w₂, r.Begins R resource id payload w phase w₂ ∧
      r.Acts resource id payload phase action p ∧
      (r.act R resource id phase action p).run.runIn w₂ = (some (.error e), w') := by
  unfold change at h
  rw [Task.discard_bind_eq] at h
  rcases Task.of_runIn_bind_error h with hmutate | ⟨landed, w₂, hmutate, h⟩
  · exact ⟨.mutating, _, _, w₁, hbegins, .mutating, hmutate⟩
  rcases Task.of_runIn_bind_error h with hstart | ⟨status, w₃, -, h⟩
  · exact ⟨.starting, _, _, w₂, .starting hbegins hmutate, .starting, hstart⟩
  · rw [Task.runIn_bind_of_ok (Task.runIn_note _ _)] at h
    cases h

/-- **A resize fails with its inspection or with one of its actions**, which ends where the resize
does. -/
theorem of_run_error (h : (r.run R resource id payload).run.runIn w = (some (.error e), w')) :
    (during .inspecting (r.inspect R (resource.status id))).run.runIn w = (some (.error e), w') ∨
    ∃ phase action p w₂, r.Begins R resource id payload w phase w₂ ∧
      r.Acts resource id payload phase action p ∧
      (r.act R resource id phase action p).run.runIn w₂ = (some (.error e), w') := by
  rw [run_eq] at h
  rcases Task.of_runIn_bind_error h with hinspect | ⟨current, w₂, hinspect, h⟩
  · exact .inl hinspect
  right
  split at h
  · rename_i hstopped
    rw [Task.runIn_bind_of_ok (Task.runIn_note _ _)] at h
    exact of_change_error (.skipping hinspect hstopped) h
  · rename_i hrunning
    rw [Task.discard_bind_eq] at h
    rcases Task.of_runIn_bind_error h with hstop | ⟨stopped, w₃, hstop, h⟩
    · exact ⟨.stopping, _, _, w₂, .stopping hinspect hrunning, .stopping, hstop⟩
    · exact of_change_error (.mutating (.stopping hinspect hrunning) hstop) h

/-- An action that fails where the resize is prepared for it. -/
theorem Prepared.attributed {action : Query I (Except ε Ack)} {p : ValidPolicy}
    {it : Itinerary resource id payload} {leg : Leg resource id action}
    (hprepared : Prepared r phase it) (hacts : r.Acts resource id payload phase action p)
    (hlead : w.Leads it.exchanges w₁) (horderly : leg.Orderly r.retry.maxAttempts p)
    (hfails : leg.Fails r R p w₁ w' source) :
    ∃ it' : Itinerary resource id payload, it'.exchanges = it.exchanges ++ leg.exchanges ∧
      it'.Orderly r ∧ r.Attributed R w w' phase source it' := by
  cases hacts with
  | stopping =>
    cases hprepared with
    | @stopping inspections status fault htries hshown hrunning hfatal =>
      rw [Itinerary.exchanges_inspected] at hlead ⊢
      exact ⟨⟨inspections, leg, {}, {}⟩, Itinerary.exchanges_stopping,
        .stopping htries hshown hrunning hfatal horderly, .stopping hshown hrunning hlead hfails⟩
  | mutating =>
    have hshape := hprepared.only_stopped
    rw [hshape] at hlead hprepared ⊢
    refine ⟨⟨it.inspections, it.stop, leg, {}⟩, Itinerary.exchanges_mutating,
      hprepared.changing horderly .empty fun h => absurd rfl h, ?_⟩
    rw [Itinerary.exchanges_stopping] at hlead
    exact .mutating hprepared.stopped hlead hfails
  | starting =>
    cases hprepared with
    | @starting inspections stop mutate landed hprepared hmutate hreaches =>
      refine ⟨⟨inspections, stop, mutate, leg⟩, Itinerary.exchanges_starting,
        hprepared.changing hmutate horderly fun _ => ⟨landed, hreaches⟩, ?_⟩
      rw [Itinerary.exchanges_mutating, Itinerary.exchanges_stopping] at hlead
      exact .starting (hreaches.acknowledged hmutate) hreaches hlead hfails

/-- **An error of a resize names the phase in which it failed and wraps the error of the step that
failed**, which is neither wrapped again nor about a setting or an identifier. The calls up to it
are in order, and they are those of this phase and the ones before. -/
theorem run_attributed (h : (r.run R resource id payload).run.runIn w = (some (.error e), w')) :
    ∃ (phase : Phase) (source : Error) (it : Itinerary resource id payload),
      e = .inPhase phase source ∧ source.Plain ∧
        w'.trace.toList = w.trace.toList ++ it.exchanges ∧ it.Orderly r ∧
        r.Attributed R w w' phase source it := by
  rcases of_run_error h with hinspect | ⟨phase, action, p, w₁, hbegins, hacts, hact⟩
  · obtain ⟨source, rfl, hfailed⟩ := during_fails hinspect
    obtain ⟨inspections, hlead, htries, hfails⟩ := inspect_fails hfailed
    refine ⟨.inspecting, source, ⟨inspections, {}, {}, {}⟩, rfl, hfails.plain, ?_,
      .inspected htries, .inspecting hfails⟩
    rw [Itinerary.exchanges_inspected]
    exact hlead.trace_eq
  · -- What was seen before the action is in the calls that lead to it, why it fails in its own.
    obtain ⟨it, hlead, hprepared⟩ := hbegins.prepared
    obtain ⟨source, leg, rfl, hlead', horderly, hfails⟩ := act_fails hact
    obtain ⟨it', hexchanges, horderly', hattributed⟩ :=
      hprepared.attributed hacts hlead horderly hfails
    refine ⟨phase, source, it', rfl, hattributed.plain, ?_, horderly', hattributed⟩
    rw [hexchanges]
    exact (hlead.trans hlead').trace_eq

end Run

/-! ## 6. A database that fails to grow -/

/-- A database is stopped to grow, and started again. -/
def growth : Resize where
  stop := ⟨{ timeout := 60000, target := .ofList ["stopped"] }, by decide⟩
  mutate := ⟨{ timeout := 60000, target := .ofList ["stopped"] }, by decide⟩
  start := ⟨{ timeout := 60000, target := .ofList ["running"] }, by decide⟩

/-- The job as which the database goes on to grow is not there. -/
theorem run_attributed_growingDatabase :
    ∃ e w', (growth.run Rehearsal.remote Rehearsal.resource "db" 4).run.runIn growingDatabase =
        (some (.error e), w') ∧
      e = .inPhase .mutating (.notFound "job not found: job:grow-1 not found") ∧
      ∃ it : Itinerary Rehearsal.resource "db" 4,
        w'.trace.toList.map (fun call => Rehearsal.Request.label call.request) =
          ["status:db", "update:db:4", "job:grow-1"] ∧
        w'.trace.toList = it.exchanges ∧
        growth.Attributed Rehearsal.remote growingDatabase w' .mutating
          (.notFound "job not found: job:grow-1 not found") it := by
  have hresult : ((growth.run Rehearsal.remote Rehearsal.resource "db" 4).run.runIn
      growingDatabase).1 =
        some (.error (.inPhase .mutating (.notFound "job not found: job:grow-1 not found"))) := by
    decide +kernel
  obtain ⟨phase, source, it, he, -, htrace, -, hattributed⟩ :=
    run_attributed (Prod.ext hresult rfl)
  cases he
  refine ⟨_, _, Prod.ext hresult rfl, rfl, it, ?_, htrace, hattributed⟩
  decide +kernel

/-- A database is reported without a status. -/
def silentDatabase : World Rehearsal.interface Rehearsal where
  remote := { readings := [{ response := .ok {} }] }

/-- The inspection of the silent database fails although its call does not, no status is fatal,
nobody cancels, and no wait has begun. -/
theorem silentDatabase_other_source :
    let outcome := (growth.run Rehearsal.remote Rehearsal.resource "db" 4).run.runIn silentDatabase
    ∃ source, outcome.1 = some (.error (.inPhase .inspecting source)) ∧
      outcome.2.trace.toList.map (fun call => Rehearsal.Request.label call.request) =
        ["status:db"] ∧ outcome.2.log = #[] ∧
      (∀ (e : Rehearsal.Failure) attempts, source ≠ .ofFailure e attempts) ∧
      (∀ reason fault, source ≠ .remoteFault reason fault) ∧
      ∀ cancelled, source ≠ .timedOut cancelled := by
  refine ⟨.invalidPayload "resource status missing from response", by decide +kernel,
    by decide +kernel, by decide +kernel, fun e attempts => ?_, by simp, by simp⟩
  unfold Error.ofFailure
  cases RemoteFailure.classify e <;> simp

end Resize

end Settle
