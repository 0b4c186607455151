/-
The order of the calls of a resize.

All calls that the `run` of a resize makes lie on an itinerary: the inspection, then one
leg for each of the three actions, where a leg is the action with its repetitions, the
looks at the job that it goes on as, and the looks at the resource. An itinerary is
orderly if each part of it is there only for the reason it should be. However a resize
ends, its calls are those of an orderly itinerary; that a later leg is empty whenever an
earlier one came to nothing is part of being orderly.

The proof follows the program. `inspect`, `await`, `act` and what comes after the
stop have a spec each, and `run_ordered` puts them together.
-/
import Settle.Proofs.Jobs
import Settle.Resize

set_option autoImplicit false

namespace Settle

variable {I : Interface} {σ ε ρ : Type}

/-- How many phases come before this one. -/
def Phase.rank : Phase → Nat
  | .inspecting => 0
  | .stopping => 1
  | .mutating => 2
  | .starting => 3

namespace Resize

/-! ## 1. Itineraries -/

/-- The calls of one phase: the action as often as it is tried, then its job, then the
resource. -/
structure Leg (resource : Resource I ε ρ) (id : String) (action : Query I (Except ε Ack)) where
  actions : List action.Call := []
  jobs : List ((job : String) × (resource.job job).Call) := []
  looks : List (resource.status id).Call := []

/-- The calls of a resize, phase by phase. -/
structure Itinerary (resource : Resource I ε ρ) (id : String) (payload : ρ) where
  inspections : List (resource.status id).Call := []
  stop : Leg resource id (resource.stop id) := {}
  mutate : Leg resource id (resource.update id payload) := {}
  start : Leg resource id (resource.start id) := {}

/-- The last exchange is a look that shows one of the states. -/
def EndsInState (query : Query I (Except ε Reading)) (exchanges : List (Exchange I))
    (states : StateSet) : Prop :=
  ∃ c : query.Call, exchanges.getLast? = some c.exchange ∧
    ∃ status ∈ states, ∃ fault, c.result = .ok ⟨some status, fault⟩

theorem endsInState {query : Query I (Except ε Reading)} {states : StateSet} {status : String}
    {fault : Option String} {calls : List query.Call} (before : List (Exchange I))
    (hstatus : status ∈ states) (hends : EndsWith calls (.ok ⟨some status, fault⟩)) :
    EndsInState query (before ++ calls.map Query.Call.exchange) states := by
  obtain ⟨c, hc, hresult⟩ := hends
  refine ⟨c, ?_, status, hstatus, fault, hresult⟩
  rw [List.getLast?_append, List.getLast?_map, hc]
  rfl

/-- What comes before does not matter to the last exchange. -/
theorem EndsInState.append {query : Query I (Except ε Reading)} {exchanges : List (Exchange I)}
    {states : StateSet} (h : EndsInState query exchanges states) (before : List (Exchange I)) :
    EndsInState query (before ++ exchanges) states := by
  obtain ⟨c, hc, hshown⟩ := h
  refine ⟨c, ?_, hshown⟩
  rw [List.getLast?_append, hc, Option.some_or]

/-- If nothing but looks of one query came before, the state that was reached is that of the last
look. -/
theorem EndsInState.endsWith {query : Query I (Except ε Reading)} {calls : List query.Call}
    {states : StateSet} (h : EndsInState query (calls.map Query.Call.exchange) states) :
    ∃ status ∈ states, ∃ fault, EndsWith calls (.ok ⟨some status, fault⟩) := by
  obtain ⟨⟨time, answer⟩, hlast, status, hstatus, fault, hresult⟩ := h
  rw [List.getLast?_map, Option.map_eq_some_iff] at hlast
  obtain ⟨d, hd, hsame⟩ := hlast
  cases hsame
  exact ⟨status, hstatus, fault, d, hd, hresult⟩

variable {resource : Resource I ε ρ} {id : String} {action : Query I (Except ε Ack)} {payload : ρ}

namespace Leg

/-- The exchanges of a leg, in order. -/
def exchanges (leg : Leg resource id action) : List (Exchange I) :=
  leg.actions.map Query.Call.exchange ++ leg.jobs.map (·.2.exchange) ++
    leg.looks.map Query.Call.exchange

/-- What an acknowledgement asks for before the resource is looked at: its status is not
fatal, and its job has been looked at until it was complete. -/
def Cleared (leg : Leg resource id action) (p : ValidPolicy) : Ack → Prop
  | .accepted => True
  | .status status => status ∉ p.fatal
  | .job job => ∃ calls : List (resource.job job).Call, leg.jobs = calls.map (Sigma.mk job) ∧
    ∃ report, EndsWith calls (.ok report) ∧ report.IsComplete

variable [RemoteFailure ε]

/-- The calls of a leg come in order: the action is tried no more than `limit` times and
again only after a passing failure; a job is looked at only if the action went on as
that job; the resource is looked at only once the acknowledgement is cleared, and no
more after a look that settles the wait. -/
structure Orderly (leg : Leg resource id action) (limit : Nat) (p : ValidPolicy) : Prop where
  tries : Tries limit leg.actions
  jobs : ∀ c ∈ leg.jobs, EndsWith leg.actions (.ok (.job c.1))
  looks : leg.looks ≠ [] → ∃ ack, EndsWith leg.actions (.ok ack) ∧ leg.Cleared p ack
  unsettled : AllButLast (fun c => p.verdict .update c.result = none) leg.looks

theorem Orderly.empty {limit : Nat} {p : ValidPolicy} :
    ({} : Leg resource id action).Orderly limit p where
  tries := .nil
  jobs _ hc := absurd hc List.not_mem_nil
  looks h := absurd rfl h
  unsettled := .nil

section Parts

variable {actions : List action.Call} {jobs : List ((job : String) × (resource.job job).Call)}
  {looks : List (resource.status id).Call} {limit : Nat} {p : ValidPolicy}

/-- A leg without looks at the resource. -/
theorem Orderly.unlooked (htries : Tries limit actions)
    (hjobs : ∀ c ∈ jobs, EndsWith actions (.ok (.job c.1))) :
    (⟨actions, jobs, []⟩ : Leg resource id action).Orderly limit p where
  tries := htries
  jobs := hjobs
  looks h := absurd rfl h
  unsettled := .nil

/-- A leg without looks at anything. -/
theorem Orderly.tried (htries : Tries limit actions) :
    (⟨actions, [], []⟩ : Leg resource id action).Orderly limit p :=
  .unlooked htries fun _ hc => absurd hc List.not_mem_nil

omit [RemoteFailure ε] in
theorem exchanges_unlooked :
    (⟨actions, jobs, []⟩ : Leg resource id action).exchanges =
      actions.map Query.Call.exchange ++ jobs.map (·.2.exchange) := List.append_nil _

omit [RemoteFailure ε] in
theorem exchanges_tried :
    (⟨actions, [], []⟩ : Leg resource id action).exchanges = actions.map Query.Call.exchange := by
  rw [exchanges_unlooked, List.map_nil, List.append_nil]

omit [RemoteFailure ε] in
theorem exchanges_looked :
    (⟨actions, jobs, looks⟩ : Leg resource id action).exchanges =
      actions.map Query.Call.exchange ++
        (jobs.map (·.2.exchange) ++ looks.map Query.Call.exchange) := List.append_assoc ..

end Parts

/-- Without its action there is nothing to a leg. -/
theorem Orderly.actions_ne_nil {leg : Leg resource id action} {limit : Nat} {p : ValidPolicy}
    (h : leg.Orderly limit p) (hne : leg.exchanges ≠ []) : leg.actions ≠ [] := by
  intro hnone
  have hnever : ∀ result, ¬ EndsWith leg.actions result := fun result hends => hends.ne_nil hnone
  have hjobs : leg.jobs = [] :=
    List.eq_nil_iff_forall_not_mem.2 fun c hc => hnever _ (h.jobs c hc)
  have hlooks : leg.looks = [] := by
    refine Decidable.byContradiction fun hlooks => ?_
    obtain ⟨ack, hack, -⟩ := h.looks hlooks
    exact hnever _ hack
  refine hne ?_
  unfold exchanges
  rw [hnone, hjobs, hlooks]
  rfl

/-- The leg ends with a look that shows a target status. -/
structure Reaches (leg : Leg resource id action) (p : ValidPolicy) (status : String) : Prop where
  target : status ∈ p.target
  shown : ∃ fault, EndsWith leg.looks (.ok ⟨some status, fault⟩)

omit [RemoteFailure ε] in
theorem Reaches.exchanges_ne_nil {leg : Leg resource id action} {p : ValidPolicy}
    {status : String} (h : leg.Reaches p status) : leg.exchanges ≠ [] := by
  obtain ⟨fault, hends⟩ := h.shown
  intro hnil
  have hlooks := (List.append_eq_nil_iff.1 hnil).2
  exact hends.ne_nil (List.map_eq_nil_iff.1 hlooks)

end Leg

namespace Itinerary

/-- The exchanges of an itinerary, in order. -/
def exchanges (it : Itinerary resource id payload) : List (Exchange I) :=
  it.inspections.map Query.Call.exchange ++ it.stop.exchanges ++ it.mutate.exchanges ++
    it.start.exchanges

/-- The exchanges of one phase. -/
def part (it : Itinerary resource id payload) : Phase → List (Exchange I)
  | .inspecting => it.inspections.map Query.Call.exchange
  | .stopping => it.stop.exchanges
  | .mutating => it.mutate.exchanges
  | .starting => it.start.exchanges

/-- Every exchange of an itinerary is one of some phase. -/
theorem exists_mem_part {it : Itinerary resource id payload} {e : Exchange I}
    (h : e ∈ it.exchanges) :
    ∃ phase, e ∈ it.part phase := by
  unfold exchanges at h
  simp only [List.mem_append] at h
  rcases h with ((h | h) | h) | h
  · exact ⟨.inspecting, h⟩
  · exact ⟨.stopping, h⟩
  · exact ⟨.mutating, h⟩
  · exact ⟨.starting, h⟩

/-- The itinerary of a resize that failed with this error: the error names a phase, and no
phase after it has begun. -/
def Abandoned (it : Itinerary resource id payload) (e : Error) : Prop :=
  ∃ phase source, e = .inPhase phase source ∧
    ∀ later : Phase, phase.rank < later.rank → it.part later = []

section Exchanges

variable {inspections : List (resource.status id).Call}
  {stop : Leg resource id (resource.stop id)}
  {mutate : Leg resource id (resource.update id payload)}
  {start : Leg resource id (resource.start id)}

theorem exchanges_inspected :
    (⟨inspections, {}, {}, {}⟩ : Itinerary resource id payload).exchanges =
      inspections.map Query.Call.exchange := by
  simp [exchanges, Leg.exchanges]

theorem exchanges_stopping :
    (⟨inspections, stop, {}, {}⟩ : Itinerary resource id payload).exchanges =
      inspections.map Query.Call.exchange ++ stop.exchanges := by
  simp [exchanges, Leg.exchanges]

theorem exchanges_skipping :
    (⟨inspections, {}, mutate, start⟩ : Itinerary resource id payload).exchanges =
      inspections.map Query.Call.exchange ++ (mutate.exchanges ++ start.exchanges) := by
  simp [exchanges, Leg.exchanges]

theorem exchanges_changing :
    (⟨inspections, stop, mutate, start⟩ : Itinerary resource id payload).exchanges =
      inspections.map Query.Call.exchange ++
        (stop.exchanges ++ (mutate.exchanges ++ start.exchanges)) := by
  simp [exchanges]

theorem abandoned_inspecting (source : Error) :
    (⟨inspections, {}, {}, {}⟩ : Itinerary resource id payload).Abandoned
      (.inPhase .inspecting source) := by
  refine ⟨.inspecting, source, rfl, fun later hlater => ?_⟩
  cases later with
  | inspecting => exact absurd hlater (by decide)
  | stopping => rfl
  | mutating => rfl
  | starting => rfl

theorem abandoned_stopping (source : Error) :
    (⟨inspections, stop, {}, {}⟩ : Itinerary resource id payload).Abandoned
      (.inPhase .stopping source) := by
  refine ⟨.stopping, source, rfl, fun later hlater => ?_⟩
  cases later with
  | inspecting => exact absurd hlater (by decide)
  | stopping => exact absurd hlater (by decide)
  | mutating => rfl
  | starting => rfl

theorem abandoned_mutating (source : Error) (hstart : start.exchanges = []) :
    (⟨inspections, stop, mutate, start⟩ : Itinerary resource id payload).Abandoned
      (.inPhase .mutating source) := by
  refine ⟨.mutating, source, rfl, fun later hlater => ?_⟩
  cases later with
  | inspecting => exact absurd hlater (by decide)
  | stopping => exact absurd hlater (by decide)
  | mutating => exact absurd hlater (by decide)
  | starting => exact hstart

/-- No phase comes after the last one. -/
theorem abandoned_starting (it : Itinerary resource id payload) (source : Error) :
    it.Abandoned (.inPhase .starting source) := by
  refine ⟨.starting, source, rfl, fun later hlater => ?_⟩
  cases later <;> exact absurd hlater (by decide)

end Exchanges

variable [RemoteFailure ε]

/-- The calls of an itinerary come in order: the stop is issued only if the inspection
shows a status that needs one, the change only right after a look that shows a target
status of the stop, and the start only right after a look of the mutating phase that
shows a target status of the change. -/
structure Orderly (it : Itinerary resource id payload) (r : Resize) : Prop where
  inspections : Tries r.retry.maxAttempts it.inspections
  stop : it.stop.Orderly r.retry.maxAttempts r.stop
  mutate : it.mutate.Orderly r.retry.maxAttempts r.mutate
  start : it.start.Orderly r.retry.maxAttempts r.start
  before_stop : it.stop.exchanges ≠ [] →
    ∃ status fault, EndsWith it.inspections (.ok ⟨some status, fault⟩) ∧
      status ∉ r.stop.target ∧ status ∉ r.stop.fatal
  before_mutate : it.mutate.exchanges ≠ [] →
    EndsInState (resource.status id)
      (it.inspections.map Query.Call.exchange ++ it.stop.exchanges) r.stop.target
  before_start : it.start.exchanges ≠ [] → ∃ status, it.mutate.Reaches r.mutate status

section Orderly

variable {r : Resize} {inspections : List (resource.status id).Call}
  {stop : Leg resource id (resource.stop id)}
  {mutate : Leg resource id (resource.update id payload)}
  {start : Leg resource id (resource.start id)} {status : String} {fault : Option String}

/-- A resize may end with its inspection. -/
theorem Orderly.inspected (htries : Tries r.retry.maxAttempts inspections) :
    (⟨inspections, {}, {}, {}⟩ : Itinerary resource id payload).Orderly r where
  inspections := htries
  stop := .empty
  mutate := .empty
  start := .empty
  before_stop h := absurd rfl h
  before_mutate h := absurd rfl h
  before_start h := absurd rfl h

/-- A resource that is stopped already is changed at once. -/
theorem Orderly.skipping (htries : Tries r.retry.maxAttempts inspections)
    (hshown : EndsWith inspections (.ok ⟨some status, fault⟩)) (hstopped : status ∈ r.stop.target)
    (hmutate : mutate.Orderly r.retry.maxAttempts r.mutate)
    (hstart : start.Orderly r.retry.maxAttempts r.start)
    (hbefore : start.exchanges ≠ [] → ∃ status, mutate.Reaches r.mutate status) :
    (⟨inspections, {}, mutate, start⟩ : Itinerary resource id payload).Orderly r where
  inspections := htries
  stop := .empty
  mutate := hmutate
  start := hstart
  before_stop h := absurd rfl h
  before_mutate _ := by
    have hends := endsInState [] hstopped hshown
    rw [List.nil_append] at hends
    rw [show ({} : Leg resource id (resource.stop id)).exchanges = [] from rfl, List.append_nil]
    exact hends
  before_start := hbefore

/-- A resize may end with the stop. -/
theorem Orderly.stopping (htries : Tries r.retry.maxAttempts inspections)
    (hshown : EndsWith inspections (.ok ⟨some status, fault⟩)) (hrunning : status ∉ r.stop.target)
    (hfatal : status ∉ r.stop.fatal) (hstop : stop.Orderly r.retry.maxAttempts r.stop) :
    (⟨inspections, stop, {}, {}⟩ : Itinerary resource id payload).Orderly r where
  inspections := htries
  stop := hstop
  mutate := .empty
  start := .empty
  before_stop _ := ⟨status, fault, hshown, hrunning, hfatal⟩
  before_mutate h := absurd rfl h
  before_start h := absurd rfl h

/-- Once the stop has reached a target status, the resource is changed. -/
theorem Orderly.changing
    (hstopping : (⟨inspections, stop, {}, {}⟩ : Itinerary resource id payload).Orderly r)
    {stopped : String} (hreaches : stop.Reaches r.stop stopped)
    (hmutate : mutate.Orderly r.retry.maxAttempts r.mutate)
    (hstart : start.Orderly r.retry.maxAttempts r.start)
    (hbefore : start.exchanges ≠ [] → ∃ status, mutate.Reaches r.mutate status) :
    (⟨inspections, stop, mutate, start⟩ : Itinerary resource id payload).Orderly r where
  inspections := hstopping.inspections
  stop := hstopping.stop
  mutate := hmutate
  start := hstart
  before_stop := hstopping.before_stop
  before_mutate _ := by
    obtain ⟨fault, hshown⟩ := hreaches.shown
    unfold Leg.exchanges
    rw [← List.append_assoc]
    exact endsInState _ hreaches.target hshown
  before_start := hbefore

end Orderly

/-- The itinerary of a resize that is through. -/
structure Complete (it : Itinerary resource id payload) (r : Resize) (report : ResizeReport) :
    Prop where
  final : it.start.Reaches r.start report.finalStatus
  skipped : report.stopSkipped = true ↔ it.stop.exchanges = []

section Skipping

variable {it : Itinerary resource id payload} {r : Resize} {status : String}
  {fault : Option String}

/-- A resource that is inspected in a target state of the stop is not stopped. -/
theorem Orderly.stop_eq_nil (hit : it.Orderly r)
    (hshown : EndsWith it.inspections (.ok ⟨some status, fault⟩))
    (hstopped : status ∈ r.stop.target) : it.stop.exchanges = [] := by
  refine Decidable.byContradiction fun hne => ?_
  obtain ⟨status', fault', hshown', hrunning, -⟩ := hit.before_stop hne
  have hsame := Except.ok.inj (hshown.unique hshown')
  cases hsame
  exact hrunning hstopped

/-- Without a stop, only an inspection in a target state of the stop lets anything be changed. -/
theorem Orderly.inspected_target (hit : it.Orderly r) (hstop : it.stop.exchanges = [])
    (hmutate : it.mutate.exchanges ≠ []) :
    ∃ status ∈ r.stop.target, ∃ fault, EndsWith it.inspections (.ok ⟨some status, fault⟩) := by
  have hbefore := hit.before_mutate hmutate
  rw [hstop, List.append_nil] at hbefore
  exact hbefore.endsWith

/-- Nothing is asked for after the inspection unless it has shown a status. -/
theorem Orderly.inspected_of_ne_nil (hit : it.Orderly r)
    (hne : it.stop.exchanges ++ (it.mutate.exchanges ++ it.start.exchanges) ≠ []) :
    ∃ status fault, EndsWith it.inspections (.ok ⟨some status, fault⟩) := by
  by_cases hstop : it.stop.exchanges = []
  · have hmutate : it.mutate.exchanges ≠ [] := by
      intro hmutate
      rw [hstop, hmutate, List.nil_append, List.nil_append] at hne
      obtain ⟨_, hreaches⟩ := hit.before_start hne
      exact hreaches.exchanges_ne_nil hmutate
    obtain ⟨status, -, fault, hshown⟩ := hit.inspected_target hstop hmutate
    exact ⟨status, fault, hshown⟩
  · obtain ⟨status, fault, hshown, -⟩ := hit.before_stop hstop
    exact ⟨status, fault, hshown⟩

/-- **A resize that is through has skipped the stop exactly if the inspection showed a target state
of the stop.** -/
theorem Complete.skipped_iff {report : ResizeReport} (h : it.Complete r report) (hit : it.Orderly r)
    (hshown : EndsWith it.inspections (.ok ⟨some status, fault⟩)) :
    report.stopSkipped = true ↔ status ∈ r.stop.target := by
  rw [h.skipped]
  refine ⟨fun hstop => ?_, hit.stop_eq_nil hshown⟩
  obtain ⟨_, hreaches⟩ := hit.before_start h.final.exchanges_ne_nil
  obtain ⟨status', htarget, fault', hshown'⟩ :=
    hit.inspected_target hstop hreaches.exchanges_ne_nil
  have hsame := Except.ok.inj (hshown.unique hshown')
  cases hsame
  exact htarget

end Skipping

end Itinerary

/-! ## 2. One phase -/

variable [RemoteFailure ε] {R : Remote I σ}

/-- An inspection succeeds with a status that is not fatal. -/
theorem inspect_spec (r : Resize) (query : Query I (Except ε Reading)) :
    Task.Yields (r.inspect R query) fun exchanges o =>
      ∃ calls : List query.Call, exchanges = calls.map Query.Call.exchange ∧
        Tries r.retry.maxAttempts calls ∧
        ∀ status, o = some status →
          status ∉ r.stop.fatal ∧ ∃ fault, EndsWith calls (.ok ⟨some status, fault⟩) := by
  unfold inspect
  refine .bind (r.retry.call_spec r.heeds) ?_ ?_
  · rintro _ ⟨calls, rfl, htries, -⟩
    exact ⟨calls, rfl, htries, fun _ h => by cases h⟩
  · rintro _ ⟨status, fault⟩ ⟨calls, rfl, htries, hends⟩
    simp only
    cases status with
    | none =>
      refine .throw ?_
      rw [List.append_nil]
      exact ⟨calls, rfl, htries, fun _ h => by cases h⟩
    | some status =>
      simp only
      split
      · refine .throw ?_
        rw [List.append_nil]
        exact ⟨calls, rfl, htries, fun _ h => by cases h⟩
      · refine .pure ?_
        rw [List.append_nil]
        refine ⟨calls, rfl, htries, ?_⟩
        rintro _ ⟨⟩
        exact ⟨‹_›, fault, hends _ rfl⟩

/-- Nothing but the job of an acknowledgement is looked at for it. -/
theorem await_spec (r : Resize) (id : String) (p : ValidPolicy) {actions : List action.Call}
    {ack : Ack}
    (hack : EndsWith actions (.ok ack)) :
    Task.Yields (r.await R resource.job p ack) fun exchanges o =>
      ∃ jobs : List ((job : String) × (resource.job job).Call),
        exchanges = jobs.map (·.2.exchange) ∧
        (∀ c ∈ jobs, EndsWith actions (.ok (.job c.1))) ∧
        (o = some () → (Leg.mk actions jobs [] : Leg resource id action).Cleared p ack) := by
  cases ack with
  | accepted => exact .pure ⟨[], rfl, fun c hc => absurd hc List.not_mem_nil, fun _ => trivial⟩
  | status status =>
    simp only [await]
    split
    · exact .throw ⟨[], rfl, fun c hc => absurd hc List.not_mem_nil, fun h => by cases h⟩
    · exact .pure ⟨[], rfl, fun c hc => absurd hc List.not_mem_nil, fun _ => ‹_›⟩
  | job job =>
    refine .map ((r.jobWait.settle_spec p.timeout).mono ?_)
    rintro _ o ⟨calls, rfl, hcomplete⟩
    refine ⟨calls.map (Sigma.mk job), by rw [List.map_map]; rfl, ?_, ?_⟩
    · intro c hc
      obtain ⟨d, -, rfl⟩ := List.mem_map.1 hc
      exact hack
    · intro ho
      cases o with
      | none => cases ho
      | some status => exact ⟨calls, rfl, hcomplete status rfl⟩

/-- **The calls of one phase are those of an orderly leg, and if the phase succeeds the
leg ends in a target status.** -/
theorem act_spec (r : Resize) (phase : Phase) (p : ValidPolicy) :
    Task.Yields (r.act R resource id phase action p) fun exchanges o =>
      ∃ leg : Leg resource id action, exchanges = leg.exchanges ∧
        leg.Orderly r.retry.maxAttempts p ∧ ∀ status, o = some status → leg.Reaches p status := by
  unfold act during
  refine .adapt (.note_bind (.bind (r.retry.call_spec r.heeds) ?_ ?_))
  · -- The action came to nothing, so there is neither a job nor a look.
    rintro _ ⟨actions, rfl, htries, -⟩
    exact ⟨⟨actions, [], []⟩, Leg.exchanges_tried.symm, .tried htries, fun _ h => by cases h⟩
  · rintro _ ack ⟨actions, rfl, htries, hends⟩
    have hack := hends ack rfl
    refine .bind (r.await_spec id p hack) ?_ ?_
    · -- The acknowledgement is not cleared, so the resource is not looked at.
      rintro _ ⟨jobs, rfl, hjobs, -⟩
      exact ⟨⟨actions, jobs, []⟩, Leg.exchanges_unlooked.symm, .unlooked htries hjobs,
        fun _ h => by cases h⟩
    · rintro _ ⟨⟩ ⟨jobs, rfl, hjobs, hcleared⟩
      refine (Wait.settle_spec ⟨p, r.heeds⟩ (by decide)).mono ?_
      rintro _ o ⟨looks, rfl, hopen, hreaches⟩
      refine ⟨⟨actions, jobs, looks⟩, Leg.exchanges_looked.symm, ⟨htries, hjobs, ?_, hopen⟩, ?_⟩
      · exact fun _ => ⟨ack, hack, hcleared rfl⟩
      · exact fun status ho => ⟨(hreaches status ho).1, (hreaches status ho).2⟩

omit [RemoteFailure ε] in
/-- What goes wrong in a phase is what went wrong in its task, as an error of that phase. -/
theorem during_fails {α : Type} {phase : Phase} {task : Task I σ Error α} {w w' : World I σ}
    {e : Error} (h : (during phase task).run.runIn w = (some (.error e), w')) :
    ∃ source, e = .inPhase phase source ∧ task.run.runIn w = (some (.error source), w') := by
  obtain ⟨source, hrun, rfl⟩ := Act.of_runIn_mapError h
  exact ⟨source, rfl, hrun⟩

omit [RemoteFailure ε] in
/-- Whatever goes wrong in a phase is an error of that phase. -/
theorem during_error {α : Type} {phase : Phase} {task : Task I σ Error α} {w w' : World I σ}
    {e : Error} (h : (during phase task).run.runIn w = (some (.error e), w')) :
    ∃ source, e = .inPhase phase source := by
  obtain ⟨source, he, -⟩ := during_fails h
  exact ⟨source, he⟩

/-! ## 3. All phases -/

/-- What a resize does once the resource is stopped. -/
def change (r : Resize) (R : Remote I σ) (resource : Resource I ε ρ) (id : String) (payload : ρ)
    (stopSkipped : Bool) : Task I σ Error ResizeReport := do
  discard (r.act R resource id .mutating (resource.update id payload) r.mutate)
  let finalStatus ← r.act R resource id .starting (resource.start id) r.start
  Task.note .resized
  return { stopSkipped, finalStatus }

/-- A resize inspects the resource, stops it unless it is stopped, and changes it. -/
theorem run_eq (r : Resize) :
    r.run R resource id payload = (do
      let current ← during .inspecting (r.inspect R (resource.status id))
      if current ∈ r.stop.target then
        Task.note (.alreadyStopped current)
        r.change R resource id payload true
      else
        discard (r.act R resource id .stopping (resource.stop id) r.stop)
        r.change R resource id payload false) := by
  unfold run
  congr 1
  funext current
  by_cases hstopped : current ∈ r.stop.target
  · simp only [hstopped, decide_true, if_true]
    rfl
  · simp only [hstopped, decide_false, if_false, Bool.false_eq_true]
    rfl

/-- **The change is made by two orderly legs**, the second of them only if the first one
ends in a target status. -/
theorem change_ends (r : Resize) (stopSkipped : Bool) :
    Task.Ends (r.change R resource id payload stopSkipped) fun exchanges o =>
      ∃ (mutate : Leg resource id (resource.update id payload))
        (start : Leg resource id (resource.start id)),
        exchanges = mutate.exchanges ++ start.exchanges ∧
        mutate.Orderly r.retry.maxAttempts r.mutate ∧ start.Orderly r.retry.maxAttempts r.start ∧
        (start.exchanges ≠ [] → ∃ status, mutate.Reaches r.mutate status) ∧
        (∀ report, o = some (.ok report) →
          report.stopSkipped = stopSkipped ∧ start.Reaches r.start report.finalStatus) ∧
        ∀ e, o = some (.error e) →
          (∃ source, e = .inPhase .mutating source ∧ start.exchanges = []) ∨
            ∃ source, e = .inPhase .starting source := by
  unfold change
  refine .discard_bind (.of_yields (r.act_spec .mutating r.mutate) fun _ _ _ => during_error)
    ?_ ?_ ?_
  · rintro _ ⟨⟨mutate, rfl, hmutate, -⟩, -⟩
    refine ⟨mutate, {}, (List.append_nil _).symm, hmutate, .empty, ?_, ?_, ?_⟩
    · exact fun h => absurd rfl h
    · exact fun _ h => by cases h
    · exact fun _ h => by cases h
  · -- The change did not land, so nothing is started.
    rintro _ e ⟨⟨mutate, rfl, hmutate, -⟩, herror⟩
    obtain ⟨source, rfl⟩ := herror e rfl
    refine ⟨mutate, {}, (List.append_nil _).symm, hmutate, .empty, ?_, ?_, ?_⟩
    · exact fun h => absurd rfl h
    · exact fun _ h => by cases h
    · rintro _ ⟨⟩
      exact .inl ⟨source, rfl, rfl⟩
  rintro _ landed ⟨⟨mutate, rfl, hmutate, hlanded⟩, -⟩
  have hreached := hlanded landed rfl
  refine .bind (.of_yields (r.act_spec .starting r.start) fun _ _ _ => during_error) ?_ ?_ ?_
  · rintro _ ⟨⟨start, rfl, hstart, -⟩, -⟩
    exact ⟨mutate, start, rfl, hmutate, hstart, fun _ => ⟨landed, hreached⟩,
      fun _ h => (by cases h), fun _ h => (by cases h)⟩
  · rintro _ e ⟨⟨start, rfl, hstart, -⟩, herror⟩
    refine ⟨mutate, start, rfl, hmutate, hstart, fun _ => ⟨landed, hreached⟩,
      fun _ h => (by cases h), ?_⟩
    rintro _ ⟨⟩
    exact .inr (herror e rfl)
  rintro _ finalStatus ⟨⟨start, rfl, hstart, hfinal⟩, -⟩
  refine .note_bind (.pure ?_)
  rw [List.append_nil]
  refine ⟨mutate, start, rfl, hmutate, hstart, fun _ => ⟨landed, hreached⟩, ?_,
    fun _ h => (by cases h)⟩
  rintro _ ⟨⟩
  exact ⟨rfl, hfinal _ rfl⟩

/-- The calls of a resize with how it ends: with a report, with an error of one of its
phases, or not at all. -/
def Ended (r : Resize) (resource : Resource I ε ρ) (id : String) (payload : ρ)
    (exchanges : List (Exchange I)) (o : Option (Except Error ResizeReport)) : Prop :=
  ∃ it : Itinerary resource id payload, exchanges = it.exchanges ∧ it.Orderly r ∧
    (∀ report, o = some (.ok report) → it.Complete r report) ∧
    ∀ e, o = some (.error e) → it.Abandoned e

/-- **The calls of a resize are those of an orderly itinerary**, which is complete if the
resize succeeds and was abandoned in the phase of its error if it fails. -/
theorem run_ends (r : Resize) (R : Remote I σ) (resource : Resource I ε ρ) (id : String)
    (payload : ρ) :
    Task.Ends (r.run R resource id payload) (r.Ended resource id payload) := by
  rw [run_eq]
  refine .bind (.of_yields (.adapt (r.inspect_spec (resource.status id)))
    fun _ _ _ => during_error) ?_ ?_ ?_
  · rintro _ ⟨⟨inspections, rfl, htries, -⟩, -⟩
    exact ⟨⟨inspections, {}, {}, {}⟩, Itinerary.exchanges_inspected.symm, .inspected htries,
      fun _ h => (by cases h), fun _ h => (by cases h)⟩
  · rintro _ e ⟨⟨inspections, rfl, htries, -⟩, herror⟩
    obtain ⟨source, rfl⟩ := herror e rfl
    refine ⟨⟨inspections, {}, {}, {}⟩, Itinerary.exchanges_inspected.symm, .inspected htries,
      fun _ h => (by cases h), ?_⟩
    rintro _ ⟨⟩
    exact Itinerary.abandoned_inspecting source
  rintro _ current ⟨⟨inspections, rfl, htries, hcurrent⟩, -⟩
  obtain ⟨hfatal, fault, hshown⟩ := hcurrent current rfl
  split
  · -- The resource is stopped already.
    rename_i hstopped
    refine .note_bind ((r.change_ends true).mono ?_)
    rintro _ o ⟨mutate, start, rfl, hmutate, hstart, hbefore, hreport, herror⟩
    refine ⟨⟨inspections, {}, mutate, start⟩, Itinerary.exchanges_skipping.symm,
      .skipping htries hshown hstopped hmutate hstart hbefore, fun report ho => ?_, fun e he => ?_⟩
    · obtain ⟨hskipped, hfinal⟩ := hreport report ho
      exact ⟨hfinal, fun _ => rfl, fun _ => hskipped⟩
    · rcases herror e he with ⟨source, rfl, hnone⟩ | ⟨source, rfl⟩
      · exact Itinerary.abandoned_mutating source hnone
      · exact Itinerary.abandoned_starting _ source
  · -- The resource is stopped first.
    rename_i hrunning
    refine .discard_bind (.of_yields (r.act_spec .stopping r.stop) fun _ _ _ => during_error)
      ?_ ?_ ?_
    · rintro _ ⟨⟨stop, rfl, hstop, -⟩, -⟩
      exact ⟨⟨inspections, stop, {}, {}⟩, Itinerary.exchanges_stopping.symm,
        .stopping htries hshown hrunning hfatal hstop, fun _ h => (by cases h),
        fun _ h => (by cases h)⟩
    · rintro _ e ⟨⟨stop, rfl, hstop, -⟩, herror⟩
      obtain ⟨source, rfl⟩ := herror e rfl
      refine ⟨⟨inspections, stop, {}, {}⟩, Itinerary.exchanges_stopping.symm,
        .stopping htries hshown hrunning hfatal hstop, fun _ h => (by cases h), ?_⟩
      rintro _ ⟨⟩
      exact Itinerary.abandoned_stopping source
    rintro _ stopped ⟨⟨stop, rfl, hstop, hreaches⟩, -⟩
    have hreached := hreaches stopped rfl
    refine (r.change_ends false).mono ?_
    rintro _ o ⟨mutate, start, rfl, hmutate, hstart, hbefore, hreport, herror⟩
    refine ⟨⟨inspections, stop, mutate, start⟩, Itinerary.exchanges_changing.symm,
      .changing (.stopping htries hshown hrunning hfatal hstop) hreached hmutate hstart hbefore,
      fun report ho => ?_, fun e he => ?_⟩
    · obtain ⟨hskipped, hfinal⟩ := hreport report ho
      refine ⟨hfinal, fun h => ?_, fun h => absurd h hreached.exchanges_ne_nil⟩
      rw [hskipped] at h
      exact absurd h Bool.false_ne_true
    · rcases herror e he with ⟨source, rfl, hnone⟩ | ⟨source, rfl⟩
      · exact Itinerary.abandoned_mutating source hnone
      · exact Itinerary.abandoned_starting _ source

/-- The calls of a resize with what it reports. -/
def Followed (r : Resize) (resource : Resource I ε ρ) (id : String) (payload : ρ)
    (exchanges : List (Exchange I)) (o : Option ResizeReport) : Prop :=
  ∃ it : Itinerary resource id payload, exchanges = it.exchanges ∧ it.Orderly r ∧
    ∀ report, o = some report → it.Complete r report

theorem run_spec (r : Resize) (R : Remote I σ) (resource : Resource I ε ρ) (id : String)
    (payload : ρ) :
    Task.Yields (r.run R resource id payload) (r.Followed resource id payload) := by
  refine Act.Yields.mono (r.run_ends R resource id payload) ?_
  rintro _ o ⟨it, rfl, horderly, hreport, -⟩
  exact ⟨it, rfl, horderly, fun report ho => hreport report (Task.toOption_eq_some.1 ho)⟩

/-- **However a resize ends, its calls are those of an orderly itinerary**, and if it
succeeds the itinerary is complete. -/
theorem run_ordered (r : Resize) (R : Remote I σ) (resource : Resource I ε ρ) (id : String)
    (payload : ρ) (w : World I σ) :
    ∃ it : Itinerary resource id payload,
      ((r.run R resource id payload).run.runIn w).2.trace.toList =
        w.trace.toList ++ it.exchanges ∧
      it.Orderly r ∧
      ∀ report, ((r.run R resource id payload).run.runIn w).1 = some (.ok report) →
        it.Complete r report := by
  obtain ⟨_, hlead, it, rfl, horderly, hreport⟩ := r.run_spec R resource id payload w
  refine ⟨it, hlead.trace_eq, horderly, fun report hresult => hreport report ?_⟩
  rw [hresult]
  rfl

end Resize

end Settle
