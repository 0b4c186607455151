/-
Changes to servers are safe.

A change (`apply_instance_change`) looks the server up and plans. If the plan is
refused, nothing else is asked of the cloud. A hot change updates the server as it is
and never acts on it. A cold change is a resize, and its calls are those of an orderly
itinerary; what is added here is what the itinerary means for a server. All requests of
a cold change are about the one server, and its updates have the body that was planned
(`coldRequest`). The readings of a server are `Instance.normalized`, which gives a
stable status only for a server that has it and whose health is good, so an update
comes right after a lookup that shows the server stopped with good health, and a start
right after one that shows it settled with good health.

Where a statement is about the first request of a phase, it is said for every way to
split the calls there (`AtFirst`).
-/
import Settle.Cloud.Instances
import Settle.Cloud.Sandbox
import Settle.Proofs.Cloud.Workspace
import Settle.Proofs.Resize.Order

set_option autoImplicit false

namespace Settle

/-! ## 1. The first of a kind -/

/-- If a list goes over from elements that are not of a kind to one that is, every split at the
first of that kind is made there. -/
theorem eq_of_split_first {α : Type} {kind : α → Prop} {first second before after : List α} {e : α}
    (hfirst : ∀ a ∈ first, ¬ kind a) (hsecond : ∀ a rest, second = a :: rest → kind a)
    (h : first ++ second = before ++ e :: after) (he : kind e) (hbefore : ∀ a ∈ before, ¬ kind a) :
    before = first ∧ e :: after = second := by
  rcases List.append_eq_append_iff.1 h with ⟨mid, rfl, hmid⟩ | ⟨mid, rfl, hmid⟩
  · cases mid with
    | nil => exact ⟨List.append_nil _, hmid.symm⟩
    | cons a rest =>
      -- The second part would begin within what comes before the first of the kind.
      have ha := hsecond a _ hmid
      exact absurd ha (hbefore a (by simp))
  · cases mid with
    | nil => exact ⟨(List.append_nil _).symm, hmid⟩
    | cons a rest =>
      have hea : e = a := (List.cons.inj hmid).1
      exact absurd (hea ▸ he) (hfirst a (by simp))

end Settle

namespace Settle.Cloud

variable {σ : Type}

/-! ## 2. Servers and their requests -/

/-- The phase of a resize to which a request belongs that changes a server. -/
def Request.phase? : Request → Option Phase
  | .actOnInstance _ .immediateShutdown => some .stopping
  | .updateInstance _ _ => some .mutating
  | .actOnInstance _ .start => some .starting
  | _ => none

/-- The exchange is a lookup of a server, as it is in one of some statuses and in good health. -/
def ShowsReady (id : String) (statuses : List String) (e : Exchange interface) : Prop :=
  ∃ c : (query (.getInstance id)).Call, e = c.exchange ∧
    ∃ i : Instance, c.result = .ok i ∧ (∃ s ∈ statuses, i.status = some s) ∧
      i.health = some Health.ok

/-- However the calls are split at the first one of a phase, what comes before it and what comes
after it are in the relation. -/
def AtFirst (phase : Phase) (calls : List (Exchange interface))
    (P : List (Exchange interface) → List (Exchange interface) → Prop) : Prop :=
  ∀ before e after, calls = before ++ e :: after → e.request.phase? = some phase →
    (∀ b ∈ before, b.request.phase? ≠ some phase) → P before after

/-- A stable reading is that of a server with this very status and in good health. -/
theorem Instance.normalized_stable {i : Instance} {status : String} {fault : Option String}
    (h : i.normalized = ⟨some status, fault⟩)
    (hstable : status = State.active ∨ status = State.shutoff) :
    i.status = some status ∧ i.health = some Health.ok := by
  -- The status is rewritten twice, for errors and for doubtful health; a stable result is one that
  -- neither rule has touched.
  unfold normalized at h
  cases hstatus : i.status with
  | none =>
    rw [hstatus] at h
    cases h
  | some raw =>
    rw [hstatus] at h
    simp only at h
    split at h
    · -- A server in error is not read as stable.
      cases h
      rcases hstable with h | h <;> exact absurd h (by decide)
    · split at h
      · cases h
        rcases hstable with h | h <;> exact absurd h (by decide)
      · rename_i hready
        cases h
        exact ⟨rfl, Decidable.byContradiction fun hhealth => hready ⟨hstable, hhealth⟩⟩

/-- A look at a server that shows it in a stable status is a lookup that shows it ready. -/
theorem showsReady_of_endsInState {id : String} {calls : List (Exchange interface)}
    {states : StateSet} {statuses : List String}
    (h : Resize.EndsInState (instanceResource.status id) calls states)
    (hstatuses : ∀ s ∈ states, s ∈ statuses)
    (hstable : ∀ s ∈ statuses, s = State.active ∨ s = State.shutoff) :
    ∃ e, calls.getLast? = some e ∧ ShowsReady id statuses e := by
  obtain ⟨c, hlast, status, hstatus, fault, hresult⟩ := h
  -- The look is the lookup with its answer read as a reading, so the raw answer is still at hand.
  have hmem := hstatuses status hstatus
  have hread : c.ofMap.result.map Instance.normalized = .ok ⟨some status, fault⟩ := hresult
  cases hraw : c.ofMap.result with
  | error e =>
    rw [hraw] at hread
    cases hread
  | ok i =>
    rw [hraw] at hread
    obtain ⟨hi, hhealth⟩ := Instance.normalized_stable (Except.ok.inj hread) (hstable status hmem)
    exact ⟨_, hlast, c.ofMap, rfl, i, hraw, ⟨status, hmem, hi⟩, hhealth⟩

/-! ## 3. The itinerary of a cold change -/

section Cold

variable {id : String} {update : InstanceUpdate}
  {action : Query interface (Except ApiFailure Ack)} {phase : Phase}

/-- Requests of a leg belong to the phase of its action or to none. -/
theorem phase_of_mem_leg {leg : Resize.Leg instanceResource id action}
    (haction : Request.phase? action.request = some phase) {e : Exchange interface}
    (he : e ∈ leg.exchanges) : e.request.phase? = none ∨ e.request.phase? = some phase := by
  rcases List.mem_append.1 he with he | he
  · rcases List.mem_append.1 he with he | he
    · obtain ⟨c, -, rfl⟩ := List.mem_map.1 he
      exact .inr haction
    · obtain ⟨c, -, rfl⟩ := List.mem_map.1 he
      exact .inl rfl
  · obtain ⟨c, -, rfl⟩ := List.mem_map.1 he
    exact .inl rfl

/-- Requests of a part of an itinerary belong to the phase of the part or to none. -/
theorem phase_of_mem_part {it : Resize.Itinerary instanceResource id update}
    {e : Exchange interface} (he : e ∈ it.part phase) :
    e.request.phase? = none ∨ e.request.phase? = some phase := by
  cases phase with
  | inspecting =>
    obtain ⟨c, -, rfl⟩ := List.mem_map.1 he
    exact .inl rfl
  | stopping => exact phase_of_mem_leg rfl he
  | mutating => exact phase_of_mem_leg rfl he
  | starting => exact phase_of_mem_leg rfl he

/-- An orderly leg begins with its action. -/
theorem phase_of_head_leg {leg : Resize.Leg instanceResource id action} {limit : Nat}
    {p : ValidPolicy} (hleg : leg.Orderly limit p)
    (haction : Request.phase? action.request = some phase) {e : Exchange interface}
    {rest : List (Exchange interface)} (he : leg.exchanges = e :: rest) :
    e.request.phase? = some phase := by
  have hne : leg.exchanges ≠ [] := by
    rw [he]
    exact List.cons_ne_nil e rest
  obtain ⟨c, actions, hactions⟩ := List.exists_cons_of_ne_nil (hleg.actions_ne_nil hne)
  unfold Resize.Leg.exchanges at he
  rw [hactions, List.map_cons, List.cons_append, List.cons_append] at he
  rw [← (List.cons.inj he).1]
  exact haction

/-- Requests of one phase are not made in another. -/
theorem not_phase_of_mem_part {it : Resize.Itinerary instanceResource id update} {other : Phase}
    {e : Exchange interface} (he : e ∈ it.part other) (hother : other ≠ phase) :
    e.request.phase? ≠ some phase := by
  intro hphase
  rcases phase_of_mem_part he with hnone | hsome
  · rw [hnone] at hphase
    cases hphase
  · rw [hsome, Option.some.injEq] at hphase
    exact hother hphase

/-- Looking a server up belongs to no phase. -/
theorem not_phase_of_mem_lookups {lookups : List (query (.getInstance id)).Call}
    {e : Exchange interface} (he : e ∈ lookups.map Query.Call.exchange) :
    e.request.phase? ≠ some phase := by
  obtain ⟨c, -, rfl⟩ := List.mem_map.1 he
  exact fun h => by cases h

end Cold

/-- What a cold change of a server asks for in a phase, besides looking the server up. -/
def coldRequest (id : String) (body : InstanceUpdate) : Phase → Request
  | .inspecting => .getInstance id
  | .stopping => .actOnInstance id .immediateShutdown
  | .mutating => .updateInstance id body
  | .starting => .actOnInstance id .start

/-- The calls of a cold change with its result. -/
structure ColdCalls (id : String) (body : InstanceUpdate) (calls : List (Exchange interface))
    (result : Option (Except OperationError ChangeReport)) : Prop where
  /-- All requests are about this server, and an update carries this body. -/
  requests : ∀ c ∈ calls, ∃ phase, c.request = coldRequest id body phase
  /-- The first update comes right after a lookup that shows the server stopped. -/
  update : AtFirst .mutating calls fun before _ =>
    ∃ e, before.getLast? = some e ∧ ShowsReady id [State.shutoff] e
  /-- The first start comes right after a lookup that shows the server settled, and after all
  updates. -/
  start : AtFirst .starting calls fun before after =>
    (∃ e, before.getLast? = some e ∧ ShowsReady id [State.active, State.shutoff] e) ∧
      (∃ b ∈ before, b.request.phase? = some .mutating) ∧
      ∀ a ∈ after, a.request.phase? ≠ some .mutating
  /-- An error names a phase, and nothing of a later phase has been requested. -/
  failed : ∀ e, result = some (.error e) → ∃ phase source, e = .unsettled (.inPhase phase source) ∧
    ∀ c ∈ calls, ∀ p, c.request.phase? = some p → p.rank ≤ phase.rank

section Cold

variable {id : String} {update : InstanceUpdate} {r : Resize}
  {it : Resize.Itinerary instanceResource id update} {lookups : List (query (.getInstance id)).Call}

/-- A leg whose action tells nothing in return has no job to look at: it makes its action, and looks
the server up. -/
theorem request_of_mem_leg {α : Type} {action : Query interface (Except ApiFailure α)}
    {leg : Resize.Leg instanceResource id (action.map (Except.map fun _ => Ack.accepted))}
    {limit : Nat} {p : ValidPolicy} (hleg : leg.Orderly limit p) {e : Exchange interface}
    (he : e ∈ leg.exchanges) : e.request = action.request ∨ e.request = .getInstance id := by
  rcases List.mem_append.1 he with he | he
  · rcases List.mem_append.1 he with he | he
    · obtain ⟨c, -, rfl⟩ := List.mem_map.1 he
      exact .inl rfl
    · -- A job is looked at only after an answer that names it, and this one names none.
      obtain ⟨c, hc, -⟩ := List.mem_map.1 he
      obtain ⟨answer, -, hjob⟩ := (hleg.jobs c hc).ofMap
      cases answer with
      | error => cases hjob
      | ok => cases hjob
  · obtain ⟨c, -, rfl⟩ := List.mem_map.1 he
    exact .inr rfl

/-- **Nothing is asked for but what the phases ask for**, and all of it about the one server. -/
theorem cold_requests (hit : it.Orderly r) (lookups : List (query (.getInstance id)).Call) :
    ∀ c ∈ lookups.map Query.Call.exchange ++ it.exchanges,
      ∃ phase, c.request = coldRequest id update phase := by
  intro c hc
  rcases List.mem_append.1 hc with hc | hc
  · obtain ⟨c, -, rfl⟩ := List.mem_map.1 hc
    exact ⟨.inspecting, rfl⟩
  · obtain ⟨phase, hpart⟩ := Resize.Itinerary.exists_mem_part hc
    cases phase with
    | inspecting =>
      obtain ⟨c, -, rfl⟩ := List.mem_map.1 hpart
      exact ⟨.inspecting, rfl⟩
    | stopping =>
      rcases request_of_mem_leg hit.stop hpart with hstop | hlookup
      · exact ⟨.stopping, hstop⟩
      · exact ⟨.inspecting, hlookup⟩
    | mutating =>
      rcases request_of_mem_leg hit.mutate hpart with hupdate | hlookup
      · exact ⟨.mutating, hupdate⟩
      · exact ⟨.inspecting, hlookup⟩
    | starting =>
      rcases request_of_mem_leg hit.start hpart with hstart | hlookup
      · exact ⟨.starting, hstart⟩
      · exact ⟨.inspecting, hlookup⟩

/-- Nothing is started unless something was updated. -/
theorem start_eq_nil (hit : it.Orderly r) (h : it.mutate.exchanges = []) :
    it.start.exchanges = [] := by
  refine Decidable.byContradiction fun hstart => ?_
  obtain ⟨status, hreaches⟩ := hit.before_start hstart
  exact hreaches.exchanges_ne_nil h

/-- **A server is updated only once it has been seen stopped and in good health.** -/
theorem cold_update (hit : it.Orderly r) (hstop : r.stop.toPolicy = Preset.instanceStopped) :
    AtFirst .mutating (lookups.map Query.Call.exchange ++ it.exchanges) fun before _ =>
      ∃ e, before.getLast? = some e ∧ ShowsReady id [State.shutoff] e := by
  intro before e after hsplit he hbefore
  -- The calls change over at the mutating phase: nothing before it is an update.
  have hcalls : lookups.map Query.Call.exchange ++ it.exchanges =
      (lookups.map Query.Call.exchange ++ (it.part .inspecting ++ it.part .stopping)) ++
        (it.part .mutating ++ it.part .starting) := by
    simp [Resize.Itinerary.exchanges, Resize.Itinerary.part]
  rw [hcalls] at hsplit
  have hfirst : ∀ a ∈ lookups.map Query.Call.exchange ++
      (it.part .inspecting ++ it.part .stopping), a.request.phase? ≠ some .mutating := by
    intro a ha
    simp only [List.mem_append] at ha
    rcases ha with ha | ha | ha
    · exact not_phase_of_mem_lookups ha
    · exact not_phase_of_mem_part ha (by decide)
    · exact not_phase_of_mem_part ha (by decide)
  -- What follows begins with an update, since nothing is started without one.
  have hhead : ∀ a rest, it.part .mutating ++ it.part .starting = a :: rest →
      a.request.phase? = some .mutating := by
    intro a rest ha
    cases hmutate : it.part .mutating with
    | nil =>
      rw [hmutate, show it.part .starting = [] from start_eq_nil hit hmutate] at ha
      cases ha
    | cons b _ =>
      rw [hmutate] at ha
      cases ha
      exact phase_of_head_leg hit.mutate rfl hmutate
  obtain ⟨rfl, hrest⟩ := eq_of_split_first hfirst hhead hsplit he hbefore
  have hne : it.mutate.exchanges ≠ [] := by
    intro hnone
    rw [show it.part .mutating = [] from hnone,
      show it.part .starting = [] from start_eq_nil hit hnone] at hrest
    cases hrest
  -- The first two phases have ended in a state in which the policy of the stop is satisfied.
  refine showsReady_of_endsInState ((hit.before_mutate hne).append _) ?_ ?_
  · intro s hs
    rw [hstop] at hs
    exact StateSet.mem_ofList.1 hs
  · intro s hs
    exact .inr (List.mem_singleton.1 hs)

/-- **A server is started only once it has been seen settled and in good health after its last
update.** -/
theorem cold_start (hit : it.Orderly r) (hmutate : r.mutate.toPolicy = Preset.postResize) :
    AtFirst .starting (lookups.map Query.Call.exchange ++ it.exchanges) fun before after =>
      (∃ e, before.getLast? = some e ∧ ShowsReady id [State.active, State.shutoff] e) ∧
        (∃ b ∈ before, b.request.phase? = some .mutating) ∧
        ∀ a ∈ after, a.request.phase? ≠ some .mutating := by
  intro before e after hsplit he hbefore
  have hcalls : lookups.map Query.Call.exchange ++ it.exchanges =
      (lookups.map Query.Call.exchange ++ (it.part .inspecting ++ it.part .stopping) ++
        it.part .mutating) ++ it.part .starting := by
    simp [Resize.Itinerary.exchanges, Resize.Itinerary.part]
  rw [hcalls] at hsplit
  have hfirst : ∀ a ∈ lookups.map Query.Call.exchange ++
      (it.part .inspecting ++ it.part .stopping) ++ it.part .mutating,
      a.request.phase? ≠ some .starting := by
    intro a ha
    simp only [List.mem_append] at ha
    rcases ha with (ha | ha | ha) | ha
    · exact not_phase_of_mem_lookups ha
    · exact not_phase_of_mem_part ha (by decide)
    · exact not_phase_of_mem_part ha (by decide)
    · exact not_phase_of_mem_part ha (by decide)
  obtain ⟨rfl, hrest⟩ := eq_of_split_first hfirst
    (fun _ _ ha => phase_of_head_leg hit.start rfl ha) hsplit he hbefore
  have hne : it.start.exchanges ≠ [] := by
    intro hnone
    rw [hnone] at hrest
    cases hrest
  obtain ⟨status, hreaches⟩ := hit.before_start hne
  refine ⟨?_, ?_, fun a ha => ?_⟩
  · -- The looks of the mutating phase come last.
    obtain ⟨fault, hshown⟩ := hreaches.shown
    have hends :
        Resize.EndsInState (instanceResource.status id) it.mutate.exchanges r.mutate.target :=
      Resize.endsInState _ hreaches.target hshown
    refine showsReady_of_endsInState (hends.append _) ?_ ?_
    · intro s hs
      rw [hmutate] at hs
      exact StateSet.mem_ofList.1 hs
    · intro s hs
      simpa using hs
  · obtain ⟨b, rest, hb⟩ := List.exists_cons_of_ne_nil hreaches.exchanges_ne_nil
    refine ⟨b, List.mem_append_right _ ?_, phase_of_head_leg hit.mutate rfl hb⟩
    change b ∈ it.mutate.exchanges
    rw [hb]
    exact List.mem_cons_self
  · have ha' : a ∈ it.start.exchanges := by
      rw [← hrest]
      exact List.mem_cons_of_mem e ha
    have hpart : a ∈ it.part .starting := ha'
    exact not_phase_of_mem_part hpart (by decide)

/-- **Nothing of a later phase than the one that failed is asked for.** -/
theorem cold_failed (lookups : List (query (.getInstance id)).Call) {e : Error}
    (he : it.Abandoned e) :
    ∃ phase source, e = .inPhase phase source ∧
      ∀ c ∈ lookups.map Query.Call.exchange ++ it.exchanges, ∀ p,
        c.request.phase? = some p → p.rank ≤ phase.rank := by
  obtain ⟨phase, source, rfl, hlater⟩ := he
  refine ⟨phase, source, rfl, fun c hc p hp => Nat.le_of_not_lt fun hlt => ?_⟩
  rcases List.mem_append.1 hc with hc | hc
  · exact not_phase_of_mem_lookups hc hp
  · -- The call is in some part: its own, which is empty if it is later, or another, where it is
    -- not made.
    obtain ⟨q, hq⟩ := Resize.Itinerary.exists_mem_part hc
    by_cases hqp : q = p
    · subst hqp
      rw [hlater q hlt] at hq
      exact List.not_mem_nil hq
    · exact not_phase_of_mem_part hq hqp hp

end Cold

/-! ## 4. Hot changes -/

/-- The calls of a hot change after its planning: updates, and lookups only if the last update
succeeded. -/
def HotCalls (id : String) (update : InstanceUpdate) (limit : Nat)
    (calls : List (Exchange interface)) : Prop :=
  ∃ (updates : List (query (.updateInstance id update)).Call)
    (looks : List (query (.getInstance id)).Call),
    calls = updates.map Query.Call.exchange ++ looks.map Query.Call.exchange ∧
      Tries limit updates ∧ (looks ≠ [] → ∃ i, EndsWith updates (.ok i))

/-- **A hot change updates the server and waits**, and acts on it in no other way. -/
theorem hot_ends (ws : Workspace) (R : Remote interface σ) (id : String) (update : InstanceUpdate)
    (wait : HotWait) :
    Task.Ends (do
      discard (ws.insist R (.updateInstance id update))
      match wait with
      | .available => do
        let finalStatus ← ws.waitInstanceAvailable R id .ok
        return { plan := .hot wait, finalStatus, stopSkipped := false }
      | .postResize => do
        let finalStatus ← ws.waitInstanceResized R id
        return { plan := .hot wait, finalStatus, stopSkipped := false } : Operate σ ChangeReport)
      fun calls _ => HotCalls id update ws.config.retry.maxAttempts calls := by
  refine .discard_bind (ws.insist_ends (.updateInstance id update)) ?_ ?_ ?_
  · rintro _ ⟨updates, rfl, htries, -⟩
    exact ⟨updates, [], (List.append_nil _).symm, htries, fun h => absurd rfl h⟩
  · rintro _ e ⟨updates, rfl, htries, -⟩
    exact ⟨updates, [], (List.append_nil _).symm, htries, fun h => absurd rfl h⟩
  rintro _ i ⟨updates, rfl, htries, hlast⟩
  have hupdated := (hlast i).1 rfl
  -- Whichever wait it is, it makes nothing but looks.
  have hwait : ∀ task : Operate σ String,
      (Task.Ends task fun calls _ =>
        ∃ looks : List (query (.getInstance id)).Call, calls = looks.map Query.Call.exchange) →
      Task.Ends (do
        let finalStatus ← task
        return { plan := .hot wait, finalStatus, stopSkipped := false } : Operate σ ChangeReport)
        fun later _ => HotCalls id update ws.config.retry.maxAttempts
          (updates.map Query.Call.exchange ++ later) := by
    intro task htask
    refine .bind htask ?_ ?_ ?_
    · rintro _ ⟨looks, rfl⟩
      exact ⟨updates, looks, rfl, htries, fun _ => ⟨i, hupdated⟩⟩
    · rintro _ e ⟨looks, rfl⟩
      exact ⟨updates, looks, rfl, htries, fun _ => ⟨i, hupdated⟩⟩
    · rintro _ status ⟨looks, rfl⟩
      refine .pure ?_
      rw [List.append_nil]
      exact ⟨updates, looks, rfl, htries, fun _ => ⟨i, hupdated⟩⟩
  cases wait with
  | available => exact hwait _ (ws.wait_ends _ _ (.getInstance id) (Instance.available .ok))
  | postResize => exact hwait _ (ws.wait_ends _ _ (.getInstance id) Instance.normalized)

/-! ## 5. Cold changes -/

/-- The policies of a cold change make sense. -/
theorem instanceResize_eq_ok (ws : Workspace) :
    ∃ r, ws.instanceResize = .ok r ∧ r.stop.toPolicy = Preset.instanceStopped ∧
      r.mutate.toPolicy = Preset.postResize ∧ r.start.toPolicy = Preset.resize.start ∧
      r.retry = ws.config.retry := by
  have hstop : Preset.resize.stop.defect? = none := by decide
  have hmutate : Preset.resize.mutate.defect? = none := by decide
  have hstart : Preset.resize.start.defect? = none := by decide
  have hpolicies : Resize.ofPolicies Preset.resize =
      .ok { stop := ⟨_, hstop⟩, mutate := ⟨_, hmutate⟩, start := ⟨_, hstart⟩ } := by
    unfold Resize.ofPolicies
    rw [Policy.validate_eq_ok hstop, Policy.validate_eq_ok hmutate, Policy.validate_eq_ok hstart]
    rfl
  unfold Workspace.instanceResize
  rw [hpolicies]
  refine ⟨_, rfl, ?_⟩
  split <;> exact ⟨rfl, rfl, rfl, rfl⟩

/-- **A cold change is a resize**: it updates and starts the server as one does. -/
theorem cold_ends (ws : Workspace) (R : Remote interface σ) (id : String)
    (update : InstanceUpdate) :
    Task.Ends (Workspace.settling do
      let resize ← ws.instanceResize
      resize.run R instanceResource id update) fun calls o =>
      ∀ (lookups : List (query (.getInstance id)).Call)
        (result : Option (Except OperationError ChangeReport)),
        (∀ e, result = some (.error e) → o = some (.error e)) →
          ColdCalls id update (lookups.map Query.Call.exchange ++ calls) result := by
  obtain ⟨r, hr, hstop, hmutate, -⟩ := instanceResize_eq_ok ws
  rw [hr]
  refine .adapt ((r.run_ends R instanceResource id update).mono ?_)
  rintro _ o ⟨it, rfl, hit, -, hfailed⟩ lookups result hresult
  refine ⟨cold_requests hit lookups, cold_update hit hstop, cold_start hit hmutate, fun e he => ?_⟩
  have ho := hresult e he
  -- Only an error of the resize can be the one that is returned.
  rcases o with _ | source | report
  · cases ho
  · cases ho
    obtain ⟨phase, cause, rfl, hnone⟩ := cold_failed lookups (hfailed source rfl)
    exact ⟨phase, cause, rfl, hnone⟩
  · cases ho

/-! ## 6. Changes -/

/-- The calls of a change with its result: some lookups to plan with, and what follows from what the
last of them shows. -/
structure Applied (ws : Workspace) (id : String) (change : Change)
    (lookups : List (query (.getInstance id)).Call) (later : List (Exchange interface))
    (result : Option (Except OperationError ChangeReport)) : Prop where
  tries : Tries ws.config.retry.maxAttempts lookups
  /-- The server was not found. -/
  lost : (∀ current, ¬ EndsWith lookups (.ok current)) → later = []
  /-- The health of the server forbids any change, and this comes first. -/
  unhealthy : ∀ current : Instance, EndsWith lookups (.ok current) →
    current.health = some Health.warning →
      later = [] ∧ result = some (.error (.unhealthyInstance Health.warning))
  /-- There is nothing to change. -/
  empty : ∀ current : Instance, EndsWith lookups (.ok current) →
    current.health ≠ some Health.warning → change.isEmpty = true →
      later = [] ∧ result = some (.error (.invalidChange "no changes requested"))
  hot : ∀ current wait, EndsWith lookups (.ok current) → change.plan current = .ok (.hot wait) →
    HotCalls id change.toUpdate ws.config.retry.maxAttempts later
  cold : ∀ current, EndsWith lookups (.ok current) → change.plan current = .ok .cold →
    ColdCalls id change.toUpdate (lookups.map Query.Call.exchange ++ later) result

namespace Applied

variable {ws : Workspace} {id : String} {change : Change}
  {lookups : List (query (.getInstance id)).Call} {later : List (Exchange interface)}
  {result : Option (Except OperationError ChangeReport)}

/-- Without a server there is nothing to plan. -/
theorem of_lost (htries : Tries ws.config.retry.maxAttempts lookups)
    (hlost : ∀ current, ¬ EndsWith lookups (.ok current)) :
    Applied ws id change lookups [] result where
  tries := htries
  lost _ := rfl
  unhealthy current hends := absurd hends (hlost current)
  empty current hends := absurd hends (hlost current)
  hot current _ hends := absurd hends (hlost current)
  cold current hends := absurd hends (hlost current)

/-- What a change does is decided by its plan. -/
theorem of_plan (htries : Tries ws.config.retry.maxAttempts lookups) {current : Instance}
    (hends : EndsWith lookups (.ok current))
    (h : match change.plan current with
      | .error e => later = [] ∧ result = some (.error e)
      | .ok (.hot _) => HotCalls id change.toUpdate ws.config.retry.maxAttempts later
      | .ok .cold =>
        ColdCalls id change.toUpdate (lookups.map Query.Call.exchange ++ later) result) :
    Applied ws id change lookups later result := by
  -- Lookups end with one result only, so what is said of any is said of this one.
  have hsame : ∀ other : Instance, EndsWith lookups (.ok other) → other = current := fun other h =>
    Except.ok.inj (h.unique hends)
  refine ⟨htries, fun hlost => absurd hends (hlost current), ?_, ?_, ?_, ?_⟩
  · intro other hother hhealth
    rw [hsame other hother] at hhealth
    have hplan : change.plan current = .error (.unhealthyInstance Health.warning) := if_pos hhealth
    rw [hplan] at h
    exact h
  · intro other hother hhealth hempty
    rw [hsame other hother] at hhealth
    have hplan : change.plan current = .error (.invalidChange "no changes requested") :=
      (if_neg hhealth).trans (if_pos hempty)
    rw [hplan] at h
    exact h
  · intro other wait hother hplan
    rw [hsame other hother] at hplan
    rw [hplan] at h
    exact h
  · intro other hother hplan
    rw [hsame other hother] at hplan
    rw [hplan] at h
    exact h

end Applied

theorem applyChange_ends (ws : Workspace) (R : Remote interface σ) (id : String) (change : Change) :
    Task.Ends (ws.applyChange R id change) fun exchanges o =>
      ∃ lookups later, exchanges = lookups.map Query.Call.exchange ++ later ∧
        Applied ws id change lookups later o := by
  unfold Workspace.applyChange
  refine .bind (ws.insist_ends (.getInstance id)) ?_ ?_ ?_
  · rintro _ ⟨lookups, rfl, htries, hlast⟩
    refine ⟨lookups, [], (List.append_nil _).symm, .of_lost htries fun current hends => ?_⟩
    exact absurd ((hlast current).2 hends) (by simp)
  · rintro _ e ⟨lookups, rfl, htries, hlast⟩
    refine ⟨lookups, [], (List.append_nil _).symm, .of_lost htries fun current hends => ?_⟩
    exact absurd ((hlast current).2 hends) (by simp)
  rintro _ current ⟨lookups, rfl, htries, hlast⟩
  have hends := (hlast current).1 rfl
  refine .lift_bind (fun e hplan => ?_) fun plan hplan => ?_
  · -- The change is refused.
    refine ⟨lookups, [], rfl, .of_plan htries hends ?_⟩
    rw [hplan]
    exact ⟨rfl, rfl⟩
  cases plan with
  | hot wait =>
    refine (hot_ends ws R id change.toUpdate wait).mono fun later o hhot => ?_
    refine ⟨lookups, later, rfl, .of_plan htries hends ?_⟩
    rw [hplan]
    exact hhot
  | cold =>
    -- The report of the resize is turned into that of the change at the end, which leaves errors as
    -- they are, so the result is the same for all that is claimed of it.
    have happlied : ∀ later result,
        ColdCalls id change.toUpdate (lookups.map Query.Call.exchange ++ later) result →
          Applied ws id change lookups later result := by
      intro later result hcold
      refine .of_plan htries hends ?_
      rw [hplan]
      exact hcold
    refine .bind (cold_ends ws R id change.toUpdate) ?_ ?_ ?_
    · intro later hcold
      exact ⟨lookups, later, rfl, happlied later none (hcold lookups none fun _ h => by cases h)⟩
    · intro later e hcold
      refine ⟨lookups, later, rfl, happlied later _ (hcold lookups _ ?_)⟩
      rintro _ ⟨⟩
      rfl
    · intro later report hcold
      refine .pure ?_
      rw [List.append_nil]
      exact ⟨lookups, later, rfl, happlied later _ (hcold lookups _ fun _ h => by cases h)⟩

/-- **Changes to servers are safe**: whatever the cloud shows and whenever the caller cancels, a
change asks the cloud for nothing that its plan does not call for, and for each request only in a
state of the server in which it is safe. -/
theorem applyChange_safe (ws : Workspace) (R : Remote interface σ) (id : String) (change : Change)
    (w : World interface σ) :
    ∃ lookups later,
      ((ws.applyChange R id change).run.runIn w).2.trace.toList =
        w.trace.toList ++ (lookups.map Query.Call.exchange ++ later) ∧
      Applied ws id change lookups later ((ws.applyChange R id change).run.runIn w).1 := by
  obtain ⟨_, hlead, lookups, later, rfl, happlied⟩ := applyChange_ends ws R id change w
  exact ⟨lookups, later, hlead.trace_eq, happlied⟩

/-- A running server that warns for a while once it is shut down. -/
def warningServer : World interface Sandbox where
  remote :=
    let shown (status health : String) : Result Instance :=
      .ok { id := "pvm-1", status := some status, health := some health }
    { instances := [("pvm-1", [shown "ACTIVE" "OK", shown "ACTIVE" "OK", shown "SHUTOFF" "WARNING",
        shown "SHUTOFF" "OK", shown "ACTIVE" "OK"])] }

-- It is updated only when the warning has gone.
example :
    ((({ cloudInstance := "cloud-1" } : Workspace).applyChange Sandbox.remote "pvm-1"
        { processorType := some "dedicated" }).run.runIn warningServer).2.trace.toList.map
        (·.request.label) =
      ["get_instance:pvm-1", "get_instance:pvm-1", "action:immediate-shutdown:pvm-1",
        "get_instance:pvm-1", "get_instance:pvm-1", "update_instance:pvm-1", "get_instance:pvm-1",
        "action:start:pvm-1", "get_instance:pvm-1"] := by
  decide +kernel

end Settle.Cloud
