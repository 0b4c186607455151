/-
What a server has shown when an operation on it succeeds.

A wait judges readings, and there are two ways to read a server: `Instance.reaching`
while it is created or started, and `Instance.normalized` while it is stopped or changed.
Both rewrite the status, so a success says something about the server only if a target
status comes from nothing but the server's own status with ready health. This holds of
both readings, for whatever words the cloud uses, and the waits and actions follow.
-/
import Settle.Proofs.Cloud.Change

set_option autoImplicit false

namespace Settle.Cloud

variable {σ : Type}

/-! ## 1. Readings -/

/-- The health with which a server counts as ready: good, or a warning if that will do. -/
def ReadyHealth.Counts (ready : ReadyHealth) (health : Option String) : Prop :=
  health = some Health.ok ∨ ready = .warning ∧ health = some Health.warning

theorem ReadyHealth.accepts_iff (ready : ReadyHealth) (health : Option String) :
    ready.accepts health = true ↔ ready.Counts health := by
  unfold accepts Counts
  rw [Bool.or_eq_true, Bool.and_eq_true, beq_iff_eq, beq_iff_eq, beq_iff_eq]

/-- A server is read as having reached a status only if it has it, with ready health. -/
theorem Instance.reaching_wanted {i : Instance} {wanted : String} {ready : ReadyHealth}
    {fault : Option String} (h : i.reaching wanted ready = ⟨some wanted, fault⟩)
    (herror : wanted ≠ State.error) (hbuild : wanted ≠ State.build) :
    i.status = some wanted ∧ ready.Counts i.health := by
  unfold reaching at h
  cases hstatus : i.status with
  | none =>
    rw [hstatus] at h
    cases h
  | some raw =>
    rw [hstatus] at h
    simp only at h
    split at h
    · exact absurd (Option.some.inj (congrArg Reading.status h)).symm herror
    · split at h
      · rename_i hready
        obtain ⟨rfl, haccepts⟩ := hready
        exact ⟨rfl, (ready.accepts_iff i.health).1 haccepts⟩
      · exact absurd (Option.some.inj (congrArg Reading.status h)).symm hbuild

/-- A stable reading comes from good health, and that counts whatever will do. -/
theorem Instance.normalized_counts {i : Instance} {status : String} {fault : Option String}
    (h : i.normalized = ⟨some status, fault⟩) (hstable : status ∈ [State.active, State.shutoff]) :
    i.status = some status ∧ ReadyHealth.Counts .ok i.health := by
  rw [List.mem_cons, List.mem_singleton] at hstable
  obtain ⟨hstatus, hhealth⟩ := Instance.normalized_stable h hstable
  exact ⟨hstatus, .inl hhealth⟩

/-! ## 2. The last exchange -/

/-- The exchange is a lookup that shows the server in this status, with ready health. -/
def ShowsSettled (id : String) (ready : ReadyHealth) (status : String)
    (e : Exchange interface) : Prop :=
  ∃ c : (query (.getInstance id)).Call, e = c.exchange ∧
    ∃ i : Instance, c.result = .ok i ∧ i.status = some status ∧ ready.Counts i.health

/-- The status is one of these, and the last exchange shows the server in it. -/
def EndsSettled (id : String) (ready : ReadyHealth) (statuses : List String)
    (exchanges : List (Exchange interface)) (status : String) : Prop :=
  status ∈ statuses ∧ ∃ e, exchanges.getLast? = some e ∧ ShowsSettled id ready status e

namespace EndsSettled

variable {id : String} {ready : ReadyHealth} {statuses : List String} {status : String}
  {exchanges : List (Exchange interface)}

theorem of_looks {looks : List (query (.getInstance id)).Call} {i : Instance}
    (hends : EndsWith looks (.ok i)) (hmem : status ∈ statuses)
    (hi : i.status = some status ∧ ready.Counts i.health) :
    EndsSettled id ready statuses (looks.map Query.Call.exchange) status := by
  obtain ⟨c, hlast, hresult⟩ := hends
  refine ⟨hmem, c.exchange, ?_, c, rfl, i, hresult, hi⟩
  rw [List.getLast?_map, hlast]
  rfl

theorem append (h : EndsSettled id ready statuses exchanges status)
    (before : List (Exchange interface)) :
    EndsSettled id ready statuses (before ++ exchanges) status := by
  obtain ⟨hmem, e, hlast, hshows⟩ := h
  refine ⟨hmem, e, ?_, hshows⟩
  rw [List.getLast?_append, hlast, Option.some_or]

end EndsSettled

/-! ## 3. Waits and actions -/

/-- The operations on a server that wait for a status. -/
inductive ServerOperation where
  | waitAvailable (ready : ReadyHealth)
  | waitShutoff (ready : ReadyHealth)
  | waitStopped
  | waitResized
  | start
  | stop

namespace ServerOperation

/-- The operation in a workspace. -/
def run (ws : Workspace) (R : Remote interface σ) (id : String) :
    ServerOperation → Operate σ String
  | .waitAvailable ready => ws.waitInstanceAvailable R id ready
  | .waitShutoff ready => ws.waitInstanceShutoff R id ready
  | .waitStopped => ws.waitInstanceStopped R id
  | .waitResized => ws.waitInstanceResized R id
  | .start => ws.startInstance R id
  | .stop => ws.stopInstance R id

/-- The statuses with which the operation may succeed. -/
def statuses : ServerOperation → List String
  | .waitAvailable _ | .start => [State.active]
  | .waitShutoff _ | .waitStopped | .stop => [State.shutoff]
  | .waitResized => [State.active, State.shutoff]

/-- The health with which the operation may succeed. -/
def ready : ServerOperation → ReadyHealth
  | .waitAvailable ready | .waitShutoff ready => ready
  | _ => .ok

end ServerOperation

section Ends

variable (ws : Workspace) (R : Remote interface σ) (id : String)

/-- A wait for a server ends with what it waits for, if a target reading means the status itself. -/
theorem wait_settled {p : Policy} {operation : Operation} {read : Instance → Reading}
    {ready : ReadyHealth} {statuses : List String} (hdelete : operation ≠ .delete)
    (htargets : p.target = .ofList statuses)
    (hread : ∀ i status fault, status ∈ statuses → read i = ⟨some status, fault⟩ →
      i.status = some status ∧ ready.Counts i.health) :
    Task.Ends (ws.wait R p operation (look (.getInstance id) read)) fun exchanges o =>
      ∀ status, o = some (.ok status) → EndsSettled id ready statuses exchanges status := by
  refine (ws.wait_shows p hdelete (.getInstance id) read).mono ?_
  rintro _ o ⟨looks, rfl, hlast⟩ status ho
  obtain ⟨htarget, i, fault, hends, hi⟩ := hlast status ho
  have hmem : status ∈ statuses := by
    rw [htargets] at htarget
    exact StateSet.mem_ofList.1 htarget
  exact .of_looks hends hmem (hread i status fault hmem hi)

theorem waitReaching_settled {wanted : String} (herror : wanted ≠ State.error)
    (hbuild : wanted ≠ State.build) (ready : ReadyHealth) :
    Task.Ends (ws.wait R (Preset.instanceReaching wanted ready) .create
        (look (.getInstance id) (Instance.reaching wanted ready))) fun exchanges o =>
      ∀ status, o = some (.ok status) → EndsSettled id ready [wanted] exchanges status := by
  refine wait_settled ws R id (by decide) rfl fun i status fault hmem hi => ?_
  rw [List.mem_singleton.1 hmem] at hi ⊢
  exact Instance.reaching_wanted hi herror hbuild

theorem waitInstanceAvailable_settled (ready : ReadyHealth) :
    Task.Ends (ws.waitInstanceAvailable R id ready) fun exchanges o =>
      ∀ status, o = some (.ok status) → EndsSettled id ready [State.active] exchanges status :=
  waitReaching_settled ws R id (by decide) (by decide) ready

theorem waitInstanceStopped_settled :
    Task.Ends (ws.waitInstanceStopped R id) fun exchanges o =>
      ∀ status, o = some (.ok status) → EndsSettled id .ok [State.shutoff] exchanges status := by
  refine wait_settled ws R id (by decide) rfl fun i status fault hmem hi => ?_
  exact Instance.normalized_counts hi (List.mem_cons_of_mem _ hmem)

theorem waitInstanceResized_settled :
    Task.Ends (ws.waitInstanceResized R id) fun exchanges o =>
      ∀ status, o = some (.ok status) →
        EndsSettled id .ok [State.active, State.shutoff] exchanges status :=
  wait_settled ws R id (by decide) rfl fun _ _ _ hmem hi => Instance.normalized_counts hi hmem

/-- An action that has been taken changes nothing about what the wait after it shows. -/
theorem act_settled {q : Request} {wait : Operate σ String} {ready : ReadyHealth}
    {statuses : List String}
    (hwait : Task.Ends wait fun exchanges o =>
      ∀ status, o = some (.ok status) → EndsSettled id ready statuses exchanges status) :
    Task.Ends (do discard (Workspace.demand R q); wait : Operate σ String) fun exchanges o =>
      ∀ status, o = some (.ok status) → EndsSettled id ready statuses exchanges status := by
  refine .discard_bind (Workspace.demand_ends q) (fun _ _ _ h => by cases h)
    (fun _ _ _ _ h => by cases h) fun before _ _ => hwait.mono fun later o hlast status ho => ?_
  exact (hlast status ho).append before

/-- **An operation on a server succeeds only with a status that its last request shows.** -/
theorem ServerOperation.run_settled (op : ServerOperation) :
    Task.Ends (op.run ws R id) fun exchanges o =>
      ∀ status, o = some (.ok status) →
        EndsSettled id op.ready op.statuses exchanges status := by
  cases op with
  | waitAvailable ready => exact waitInstanceAvailable_settled ws R id ready
  | waitShutoff ready => exact waitReaching_settled ws R id (by decide) (by decide) ready
  | waitStopped => exact waitInstanceStopped_settled ws R id
  | waitResized => exact waitInstanceResized_settled ws R id
  | start => exact act_settled R id (waitInstanceAvailable_settled ws R id .ok)
  | stop => exact act_settled R id (waitInstanceStopped_settled ws R id)

end Ends

end Settle.Cloud
