/-
What the operations of a workspace are made of.

Every operation is put together from the same few steps: a request that is made
once, a request that is repeated, and a wait. The first part says how each of them
runs, for operations that are followed request by request; the second says which
exchanges each of them makes, for operations that repeat their requests.
-/
import Settle.Cloud.Workspace
import Settle.Proofs.Calls.Loops

set_option autoImplicit false

namespace Settle.Cloud.Workspace

variable {σ α : Type}

/-! ## 1. How the steps run -/

section Run

variable (R : Remote interface σ) (q : Request) (w : World interface σ)

/-- An operation that asks for something goes on with the answer, when it has arrived. -/
theorem runIn_ask_bind (f : Except ApiFailure q.Value → Operate σ α) :
    (ask R q >>= f).run.runIn w =
      (f (w.callOf R (query q)).result).run.runIn (w.call R (query q)).2 :=
  rfl

/-- A request that failed ends the operation that demands it. -/
theorem runIn_demand_bind (f : q.Value → Operate σ α) :
    (demand R q >>= f).run.runIn w =
      match (w.callOf R (query q)).result with
      | .ok value => (f value).run.runIn (w.call R (query q)).2
      | .error e => (some (.error (failed e)), (w.call R (query q)).2) := by
  unfold demand
  rw [bind_assoc, runIn_ask_bind]
  cases (w.callOf R (query q)).result with
  | ok value => rfl
  | error e => rfl

/-- A deletion waits once its request has succeeded, and only then. -/
theorem runIn_delete (waitDeleted : Operate σ String) :
    (delete R q waitDeleted).run.runIn w =
      match (w.callOf R (query q)).result with
      | .ok _ => (discard waitDeleted).run.runIn (w.call R (query q)).2
      | .error e =>
        (some (if RemoteFailure.classify e = .absent then .ok () else .error (failed e)),
          (w.call R (query q)).2) := by
  unfold delete
  rw [runIn_ask_bind]
  cases (w.callOf R (query q)).result with
  | ok _ => rfl
  | error e =>
    simp only
    split <;> rfl

/-- A wait under a policy that makes no sense is over before it begins. -/
theorem runIn_wait_of_invalid (ws : Workspace) {p : Policy} {e : Error} (h : p.validate = .error e)
    (operation : Operation) (look : Query interface (Except ApiFailure Reading)) :
    (ws.wait R p operation look).run.runIn w = (some (.error (.unsettled e)), w) := by
  unfold wait
  rw [h]
  rfl

/-- Any other wait ends as waits do. -/
theorem runIn_wait_of_valid (ws : Workspace) {p : Policy} {valid : ValidPolicy}
    (h : p.validate = .ok valid) (operation : Operation)
    (look : Query interface (Except ApiFailure Reading)) {outcome : Outcome}
    {w' : World interface σ}
    (hrun : (Wait.run ⟨valid, ws.heeds⟩ R operation look).runIn w = (some outcome, w')) :
    (ws.wait R p operation look).run.runIn w =
      (some (outcome.result.mapError .unsettled), w') := by
  -- The wait proper, before its error is put among those of operations.
  have hsettle : (do
      let policy ← (p.validate : Except Error ValidPolicy)
      Wait.settle ⟨policy, ws.heeds⟩ R operation look : Task interface σ Error String).run.runIn w =
        (some outcome.result, w') := by
    rw [h]
    exact Act.runIn_map_of_some hrun Outcome.result
  exact Act.runIn_map_of_some hsettle (Except.mapError OperationError.unsettled)

end Run

/-! ## 2. Which exchanges they make -/

section Ends

variable {R : Remote interface σ}

/-- A request that is insisted on is repeated until it succeeds or there is no use in it. -/
theorem insist_ends (ws : Workspace) (q : Request) :
    Task.Ends (ws.insist R q) fun exchanges o =>
      ∃ calls : List (query q).Call, exchanges = calls.map Query.Call.exchange ∧
        Tries ws.config.retry.maxAttempts calls ∧
        ∀ value, o = some (.ok value) ↔ EndsWith calls (.ok value) := by
  refine .adapt ((ws.config.retry.call_ends ws.heeds).mono ?_)
  rintro _ o ⟨calls, rfl, htries, hlast⟩
  exact ⟨calls, rfl, htries, fun value => Task.mapError_eq_some_ok.trans (hlast value)⟩

/-- A wait makes nothing but looks. -/
theorem wait_ends (ws : Workspace) (p : Policy) (operation : Operation) (q : Request)
    (read : q.Value → Reading) :
    Task.Ends (ws.wait R p operation (look q read)) fun exchanges _ =>
      ∃ looks : List (query q).Call, exchanges = looks.map Query.Call.exchange := by
  refine .adapt (.lift_bind (fun e _ => ⟨[], rfl⟩) fun valid _ => Act.Yields.map ?_)
  refine (Wait.run_spec ⟨valid, ws.heeds⟩).mono ?_
  -- A look is the request itself with its answer read, so its exchange is that of the request.
  rintro _ o ⟨looks, rfl, -⟩
  exact ⟨looks.map Query.Call.ofMap, (Query.Call.map_ofMap looks).symm⟩

/-- A request that is made once is one exchange, and gives the answer as it is -/
theorem ask_ends (q : Request) :
    Task.Ends (ask R q) fun exchanges o =>
      ∃ c : (query q).Call, exchanges = [c.exchange] ∧ o = some (.ok c.result) :=
  fun w => ⟨_, w.leads_call R (query q), w.callOf R (query q), rfl, rfl⟩

/-- or fails if it is a failure. -/
theorem demand_ends (q : Request) :
    Task.Ends (demand R q) fun exchanges _ =>
      ∃ c : (query q).Call, exchanges = [c.exchange] := by
  unfold demand
  refine .bind (ask_ends q) (fun _ ⟨c, h, _⟩ => ⟨c, h⟩) (fun _ _ ⟨c, h, _⟩ => ⟨c, h⟩) ?_
  rintro _ answer ⟨c, rfl, -⟩
  cases answer with
  | ok value => exact .pure ⟨c, rfl⟩
  | error e => exact Act.Yields.pure ⟨c, rfl⟩

/-- **A wait that succeeds has last seen a resource whose reading is a target of its policy.** -/
theorem wait_shows (ws : Workspace) (p : Policy) {operation : Operation}
    (hdelete : operation ≠ .delete) (q : Request) (read : q.Value → Reading) :
    Task.Ends (ws.wait R p operation (look q read)) fun exchanges o =>
      ∃ looks : List (query q).Call, exchanges = looks.map Query.Call.exchange ∧
        ∀ status, o = some (.ok status) → status ∈ p.target ∧
          ∃ value fault, EndsWith looks (.ok value) ∧ read value = ⟨some status, fault⟩ := by
  refine .adapt (.lift_bind (fun e _ => ⟨[], rfl, fun _ h => by cases h⟩) fun valid hvalid => ?_)
  have hsettle : Task.Yields (Wait.settle ⟨valid, ws.heeds⟩ R operation (look q read)) _ :=
    Wait.settle_spec ⟨valid, ws.heeds⟩ hdelete
  refine Act.Yields.mono hsettle ?_
  rintro _ o ⟨looks, rfl, -, hlast⟩
  refine ⟨looks.map Query.Call.ofMap, (Query.Call.map_ofMap looks).symm, fun status ho => ?_⟩
  have hok : o = some (.ok status) := Task.mapError_eq_some_ok.1 ho
  obtain ⟨htarget, fault, hends⟩ := hlast status (Task.toOption_eq_some.2 hok)
  -- The look is the request itself with its answer read, so the raw answer is still at hand.
  obtain ⟨answer, hanswer, hread⟩ := hends.ofMap
  rw [Policy.eq_of_validate hvalid] at htarget
  cases answer with
  | error e => cases hread
  | ok value => exact ⟨htarget, value, fault, hanswer, Except.ok.inj hread⟩

end Ends

end Settle.Cloud.Workspace
