/-
Deletions of servers, volumes and snapshots.

A deletion is one request and then a wait in which the resource is looked up until
it is gone. The three deletions (`delete_instance`, `delete_volume`, `delete_snapshot`)
differ in their requests and in the policy of the
wait, and in nothing else, so they are one operation with a parameter. Its result
does not depend on what the lookups say about the status of the resource: a
deletion succeeds exactly if the resource was seen to be gone, which `SeenGone` says
in terms of the lookups and their times.

The wait is a vigil, and `Vigil.SettledAt` says with which of its answers it ends.
What is left to show here is that an answer with which it converges is one that
finds the resource gone, and the other way round.
-/
import Settle.Cloud.Instances
import Settle.Cloud.Storage
import Settle.Proofs.Cloud.Workspace
import Settle.Proofs.Vigil.Settlement

set_option autoImplicit false

namespace Settle.Cloud

variable {σ : Type}

/-! ## 1. The three deletions -/

/-- A deletion that is waited for. -/
inductive Deletion where
  | server (id : String)
  | volume (id : String) (timeout : Option Nat)
  | snapshot (id : String) (timeout : Option Nat)

namespace Deletion

/-- The operation. -/
def run (ws : Workspace) (R : Remote interface σ) : Deletion → Operate σ Unit
  | .server id => ws.deleteInstance R id
  | .volume id timeout => ws.deleteVolume R id timeout
  | .snapshot id timeout => ws.deleteSnapshot R id timeout

/-- The request that deletes the resource. -/
def request : Deletion → Request
  | .server id => .deleteInstance id
  | .volume id _ => .deleteVolume id
  | .snapshot id _ => .deleteSnapshot id

/-- The request that looks the resource up. -/
def lookup : Deletion → Request
  | .server id => .getInstance id
  | .volume id _ => .getVolume id
  | .snapshot id _ => .getSnapshot id

/-- How a resource that is still there is read. -/
def reading : (d : Deletion) → d.lookup.Value → Reading
  | .server _ => Instance.deleting
  | .volume _ _ => Volume.deleting
  | .snapshot _ _ => Snapshot.deleting

/-- The policy of the wait. -/
def policy (ws : Workspace) : Deletion → Policy
  | .server _ => Preset.instanceDeleted
  | .volume _ timeout => Preset.volumeDeleted (ws.config.timeout timeout)
  | .snapshot _ timeout => Preset.snapshotDeleted (ws.config.timeout timeout)

variable (d : Deletion) (ws : Workspace)

/-- All deletions are the same operation. -/
theorem run_eq (R : Remote interface σ) :
    d.run ws R =
      Workspace.delete R d.request (ws.wait R (d.policy ws) .delete (look d.lookup d.reading)) := by
  cases d <;> rfl

/-- The resource is not looked up all the time. -/
theorem one_le_tick : 1 ≤ (d.policy ws).tick := by
  have hinterval : (d.policy ws).pollInterval = 10000 := by cases d <;> rfl
  have htick : (d.policy ws).pollInterval ≤ (d.policy ws).tick := Nat.le_max_left _ _
  omega

/-- It is not looked up at once, either. -/
theorem initialDelay_pos : 0 < (d.policy ws).initialDelay := by
  have hdelay : (d.policy ws).initialDelay = Preset.seconds 10 := by cases d <;> rfl
  rw [hdelay]
  decide

/-- A resource that is still there is waited for, whatever its status. -/
theorem judge_reading (x : d.lookup.Value) : (d.policy ws).judge (d.reading x) = none := by
  cases d <;> rfl

end Deletion

/-! ## 2. Seeing that a resource is gone -/

section Calls

variable {q : Request}

/-- The answer to the call is that the resource does not exist. -/
def FindsAbsent (c : (query q).Call) : Prop :=
  ∃ e, c.result = .error e ∧ RemoteFailure.classify e = .absent

/-- The call found the resource, or it failed for a passing reason. -/
def LeavesOpen (c : (query q).Call) : Prop := (∃ value, c.result = .ok value) ∨ c.Passes

/-- Nothing cancels what begins in a world before the answer to a call arrives: the token has not
fired, it is not due before, and no answer to an earlier call fires it. -/
structure Undisturbed (w : World interface σ) (before : List (query q).Call) (c : (query q).Call) :
    Prop where
  unfired : w.token.fired = false
  not_due : ∀ t, w.token.due = some t → c.arrival ≤ t
  not_cancelled : ∀ b ∈ before, b.answer.cancels = false

end Calls

namespace Deletion

variable (d : Deletion) (ws : Workspace)

/-- Some lookup of a wait that begins in `w` finds that the resource does not exist. Its answer
arrives before the time is over, nothing cancels the wait before that, and every earlier lookup
leaves the matter open. -/
def SeenGone (w : World interface σ) (lookups : List (query d.lookup).Call) : Prop :=
  ∃ before c after, lookups = before ++ c :: after ∧ FindsAbsent c ∧ (∀ b ∈ before, LeavesOpen b) ∧
    c.arrival < w.now + (d.policy ws).timeout ∧ (ws.heeds = true → Undisturbed w before c)

/-! ## 3. The wait as a vigil -/

/-- The wait of a deletion under a policy that makes sense. -/
def vigil (R : Remote interface σ) (w : World interface σ) (p : ValidPolicy) :
    Vigil interface σ ApiFailure where
  wait := ⟨p, ws.heeds⟩
  remote := R
  operation := .delete
  query := look d.lookup d.reading
  world := w

section Vigil

variable {d ws} {R : Remote interface σ} {w : World interface σ} {p : ValidPolicy}

/-- Look `k` of the wait, as a lookup. -/
def call (d : Deletion) (ws : Workspace) (R : Remote interface σ) (w : World interface σ)
    (p : ValidPolicy) (k : Nat) : (query d.lookup).Call :=
  ⟨(d.vigil ws R w p).askedAt k, (d.vigil ws R w p).answer k⟩

/-- The first `n` lookups. -/
def calls (d : Deletion) (ws : Workspace) (R : Remote interface σ) (w : World interface σ)
    (p : ValidPolicy) (n : Nat) : List (query d.lookup).Call :=
  (List.range n).map (d.call ws R w p)

theorem map_calls (n : Nat) :
    (d.calls ws R w p n).map Query.Call.exchange = (d.vigil ws R w p).exchanges n := by
  unfold calls
  rw [List.map_map]
  rfl

section Verdict

variable (hp : p.toPolicy = d.policy ws) (k : Nat)
include hp

/-- Only a lookup that failed is judged. -/
theorem verdict_eq :
    (d.vigil ws R w p).verdict k =
      match (d.call ws R w p k).result with
      | .ok _ => none
      | .error e => (d.policy ws).judgeFailure .delete e := by
  have hresponse : (d.vigil ws R w p).response k = (d.call ws R w p k).result.map d.reading := rfl
  unfold Vigil.verdict
  rw [hresponse]
  change p.toPolicy.verdict .delete _ = _
  rw [hp]
  cases (d.call ws R w p k).result with
  | ok x => exact d.judge_reading ws x
  | error e => rfl

theorem verdict_eq_none_iff :
    (d.vigil ws R w p).verdict k = none ↔ LeavesOpen (d.call ws R w p k) := by
  rw [verdict_eq hp]
  unfold LeavesOpen Query.Call.Passes
  cases (d.call ws R w p k).result with
  | ok x => simp
  | error e =>
    simp only [Policy.judgeFailure]
    cases hclass : RemoteFailure.classify e <;> simp [hclass]

theorem verdict_converged_iff {status : String} :
    (d.vigil ws R w p).verdict k = some (.converged status) ↔
      status = deletedStatus ∧ FindsAbsent (d.call ws R w p k) := by
  rw [verdict_eq hp]
  unfold FindsAbsent
  cases (d.call ws R w p k).result with
  | ok x => simp
  | error e =>
    simp only [Policy.judgeFailure]
    cases hclass : RemoteFailure.classify e <;> simp [hclass, eq_comm]

end Verdict

/-- An answer with which the wait converges finds the resource gone. -/
theorem seenGone_of_settledAt (hp : p.toPolicy = d.policy ws) {n : Nat} {status : String}
    (h : (d.vigil ws R w p).SettledAt n (.converged status)) :
    d.SeenGone ws w (d.calls ws R w p (n + 1)) := by
  have htick : 1 ≤ p.tick := by
    rw [hp]
    exact d.one_le_tick ws
  obtain ⟨hverdict, hbefore⟩ := Vigil.firstSettledBy_iff.1 h.first
  have habsent := ((verdict_converged_iff hp n).1 hverdict).2
  have hsucc : d.calls ws R w p (n + 1) = d.calls ws R w p n ++ [d.call ws R w p n] := by
    unfold calls
    rw [List.range_succ, List.map_append, List.map_singleton]
  have hintime : (d.call ws R w p n).arrival < w.now + (d.policy ws).timeout := by
    rw [← hp]
    exact h.intime
  refine ⟨_, _, [], hsucc, habsent, fun b hb => ?_, hintime, fun hheeds => ⟨?_, ?_, ?_⟩⟩
  · obtain ⟨k, hk, rfl⟩ := List.mem_map.1 hb
    exact (verdict_eq_none_iff hp k).1 (hbefore k (List.mem_range.1 hk))
  -- What keeps a vigil calm until its answer is what `Undisturbed` asks for, part by part.
  · exact h.calm.unfired hheeds
  · exact fun t hdue => h.calm.le_due hheeds hdue
  · intro b hb
    obtain ⟨k, hk, rfl⟩ := List.mem_map.1 hb
    have hlt := Vigil.arrivesAt_lt_askedAt (v := d.vigil ws R w p) htick (List.mem_range.1 hk)
    have hle := Vigil.askedAt_le_arrivesAt (v := d.vigil ws R w p) n
    exact h.calm.not_cancels (k := k) (by omega) hheeds

/-- If a sequence is split, the call at the split is the one with the index of the split, and all
before it have come before. -/
theorem of_calls_eq_append {n : Nat} {before after : List (query d.lookup).Call}
    {c : (query d.lookup).Call} (h : d.calls ws R w p n = before ++ c :: after) :
    c = d.call ws R w p before.length ∧ ∀ k < before.length, d.call ws R w p k ∈ before := by
  -- Both sides are compared by index, where the left one is the call of that index.
  have hlength : n = before.length + (after.length + 1) := by
    have := congrArg List.length h
    simpa [calls] using this
  have hget : ∀ k : Nat, (d.calls ws R w p n)[k]? = (before ++ c :: after)[k]? := fun k => by rw [h]
  have hcall : ∀ k < n, (d.calls ws R w p n)[k]? = some (d.call ws R w p k) := fun k hk => by
    rw [calls, List.getElem?_map, List.getElem?_range hk, Option.map_some]
  constructor
  · have hc := hget before.length
    rw [hcall _ (by omega), List.getElem?_append_right (Nat.le_refl _), Nat.sub_self,
      List.getElem?_cons_zero, Option.some.injEq] at hc
    exact hc.symm
  · intro k hk
    have hb := hget k
    rw [hcall _ (by omega), List.getElem?_append_left hk] at hb
    exact List.mem_of_getElem? hb.symm

/-- If some lookup finds the resource gone in time, the wait converges. -/
theorem exists_settledAt (hp : p.toPolicy = d.policy ws) {n : Nat}
    (h : d.SeenGone ws w (d.calls ws R w p n)) :
    ∃ k, (d.vigil ws R w p).SettledAt k (.converged deletedStatus) := by
  have htick : 1 ≤ p.tick := by
    rw [hp]
    exact d.one_le_tick ws
  obtain ⟨before, c, after, hcalls, habsent, hopen, hintime, hquiet⟩ := h
  obtain ⟨rfl, hmem⟩ := of_calls_eq_append hcalls
  have hverdict := (verdict_converged_iff hp before.length).2 ⟨rfl, habsent⟩
  have hbefore : ∀ k < before.length, (d.vigil ws R w p).verdict k = none := fun k hk =>
    (verdict_eq_none_iff hp k).2 (hopen _ (hmem k hk))
  refine ⟨before.length, Vigil.firstSettledBy_iff.2 ⟨hverdict, hbefore⟩, ?_, ?_, ?_⟩
  · rw [← hp] at hintime
    exact hintime
  · exact fun hheeds => (hquiet hheeds).unfired
  · rintro t ⟨hheeds, hdue | ⟨k, hcancels, rfl⟩⟩
    · exact (hquiet hheeds).not_due t hdue
    · -- An answer that cancels is not one of those before, so it arrives no earlier.
      by_cases hk : k < before.length
      · have hnot := (hquiet hheeds).not_cancelled _ (hmem k hk)
        rw [show (d.call ws R w p k).answer.cancels = true from hcancels] at hnot
        exact absurd hnot.symm Bool.false_ne_true
      · exact Vigil.arrivesAt_mono htick (by omega)

end Vigil

/-! ## 4. The result of a deletion -/

/-- **The wait of a deletion converges exactly if the resource is seen to be gone.** -/
theorem wait_converges_iff {p : ValidPolicy} (hp : p.toPolicy = d.policy ws)
    (R : Remote interface σ) (w : World interface σ) :
    ∃ (outcome : Outcome) (lookups : List (query d.lookup).Call) (after : World interface σ),
      (Wait.run ⟨p, ws.heeds⟩ R .delete (look d.lookup d.reading)).runIn w =
        (some outcome, after) ∧
      after.trace.toList = w.trace.toList ++ lookups.map Query.Call.exchange ∧
      ((∃ status, outcome = .converged status) ↔ d.SeenGone ws w lookups) := by
  have htick : 1 ≤ p.tick := by
    rw [hp]
    exact d.one_le_tick ws
  have hdelay : 0 < p.initialDelay := by
    rw [hp]
    exact d.initialDelay_pos ws
  -- A vigil is settled by an answer or cut short, and is seen to converge in the first case only.
  by_cases hsettled : ∃ n outcome, (d.vigil ws R w p).SettledAt n outcome
  · obtain ⟨n, outcome, hsettled⟩ := hsettled
    obtain ⟨after, hrun, htrace⟩ := hsettled.run_eq htick
    rw [← map_calls] at htrace
    refine ⟨outcome, _, after, hrun, htrace, ?_, fun hgone => ?_⟩
    · rintro ⟨status, rfl⟩
      exact seenGone_of_settledAt hp hsettled
    · -- The wait converges, and it has only one outcome.
      obtain ⟨k, hconverged⟩ := exists_settledAt hp hgone
      obtain ⟨_, hrun', -⟩ := hconverged.run_eq htick
      rw [hrun, Prod.mk.injEq, Option.some.injEq] at hrun'
      exact ⟨_, hrun'.1⟩
  · have hnone : ∀ n outcome, ¬ (d.vigil ws R w p).SettledAt n outcome := fun n outcome h =>
      hsettled ⟨n, outcome, h⟩
    obtain ⟨cause, n, after, hrun, htrace⟩ :=
      Vigil.cutShort_of_unsettled htick (fun _ _ => .inr hdelay) hnone
    rw [← map_calls] at htrace
    refine ⟨_, _, after, hrun, htrace, ?_, fun hgone => ?_⟩
    · rintro ⟨status, hstatus⟩
      cases hstatus
    · obtain ⟨k, hconverged⟩ := exists_settledAt hp hgone
      exact absurd hconverged (hnone k _)

/-- Without a single lookup nothing is seen. -/
theorem not_seenGone_nil (w : World interface σ) : ¬ d.SeenGone ws w [] := by
  rintro ⟨before, c, after, hnil, -⟩
  simp at hnil

/-- So does the whole wait, which is refused without a lookup under a timeout of zero. -/
theorem discard_wait_ok_iff (R : Remote interface σ) (w : World interface σ) :
    ∃ (result : Except OperationError Unit) (lookups : List (query d.lookup).Call)
      (after : World interface σ),
      (discard (ws.wait R (d.policy ws) .delete (look d.lookup d.reading))).run.runIn w =
        (some result, after) ∧
      after.trace.toList = w.trace.toList ++ lookups.map Query.Call.exchange ∧
      (result = .ok () ↔ d.SeenGone ws w lookups) := by
  -- Of the three policies only those with a timeout of the caller's can be refused.
  cases hvalid : (d.policy ws).validate with
  | error e =>
    have hwait := Workspace.runIn_wait_of_invalid R w ws hvalid .delete (look d.lookup d.reading)
    refine ⟨_, [], w, Task.runIn_discard hwait, (List.append_nil _).symm, ?_, fun hgone => ?_⟩
    · intro h
      cases h
    · exact absurd hgone (d.not_seenGone_nil ws w)
  | ok p =>
    obtain ⟨outcome, lookups, after, hrun, htrace, hiff⟩ :=
      d.wait_converges_iff ws (Policy.eq_of_validate hvalid) R w
    have hwait := Workspace.runIn_wait_of_valid R w ws hvalid .delete _ hrun
    refine ⟨_, lookups, after, Task.runIn_discard hwait, htrace, ?_⟩
    rw [← hiff]
    -- Every other outcome is an error.
    constructor
    · intro hok
      rcases outcome with status | ⟨reason, fault, kind⟩ | cause
      · exact ⟨status, rfl⟩
      · cases kind <;> cases hok
      · cases hok
    · rintro ⟨status, rfl⟩
      rfl

/-- **A deletion succeeds exactly if the resource is gone when it is to be deleted, or is seen to be
gone afterwards.** It makes its request first and only once, and looks nothing up if the request
fails. -/
theorem run_ok_iff (R : Remote interface σ) (w : World interface σ) :
    ∃ (result : Except OperationError Unit) (lookups : List (query d.lookup).Call)
      (after : World interface σ),
      (d.run ws R).run.runIn w = (some result, after) ∧
      after.trace.toList = w.trace.toList ++
        (w.callOf R (query d.request)).exchange :: lookups.map Query.Call.exchange ∧
      (result = .ok () ↔
        FindsAbsent (w.callOf R (query d.request)) ∨
          (∃ value, (w.callOf R (query d.request)).result = .ok value) ∧
            d.SeenGone ws (w.call R (query d.request)).2 lookups) ∧
      ∀ e, (w.callOf R (query d.request)).result = .error e →
        lookups = [] ∧
          (RemoteFailure.classify e ≠ .absent → result = .error (Workspace.failed e)) := by
  have htrace := (w.leads_call R (query d.request)).trace_eq
  rw [run_eq, Workspace.runIn_delete]
  unfold FindsAbsent
  cases hissued : (w.callOf R (query d.request)).result with
  | error e =>
    refine ⟨_, [], _, rfl, htrace, ?_, ?_⟩
    · by_cases habsent : RemoteFailure.classify e = .absent
      · simp [habsent]
      · simp [habsent]
    · rintro _ ⟨⟩
      exact ⟨rfl, fun habsent => if_neg habsent⟩
  | ok value =>
    obtain ⟨result, lookups, after, hrun, htrace', hiff⟩ :=
      d.discard_wait_ok_iff ws R (w.call R (query d.request)).2
    refine ⟨result, lookups, after, hrun, ?_, ?_, ?_⟩
    · rw [htrace', htrace, List.append_assoc]
      rfl
    · rw [hiff]
      simp
    · rintro _ ⟨⟩

end Deletion

end Settle.Cloud
