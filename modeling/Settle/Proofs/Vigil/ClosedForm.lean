/-
A vigil without cancellation, in closed form.

Let answer `n` be the first that settles the matter. If it arrives before the
deadline, the vigil ends with its arrival, by the rule that it meets, after looks
`0` to `n`. Otherwise it ends at the deadline, after the looks up to `n` that begin
before. An answer at the deadline itself comes too late, and so does a look that
would begin then.

Which answers settle the matter is said by `Policy.Settles`, and when they are asked
for and arrive by `Vigil.askedAt` and `Vigil.arrivesAt`: neither mentions a run.
-/
import Settle.Proofs.Vigil.Run
import Settle.Rehearsal

set_option autoImplicit false

namespace Settle

namespace Vigil

/-! ## The closed form -/

section ClosedForm

variable {I : Interface} {σ ε : Type} [RemoteFailure ε] (v : Vigil I σ ε)

/-- Answer `n` settles the matter, with this outcome. -/
def SettledBy (n : Nat) (outcome : Outcome) : Prop :=
  v.wait.policy.Settles v.operation (v.response n) outcome

/-- Answer `n` is the first to settle the matter, with this outcome. -/
structure FirstSettledBy (n : Nat) (outcome : Outcome) : Prop where
  settled : v.SettledBy n outcome
  not_before : ∀ k < n, ∀ other, ¬ v.SettledBy k other

variable {v}

theorem settledBy_iff {n : Nat} {outcome : Outcome} :
    v.SettledBy n outcome ↔ v.verdict n = some outcome :=
  (v.wait.policy.verdict_eq_some_iff _ _ _).symm

theorem not_settledBy_iff {n : Nat} :
    (∀ outcome, ¬ v.SettledBy n outcome) ↔ v.verdict n = none := by
  rw [Option.eq_none_iff_forall_not_mem]
  exact forall_congr' fun outcome => not_congr settledBy_iff

theorem firstSettledBy_iff {n : Nat} {outcome : Outcome} :
    v.FirstSettledBy n outcome ↔
      v.verdict n = some outcome ∧ ∀ k < n, v.verdict k = none := by
  constructor
  · intro h
    exact ⟨settledBy_iff.1 h.settled, fun k hk => not_settledBy_iff.1 (h.not_before k hk)⟩
  · rintro ⟨hverdict, hbefore⟩
    exact ⟨settledBy_iff.2 hverdict, fun k hk => not_settledBy_iff.2 (hbefore k hk)⟩

/-- **The closed form of a wait.** -/
theorem run_closed_form (v : Vigil I σ ε) (htick : 1 ≤ v.wait.policy.tick)
    (hquiet : v.Uncancelled) :
    (∀ n outcome, v.FirstSettledBy n outcome → v.arrivesAt n < v.deadline →
      ∃ w, v.run = (some outcome, w) ∧ w.now = v.arrivesAt n ∧
        w.trace.toList = v.world.trace.toList ++ v.exchanges (n + 1)) ∧
    ((∀ n outcome, v.FirstSettledBy n outcome → v.deadline ≤ v.arrivesAt n) →
      ∃ w looks, v.run = (some (.timedOut .deadline), w) ∧ w.now = v.deadline ∧
        w.trace.toList = v.world.trace.toList ++ v.exchanges looks ∧
        ∀ k, k < looks ↔
          v.askedAt k < v.deadline ∧ ∀ j < k, ∀ outcome, ¬ v.SettledBy j outcome) := by
  constructor
  · intro n outcome hfirst hintime
    obtain ⟨hverdict, hbefore⟩ := firstSettledBy_iff.1 hfirst
    have hcourse := course_of_settled htick hbefore hverdict hintime
    obtain ⟨w, hshows, hrun⟩ := v.run_of_course htick hcourse (hquiet.calmUntil _)
    exact ⟨_, hrun, hshows.now_eq, hshows.trace_eq⟩
  · intro hlate
    obtain ⟨looks, remarked, hcourse, hlooks⟩ := course_of_unsettled htick
      fun n outcome hbefore hverdict => hlate n outcome (firstSettledBy_iff.2 ⟨hverdict, hbefore⟩)
    obtain ⟨w, hshows, hrun⟩ := v.run_of_course htick hcourse (hquiet.calmUntil _)
    refine ⟨_, looks, hrun, hshows.now_eq, hshows.trace_eq, fun k => (hlooks k).trans ?_⟩
    exact and_congr_right fun _ => forall₂_congr fun j _ => not_settledBy_iff.symm

end ClosedForm

/-! ## A volume being built -/

/-- A wait of 100 ms for a volume, with a look every 10 ms after 5 ms. -/
def volumeWait : Wait where
  policy :=
    { timeout := 100
      subject := "volume"
      pending := ⟨["BUILD"], List.pairwise_singleton _ _⟩
      target := ⟨["ACTIVE"], List.pairwise_singleton _ _⟩
      fatal := ⟨["ERROR"], List.pairwise_singleton _ _⟩
      pollInterval := 10
      initialDelay := 5
      valid := by decide }
  heeds := true

/-- The volume is being built, the service is busy, the volume is there. -/
def volumeAnswers : Nat → Answer (Except Rehearsal.Failure Reading)
  | 0 => { response := .ok (.of "BUILD"), delay := 3 }
  | 1 => { response := .error { message := "busy", transient := true }, delay := 7 }
  | _ => { response := .ok (.of "ACTIVE"), delay := 2 }

theorem volumeAnswers_cancels (k : Nat) : (volumeAnswers k).cancels = false := by
  rcases k with _ | _ | k <;> rfl

/-- The wait for the volume, begun at time 50 with a token in some state. -/
def volume (token : Token) : Vigil ⟨Unit, fun _ => Except Rehearsal.Failure Reading⟩ Nat
    Rehearsal.Failure :=
  .ofAnswers volumeWait .create 50 token volumeAnswers

/-- No answer on the volume cancels, so the token fires when it is due and only then. -/
theorem fires_volume_iff (token : Token) (t : Nat) :
    (volume token).Fires t ↔ token.due = some t := by
  constructor
  · rintro ⟨-, hdue | ⟨k, hcancels, -⟩⟩
    · exact hdue
    · rw [volume, answer_ofAnswers, volumeAnswers_cancels] at hcancels
      exact absurd hcancels Bool.false_ne_true
  · intro hdue
    exact ⟨rfl, .inl hdue⟩

theorem run_closed_form_volume :
    1 ≤ (volume {}).wait.policy.tick ∧ (volume {}).Uncancelled ∧
      ∃ w, (volume {}).run = (some (.converged "ACTIVE"), w) ∧ w.now = 87 ∧
        w.trace.toList.map (·.time) = [55, 68, 85] := by
  have htick : 1 ≤ (volume {}).wait.policy.tick := by decide
  have hquiet : (volume {}).Uncancelled := by
    refine ⟨fun _ => rfl, fun t hfires => ?_⟩
    rw [fires_volume_iff] at hfires
    exact absurd hfires (by simp)
  have hfirst : (volume {}).FirstSettledBy 2 (.converged "ACTIVE") := by
    refine firstSettledBy_iff.2 ⟨by decide, fun k hk => ?_⟩
    rcases k with _ | _ | k
    · decide
    · decide
    · omega
  obtain ⟨w, hrun, hnow, htrace⟩ :=
    (run_closed_form (volume {}) htick hquiet).1 2 _ hfirst (by decide)
  refine ⟨htick, hquiet, w, hrun, hnow, ?_⟩
  rw [htrace]
  decide

end Vigil

end Settle
