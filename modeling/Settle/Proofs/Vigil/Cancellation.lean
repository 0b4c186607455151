/-
Cancelling a vigil cuts it off and changes nothing else.

The token of a vigil may fire while the initial delay passes, while an answer is
on its way, on the arrival of an answer or between two looks. `CutAt` says in which
look it does, and `round_cut` that the round of that look ends there and then. Up
to that look the vigil is calm, so it comes there as it would without the token
(`Awake.rounds_reach`), and the looks it has made by then are those of its course
that begin no later than the moment of firing.
-/
import Settle.Proofs.Calls
import Settle.Proofs.Vigil.ClosedForm

set_option autoImplicit false

namespace Settle

variable {I : Interface} {σ ε : Type}

namespace Vigil

variable {v : Vigil I σ ε} {k t : Nat}

/-! ## 1. What fires the token -/

/-- Up to its firing a token lets a vigil be. -/
theorem FiresFirst.calmUntil (hfirst : v.FiresFirst t)
    (hunfired : v.world.token.fired = false) : v.CalmUntil t :=
  ⟨fun _ => hunfired, hfirst.le_of_fires⟩

/-- A token that fires during look `k` or the pause after it does so because it is due
or on the arrival of the answer. -/
theorem Fires.due_or_cancels (htick : 1 ≤ v.wait.policy.tick) (hfires : v.Fires t)
    (hasked : v.askedAt k ≤ t) (hnext : t < v.askedAt (k + 1)) :
    v.world.token.due = some t ∨ (v.answer k).cancels = true ∧ v.arrivesAt k = t := by
  obtain ⟨-, hdue | ⟨j, hcancels, harrives⟩⟩ := hfires
  · exact .inl hdue
  · have hle := v.askedAt_le_arrivesAt j
    -- An earlier answer has arrived before look `k`, a later one is not yet asked for.
    have hjk : j = k := by
      rcases Nat.lt_trichotomy j k with hj | hj | hj
      · have := arrivesAt_lt_askedAt htick hj
        omega
      · exact hj
      · have := askedAt_mono htick (show k + 1 ≤ j by omega)
        omega
    subst hjk
    exact .inr ⟨hcancels, harrives⟩

variable [RemoteFailure ε] {w : World I σ}

/-- The token fires at `t` in the round of look `k`, after how many remarks. -/
inductive CutAt (v : Vigil I σ ε) (k t : Nat) : Nat → Prop
  /-- While the answer is on its way. -/
  | inFlight (harrives : t < v.arrivesAt k) (hintime : t < v.deadline) : CutAt v k t k
  /-- After an answer that does not settle the matter. -/
  | between (harrives : v.arrivesAt k ≤ t) (hverdict : v.verdict k = none)
      (hnext : t < v.askedAt (k + 1)) (hintime : t < v.deadline) : CutAt v k t (k + 1)

/-! ## 2. The round in which it fires -/

/-- The round in which the token fires ends there and then. -/
theorem Awake.round_cut (htick : 1 ≤ v.wait.policy.tick) (hheeds : v.wait.heeds = true)
    (hunfired : v.world.token.fired = false) (hfirst : v.FiresFirst t)
    (h : v.Awake k k (v.askedAt k) w) (hasked : v.askedAt k ≤ t) {remarked : Nat}
    (hcut : v.CutAt k t remarked) :
    ∃ w', v.Shows (k + 1) remarked t w' ∧
      (v.round k).runIn w =
        (some (.inl (.timedOut .cancelled)), w'.note (.gaveUp (.ofNat (k + 1)))) := by
  have hgate := h.gate fun _ => hunfired
  rw [UInt32.ofNat_add]
  have hsucc := v.askedAt_succ k
  cases hcut with
  | inFlight harrives hintime =>
    rcases Fires.due_or_cancels htick hfirst.fires hasked (by omega) with hdue | ⟨-, hat⟩
    · obtain ⟨w', hshows, hlook⟩ :=
        h.look_fires hheeds hunfired hdue hasked harrives hintime
      exact ⟨w', hshows, v.wait.runIn_round_of_cut hgate hlook⟩
    · -- An answer on its way has not cancelled anything.
      omega
  | between harrives hverdict hnext hintime =>
    have hcalm := hfirst.calmUntil hunfired
    obtain ⟨w', hawake, hlook⟩ := h.look_arrives (hcalm.mono harrives) (by omega)
    by_cases hcancels : (v.answer k).cancels = true
    · -- The answer fires the token, and the pause ends before it begins.
      have ht : v.arrivesAt k = t :=
        Nat.le_antisymm harrives (hfirst.le_of_fires _ ⟨hheeds, .inr ⟨k, hcancels, rfl⟩⟩)
      have hfired : ((w'.deliver (v.answer k)).remarked (v.remark k)).token.fired = true := by
        rw [World.remarked_token, World.deliver_eq, if_pos hcancels]
        rfl
      have hshows := (hawake.toShows.deliver (v.answer k)).remarked
      rw [ht] at hshows
      exact ⟨_, hshows, v.wait.runIn_round_of_pause hgate hlook hverdict
        (World.pause_of_fired _ hheeds hfired)⟩
    · have hdue : v.world.token.due = some t := by
        rcases Fires.due_or_cancels htick hfirst.fires hasked hnext with hdue | ⟨habs, -⟩
        · exact hdue
        · exact absurd habs hcancels
      have hquiet : v.wait.heeds = true → (v.answer k).cancels = false := fun _ =>
        Bool.eq_false_iff.2 hcancels
      obtain ⟨w'', hshows, hpause⟩ :=
        (hawake.deliver hquiet).remarked.pause_fires hheeds hunfired hdue harrives hnext hintime
      exact ⟨w'', hshows, v.wait.runIn_round_of_pause hgate hlook hverdict hpause⟩

/-! ## 3. The vigil in which it fires -/

/-- If a vigil is to close with look `m` after `t`, and look `c` is the last to begin by
`t`, the token fires in the round of `c`. -/
theorem exists_cutAt {m c remarked ending : Nat} {outcome : Outcome}
    (hbefore : ∀ j < m, v.Continues j) (hlast : v.Closes m outcome remarked ending)
    (ht : t < ending) (hc : c ≤ m) (hnext : c < m → t < v.askedAt (c + 1)) :
    ∃ remarked', v.CutAt c t remarked' := by
  by_cases hflight : t < v.arrivesAt c ∧ t < v.deadline
  · exact ⟨_, .inFlight hflight.1 hflight.2⟩
  · by_cases hcm : c < m
    · have hcontinues := hbefore c hcm
      have harrives := hcontinues.arrives
      have hanother := hcontinues.another
      have := hnext hcm
      exact ⟨_, .between (by omega) hcontinues.open_ this (by omega)⟩
    · have hcm' : c = m := by omega
      subst hcm'
      cases hlast with
      | late hlate => omega
      | settled hintime _ => omega
      | spent hintime hverdict hnext' =>
        exact ⟨_, .between (by omega) hverdict (by omega) ht⟩

/-- A token that has fired lets no look begin. -/
theorem run_of_fired (hheeds : v.wait.heeds = true) (hfired : v.world.token.fired = true) :
    v.run = (some (.timedOut .cancelled), v.world.note (.gaveUp 0)) := by
  rw [run_eq, World.pause_of_fired _ hheeds hfired]

/-- **A vigil whose token fires before its course is over ends there and then**, after
the looks of its course that begin by that moment. -/
theorem run_of_fires (htick : 1 ≤ v.wait.policy.tick) (hheeds : v.wait.heeds = true)
    (hunfired : v.world.token.fired = false) (hfirst : v.FiresFirst t)
    (hnow : v.world.now ≤ t) {looks remarked ending : Nat} {outcome : Outcome}
    (hcourse : v.Course looks remarked outcome ending) (ht : t < ending) :
    ∃ cut remarked' w, v.Shows cut remarked' t w ∧
      v.run = (some (.timedOut .cancelled), w.note (.gaveUp (.ofNat cut))) ∧
      cut ≤ looks ∧ (∀ k < cut, v.askedAt k ≤ t) ∧ ∀ k, cut ≤ k → k < looks → t < v.askedAt k := by
  have hcalm := hfirst.calmUntil hunfired
  by_cases hidle : t < v.askedAt 0 ∧ t < v.deadline
  · -- Before the first look nothing can fire the token but its being due.
    have hdue : v.world.token.due = some t := by
      obtain ⟨-, hdue | ⟨j, -, harrives⟩⟩ := hfirst.fires
      · exact hdue
      · have hmono := askedAt_mono htick (Nat.zero_le j)
        have hle := v.askedAt_le_arrivesAt j
        omega
    obtain ⟨w, hshows, hpause⟩ :=
      v.awake_world.pause_fires hheeds hunfired hdue hnow hidle.1 hidle.2
    refine ⟨0, 0, w, hshows, by rw [run_eq, hpause]; rfl, Nat.zero_le _, ?_, ?_⟩
    · intro k hk
      exact absurd hk (Nat.not_lt_zero k)
    intro k _ _
    have hmono := askedAt_mono htick (Nat.zero_le k)
    omega
  · cases hcourse with
    | idle hlate => omega
    | @looked m _ _ _ hzero hbefore hlast =>
      have hbegun : v.askedAt 0 ≤ t := by omega
      obtain ⟨c, hcm, hasked, hafter⟩ := exists_last_by m hbegun
      obtain ⟨remarked', hcut⟩ := exists_cutAt hbefore hlast ht hcm fun hc =>
        hafter (c + 1) (by omega) (by omega)
      obtain ⟨fuel, w, hawake, hrun⟩ :=
        v.run_reach htick hzero (fun j hj => hbefore j (by omega)) (hcalm.mono hasked)
      obtain ⟨w', hshows, hround⟩ := hawake.round_cut htick hheeds hunfired hfirst hasked hcut
      refine ⟨c + 1, remarked', w', hshows, ?_, by omega, ?_, ?_⟩
      · rw [hrun, runIn_rounds_of_end fuel hround]
      · intro k hk
        exact Nat.le_trans (askedAt_mono htick (by omega)) hasked
      · intro k hk hkm
        exact hafter k (by omega) (by omega)

/-! ## 4. Truncation -/

/-- **Cancelling a vigil truncates it and changes nothing else.** -/
theorem run_truncated (v : Vigil I σ ε) (htick : 1 ≤ v.wait.policy.tick)
    (hheeds : v.wait.heeds = true) :
    (v.world.token.fired = false → ∀ t, v.FiresFirst t → v.world.now ≤ t →
      ∃ outcome free result cut,
        v.undisturbed.run = (some outcome, free) ∧ v.run = (some result, cut) ∧
        (free.now ≤ t → result = outcome ∧ cut.now = free.now ∧ cut.trace = free.trace) ∧
        (t < free.now → result = .timedOut .cancelled ∧ cut.now = t ∧
          ∃ looks, free.trace.toList = v.world.trace.toList ++ looks ∧
            cut.trace.toList = v.world.trace.toList ++ upTo t looks)) ∧
    (v.world.token.fired = true →
      ∃ cut, v.run = (some (.timedOut .cancelled), cut) ∧ cut.now = v.world.now ∧
        cut.trace = v.world.trace) := by
  constructor
  · intro hunfired t hfirst hnow
    obtain ⟨looks, remarked, outcome, ending, hcourse⟩ := v.exists_course htick
    obtain ⟨free, hshows, hfree⟩ := v.undisturbed.run_of_course htick hcourse.undisturbed
      (v.undisturbed_uncancelled.calmUntil _)
    have hending : free.now = ending := hshows.now_eq
    have hlooks : free.trace.toList = v.world.trace.toList ++ v.exchanges looks := by
      rw [← undisturbed_exchanges]
      exact hshows.trace_eq
    by_cases ht : ending ≤ t
    · have hcalm := (hfirst.calmUntil hunfired).mono ht
      obtain ⟨cut, hshows', hrun⟩ := v.run_of_course htick hcourse hcalm
      refine ⟨_, _, _, _, hfree, hrun, fun _ => ⟨rfl, ?_, ?_⟩, fun hlt => ?_⟩
      · exact hshows'.now_eq.trans hending.symm
      · exact Array.toList_inj.1 (hshows'.trace_eq.trans hlooks.symm)
      · have : t < free.now := hlt
        omega
    · obtain ⟨count, _, cut, hshows', hrun, hcount, hbefore, hafter⟩ :=
        run_of_fires htick hheeds hunfired hfirst hnow hcourse (by omega)
      refine ⟨_, _, _, _, hfree, hrun, fun hle => ?_, fun _ => ⟨rfl, hshows'.now_eq, _, hlooks, ?_⟩⟩
      · have : free.now ≤ t := hle
        omega
      · rw [exchanges, upTo_map_range hcount hbefore hafter]
        exact hshows'.trace_eq
  · intro hfired
    exact ⟨_, run_of_fired hheeds hfired, rfl, rfl⟩

/-- The token fires while the second answer on the volume is on its way. -/
theorem run_truncated_volume :
    1 ≤ (volume ⟨false, some 71⟩).wait.policy.tick ∧ (volume ⟨false, some 71⟩).FiresFirst 71 ∧
      ∃ cut, (volume ⟨false, some 71⟩).run = (some (.timedOut .cancelled), cut) ∧
        cut.now = 71 ∧ cut.trace.toList.map (·.time) = [55, 68] := by
  have htick : 1 ≤ (volume ⟨false, some 71⟩).wait.policy.tick := by decide
  have hfirst : (volume ⟨false, some 71⟩).FiresFirst 71 := by
    refine ⟨(fires_volume_iff _ _).2 rfl, fun s hfires => ?_⟩
    rw [fires_volume_iff, Option.some.injEq] at hfires
    omega
  obtain ⟨outcome, free, result, cut, hfree, hrun, -, hcut⟩ :=
    (run_truncated _ htick rfl).1 rfl 71 hfirst (by decide)
  have hend : free.now = 87 := by
    rw [← congrArg (·.2.now) hfree]
    decide
  obtain ⟨rfl, hnow, looks, hlooks, htrace⟩ := hcut (by omega)
  have hlooks' : looks = (volume ⟨false, some 71⟩).undisturbed.run.2.trace.toList := by
    rw [hfree]
    exact hlooks.symm
  refine ⟨htick, hfirst, cut, hrun, hnow, ?_⟩
  rw [htrace, hlooks']
  decide

end Vigil

end Settle
