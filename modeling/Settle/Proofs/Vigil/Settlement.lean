/-
Which answer a vigil ends with.

Whatever its token does, a vigil ends with an answer exactly if that answer is the
first to settle the matter, arrives before the deadline, and nothing cancels the
vigil before it arrives: `SettledAt`. Every other vigil is cut short.

The closed form says this of vigils that nobody cancels, and the truncation of
those whose token fires after they begin. What is left is a token that was due
before the vigil began and has not fired, which no call that takes time leaves
behind; it fires as soon as any time passes, so an initial delay keeps the vigil
from looking at all.
-/
import Settle.Proofs.Vigil.Cancellation

set_option autoImplicit false

namespace Settle

variable {I : Interface} {σ ε : Type}

/-! ## 1. A token that is overdue -/

/-- A token that is overdue fires as soon as time passes. -/
theorem World.pause_overdue {w : World I σ} {watch : Watch} {duration : Nat}
    (hheeds : watch.heeds = true) (hfired : w.token.fired = false)
    (hexpired : watch.expired w.now = false) {t : Nat} (hdue : w.token.due = some t)
    (ht : t < w.now) (hduration : 0 < duration) :
    ∃ w', w.pause watch duration = (some .cancelled, w') ∧ w'.trace = w.trace := by
  have hlate : ¬ watch.expired w.now = true := by rw [hexpired]; simp
  have hzero : duration ≠ 0 := Nat.pos_iff_ne_zero.1 hduration
  have hcap : w.now ≤ watch.cap (w.now + duration) := le_cap hexpired (Nat.le_add_right _ _)
  have halarm : w.token.alarm? (watch.cap (w.now + duration)) = some t :=
    Token.alarm?_eq_some hfired hdue (by omega)
  unfold pause
  rw [if_neg (not_gate fun _ => hfired), if_neg hlate, if_neg hzero]
  simp only [halarm, if_pos hheeds]
  exact ⟨_, rfl, rfl⟩

namespace Vigil

variable [RemoteFailure ε] {v : Vigil I σ ε}

/-! ## 2. Answers that settle a vigil -/

/-- The vigil ends with answer `n`: it is the first to settle the matter, it arrives before the
deadline, and nothing cancels the vigil before that. -/
structure SettledAt (v : Vigil I σ ε) (n : Nat) (outcome : Outcome) : Prop where
  first : v.FirstSettledBy n outcome
  intime : v.arrivesAt n < v.deadline
  calm : v.CalmUntil (v.arrivesAt n)

/-- The vigil is cut short after some looks. -/
def CutShort (v : Vigil I σ ε) : Prop :=
  ∃ cause looks w, v.run = (some (.timedOut cause), w) ∧
    w.trace.toList = v.world.trace.toList ++ v.exchanges looks

/-- An answer that settles a vigil is its last look. -/
theorem SettledAt.run_eq (htick : 1 ≤ v.wait.policy.tick) {n : Nat} {outcome : Outcome}
    (h : v.SettledAt n outcome) :
    ∃ w, v.run = (some outcome, w) ∧
      w.trace.toList = v.world.trace.toList ++ v.exchanges (n + 1) := by
  obtain ⟨hverdict, hbefore⟩ := firstSettledBy_iff.1 h.first
  have hcourse := course_of_settled htick hbefore hverdict h.intime
  obtain ⟨w, hshows, hrun⟩ := v.run_of_course htick hcourse h.calm
  exact ⟨_, hrun, hshows.trace_eq⟩

/-- A course that nothing cancels leads to an answer that settles the vigil, or to the
deadline. -/
theorem Course.settledAt {looks remarked ending : Nat} {outcome : Outcome}
    (h : v.Course looks remarked outcome ending) (hcalm : v.CalmUntil ending) :
    outcome = .timedOut .deadline ∨ ∃ n, v.SettledAt n outcome := by
  cases h with
  | idle _ => exact .inl rfl
  | @looked m _ _ _ _ hbefore hlast =>
    cases hlast with
    | late _ => exact .inl rfl
    | spent _ _ _ => exact .inl rfl
    | settled hintime hverdict =>
      have hfirst := firstSettledBy_iff.2 ⟨hverdict, fun k hk => (hbefore k hk).open_⟩
      exact .inr ⟨_, hfirst, hintime, hcalm⟩

/-! ## 3. Vigils that no answer settles -/

omit [RemoteFailure ε] in
/-- If anything fires the token of a vigil, something fires it first. -/
theorem Fires.exists_first {t : Nat} (h : v.Fires t) : ∃ s ≤ t, v.FiresFirst s := by
  classical
  have hsome : ∃ s, v.Fires s := ⟨t, h⟩
  exact ⟨Nat.find hsome, Nat.find_le h, Nat.find_spec hsome, fun s hs => Nat.find_le hs⟩

omit [RemoteFailure ε] in
/-- Answers cancel only after the vigil has begun, so a token that fires before is due then. -/
theorem Fires.due_of_lt {t : Nat} (htick : 1 ≤ v.wait.policy.tick) (h : v.Fires t)
    (ht : t < v.world.now) : v.world.token.due = some t := by
  obtain ⟨-, hdue | ⟨k, -, harrives⟩⟩ := h
  · exact hdue
  · have hbegun : v.world.now ≤ v.askedAt 0 := Nat.le_add_right _ _
    have hmono := askedAt_mono htick (Nat.zero_le k)
    have hle := v.askedAt_le_arrivesAt k
    omega

/-- A vigil whose token is overdue does not begin to look, if it pauses first. -/
theorem cutShort_of_overdue (hheeds : v.wait.heeds = true)
    (hunfired : v.world.token.fired = false) {t : Nat} (hdue : v.world.token.due = some t)
    (ht : t < v.world.now) (hdelay : 0 < v.wait.policy.initialDelay) : v.CutShort := by
  have hopen : v.watch.expired v.world.now = false := v.awake_world.not_expired
  obtain ⟨w, hpause, htrace⟩ := World.pause_overdue hheeds hunfired hopen hdue ht hdelay
  refine ⟨.cancelled, 0, w.note (.gaveUp 0), by rw [Vigil.run_eq, hpause], ?_⟩
  change w.trace.toList = _ ++ []
  rw [htrace, List.append_nil]

/-- **A vigil that no answer settles is cut short.** -/
theorem cutShort_of_unsettled (htick : 1 ≤ v.wait.policy.tick)
    (hdue : ∀ t, v.world.token.due = some t → v.world.now ≤ t ∨ 0 < v.wait.policy.initialDelay)
    (hnone : ∀ n outcome, ¬ v.SettledAt n outcome) : v.CutShort := by
  -- The token has fired before the vigil begins, or fires during its course, or leaves it alone.
  by_cases hfired : v.wait.heeds = true ∧ v.world.token.fired = true
  · exact ⟨.cancelled, 0, _, run_of_fired hfired.1 hfired.2, (List.append_nil _).symm⟩
  have hunfired : v.wait.heeds = true → v.world.token.fired = false := fun hheeds =>
    Bool.eq_false_iff.2 fun h => hfired ⟨hheeds, h⟩
  obtain ⟨looks, remarked, outcome, ending, hcourse⟩ := v.exists_course htick
  by_cases hcalm : v.CalmUntil ending
  · -- The vigil keeps to its course, which no answer settles.
    obtain ⟨w, hshows, hrun⟩ := v.run_of_course htick hcourse hcalm
    rcases hcourse.settledAt hcalm with rfl | ⟨n, hsettled⟩
    · exact ⟨.deadline, looks, _, hrun, hshows.trace_eq⟩
    · exact absurd hsettled (hnone n outcome)
  · -- Something fires the token before the course is over.
    obtain ⟨s, hfires, hs⟩ : ∃ s, v.Fires s ∧ s < ending := by
      by_contra hquiet
      exact hcalm ⟨hunfired, fun s hfires => Nat.le_of_not_lt fun hs => hquiet ⟨s, hfires, hs⟩⟩
    obtain ⟨t, hts, hfirst⟩ := hfires.exists_first
    have hheeds := hfires.1
    by_cases hnow : v.world.now ≤ t
    · obtain ⟨cut, _, w, hshows, hrun, -⟩ :=
        run_of_fires htick hheeds (hunfired hheeds) hfirst hnow hcourse (by omega)
      exact ⟨.cancelled, cut, _, hrun, hshows.trace_eq⟩
    · -- The token was overdue when the vigil began.
      have ht := hfirst.fires.due_of_lt htick (by omega)
      have hdelay := (hdue t ht).resolve_left hnow
      exact cutShort_of_overdue hheeds (hunfired hheeds) ht (by omega) hdelay

end Vigil

end Settle
