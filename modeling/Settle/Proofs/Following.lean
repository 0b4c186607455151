/-
Waiting without heeding the token.

Two activities are compared that differ only in whether they heed the token. As long as
it does not fire they are the same, step for step; so if it has not fired when the one
that does not heed it is over, both have done the same. That is `Act.Follows`. It goes
through `bind` because a token that has fired stays fired, which is its other half: the
first part may not have fired it if the whole has not.
-/
import Settle.Proofs.Heeding

set_option autoImplicit false

namespace Settle

variable {I : Interface} {σ ε α β : Type}

/-! ## 1. Following another activity -/

/-- Begun in this world, `b` does the same as `a` unless the token has fired by the end of it. -/
structure Act.Follows (b a : Act I σ α) (w : World I σ) : Prop where
  stays : w.token.fired = true → (b.runIn w).2.token.fired = true
  same : (b.runIn w).2.token.fired = true ∨ b.runIn w = a.runIn w

namespace Act.Follows

variable {b a : Act I σ α} {g f : α → Act I σ β} {w : World I σ}

/-- An activity that does not turn the clock back follows itself. -/
theorem of_ages (h : w.Ages (b.runIn w).2) : b.Follows b w := ⟨h.fired, .inr rfl⟩

theorem pure (x : α) (w : World I σ) : (Pure.pure x : Act I σ α).Follows (Pure.pure x) w :=
  of_ages (.refl w)

theorem endless (w : World I σ) : (Act.endless : Act I σ α).Follows Act.endless w :=
  of_ages (.refl w)

theorem bind (hb : b.Follows a w)
    (hg : ∀ x w', b.runIn w = (some x, w') → (g x).Follows (f x) w') :
    (b >>= g).Follows (a >>= f) w := by
  obtain ⟨hstays, hsame⟩ := hb
  cases hrun : b.runIn w with
  | mk o w' =>
    rw [hrun] at hstays hsame
    cases o with
    | none =>
      have hrun' := runIn_bind_of_none hrun g
      refine ⟨fun hfired => ?_, hsame.imp (fun hfired => ?_) fun heq => ?_⟩
      · rw [hrun']
        exact hstays hfired
      · rw [hrun']
        exact hfired
      · rw [hrun', runIn_bind_of_none heq.symm f]
    | some x =>
      have hrun' := runIn_bind_of_some hrun g
      obtain ⟨hstays', hsame'⟩ := hg x w' hrun
      refine ⟨fun hfired => ?_, ?_⟩
      · rw [hrun']
        exact hstays' (hstays hfired)
      · rcases hsame with hfired | heq
        · -- The token has fired in the first part, and stays fired in the second.
          left
          rw [hrun']
          exact hstays' hfired
        · rw [hrun', runIn_bind_of_some heq.symm f]
          exact hsame'

theorem map {h : α → β} (hb : b.Follows a w) : (h <$> b).Follows (h <$> a) w := by
  rw [map_eq_pure_bind, map_eq_pure_bind]
  exact hb.bind fun x w' _ => .pure (h x) w'

/-- What is read of the world by itself is the same for both. -/
theorem read {f f' : World I σ → Act I σ α} (h : (f w).Follows (f' w) w) :
    (get >>= f : Act I σ α).Follows (get >>= f') w := ⟨h.stays, h.same⟩

theorem note (n : Notice) (w : World I σ) : (Act.note n).Follows (Act.note n) w :=
  of_ages (.of_eq rfl rfl)

theorem remark (r : Option Notice) (w : World I σ) :
    (r.forM Act.note : Act I σ PUnit).Follows (r.forM Act.note) w := by
  refine of_ages ?_
  rw [runIn_forM_note]
  exact .of_eq (w.remarked_now r) (w.remarked_token r)

end Act.Follows

/-! ## 2. Pauses and looks -/

/-- The watch that heeds the token, and has the same deadline. -/
def Watch.heeding (v : Watch) : Watch := { v with heeds := true }

namespace World

variable {w : World I σ} {v : Watch} {duration : Nat}

theorem fired_of_sleepUntil {t wake : Nat} (hopen : w.token.fired = false)
    (hdue : w.token.due = some t) (ht : t < wake) (hnow : w.now < wake) :
    (w.sleepUntil wake).token.fired = true := by
  unfold sleepUntil Token.passing
  rw [if_pos hnow, Token.alarm?_eq_some hopen hdue ht]
  rfl

/-- A pause that has a length and begins before the deadline lets time pass. -/
theorem now_lt_cap (hintime : v.expired w.now = false) (hlength : duration ≠ 0) :
    w.now < v.cap (w.now + duration) := by
  unfold Watch.expired at hintime
  unfold Watch.cap
  cases hdeadline : v.deadline with
  | none =>
    rw [Option.elim_none]
    omega
  | some deadline =>
    rw [hdeadline, Option.any_some, decide_eq_false_iff_not] at hintime
    rw [Option.elim_some]
    omega

/-- A pause that does not heed the token goes like one that does unless the token fires in it. -/
theorem pause_heeding (w : World I σ) (v : Watch) (duration : Nat) :
    (w.pause v duration).2.token.fired = true ∨
      w.pause v duration = w.pause v.heeding duration := by
  by_cases hheeds : v.heeds = true
  · have hsame : v.heeding = v := by
      unfold Watch.heeding
      rw [← hheeds]
    exact .inr (by rw [hsame])
  by_cases hfired : w.token.fired = true
  · exact .inl ((w.ages_pause v duration).fired hfired)
  have hopen : w.token.fired = false := Bool.eq_false_iff.2 hfired
  by_cases hexpired : v.expired w.now = true
  · have hover : w.pause v.heeding duration = (some .deadline, w) :=
      pause_of_expired duration (fun _ => hopen) hexpired
    exact .inr ((pause_of_expired duration (fun _ => hopen) hexpired).trans hover.symm)
  have hintime : v.expired w.now = false := Bool.eq_false_iff.2 hexpired
  have hrun := pause_calm duration (fun _ => hopen) hintime fun h => absurd h hheeds
  by_cases hdue : ∃ t, w.token.due = some t ∧ t < v.cap (w.now + duration)
  · obtain ⟨t, hdue, ht⟩ := hdue
    by_cases hlength : duration = 0
    · -- Without length nothing happens, not even to a token that should have fired before.
      have hzero : w.pause v.heeding 0 = (none, w) := pause_zero (fun _ => hopen) hintime
      rw [hlength]
      exact .inr ((pause_zero (fun _ => hopen) hintime).trans hzero.symm)
    · left
      rw [hrun]
      exact fired_of_sleepUntil hopen hdue ht (now_lt_cap hintime hlength)
  · have hcalm : w.pause v.heeding duration = _ :=
      pause_calm duration (fun _ => hopen) hintime fun _ t hduet =>
        Nat.le_of_not_lt fun ht => hdue ⟨t, hduet, ht⟩
    exact .inr (hrun.trans hcalm.symm)

/-- So does a look. -/
theorem look_heeding (w : World I σ) (R : Remote I σ) (v : Watch) (q : Query I α) :
    (w.look R v q).2.token.fired = true ∨ w.look R v q = w.look R v.heeding q := by
  rcases pause_heeding (w.ask R q.request).2 v (R.answer q.request w.remote).1.delay with
    hfired | hsame
  · left
    cases hpause : (w.ask R q.request).2.pause v (R.answer q.request w.remote).1.delay with
    | mk cause w' =>
      rw [hpause] at hfired
      cases cause with
      | some cause =>
        rw [look_of_cut hpause]
        exact hfired
      | none =>
        rw [look_of_arrival hpause]
        exact (ages_deliver w' _).fired hfired
  · right
    unfold look
    simp only [ask_fst, hsame]

end World

namespace Act.Follows

variable {v : Watch}

theorem pause (v : Watch) (duration : Nat) (w : World I σ) :
    (Act.pause v duration).Follows (Act.pause v.heeding duration) w := by
  refine ⟨(w.ages_pause v duration).fired, ?_⟩
  rw [runIn_pause, runIn_pause]
  exact (w.pause_heeding v duration).imp_right fun h => by rw [h]

theorem look (R : Remote I σ) (v : Watch) (q : Query I α) (w : World I σ) :
    (Act.look R v q).Follows (Act.look R v.heeding q) w := by
  refine ⟨(w.ages_look R v q).fired, ?_⟩
  rw [runIn_look, runIn_look]
  exact (w.look_heeding R v q).imp_right fun h => by rw [h]

end Act.Follows

/-! ## 3. Waits and jobs -/

section Loops

variable [RemoteFailure ε] {R : Remote I σ}

/-- The wait that heeds the token. -/
def Wait.heeding (s : Wait) : Wait := { s with heeds := true }

namespace Wait

variable {operation : Operation} {query : Query I (Except ε Reading)}

theorem giveUp_follows (cause : Interruption) (looks : UInt32) (w : World I σ) :
    (giveUp cause looks : Act I σ Outcome).Follows (giveUp cause looks) w :=
  (Act.Follows.note _ w).bind fun _ w' _ => .pure _ w'

theorem round_follows (s : Wait) (v : Watch) (looks : UInt32) (warned : List String)
    (w : World I σ) :
    (s.round R operation query v looks warned).Follows
      (s.heeding.round R operation query v.heeding looks warned) w := by
  have hpolicy : s.heeding.policy = s.policy := rfl
  unfold round
  rw [hpolicy]
  refine (Act.Follows.pause v 0 w).bind fun cause w₁ _ => ?_
  cases cause with
  | some cause => exact .map (giveUp_follows cause looks w₁)
  | none =>
    refine (Act.Follows.look R v query w₁).bind fun response w₂ _ => ?_
    cases response with
    | error cause => exact .map (giveUp_follows cause (looks + 1) w₂)
    | ok response =>
      simp only
      split
      · exact (Act.Follows.note _ w₂).bind fun _ w₃ _ => .pure _ w₃
      · refine (Act.Follows.remark _ w₂).bind fun _ w₃ _ => ?_
        refine (Act.Follows.pause v s.policy.tick w₃).bind fun cause w₄ _ => ?_
        cases cause with
        | some cause => exact .map (giveUp_follows cause (looks + 1) w₄)
        | none => exact .pure _ w₄

/-- By induction on the rounds that are left. -/
theorem rounds_follows (s : Wait) (v : Watch) (fuel : Nat) (looks : UInt32)
    (warned : List String) (w : World I σ) :
    (s.rounds R operation query v fuel looks warned).Follows
      (s.heeding.rounds R operation query v.heeding fuel looks warned) w := by
  induction fuel generalizing looks warned w with
  | zero => exact .endless w
  | succ fuel ih =>
    unfold rounds
    refine (s.round_follows v looks warned w).bind fun result w' _ => ?_
    cases result with
    | inl outcome => exact .pure _ w'
    | inr warned' => exact ih (looks + 1) warned' w'

/-- **A wait that does not heed the token goes like one that does unless the token fires in it.** -/
theorem run_follows (s : Wait) (R : Remote I σ) (operation : Operation)
    (query : Query I (Except ε Reading)) (w : World I σ) :
    (s.run R operation query).Follows (s.heeding.run R operation query) w := by
  refine .read ?_
  refine (Act.Follows.pause _ s.policy.initialDelay w).bind fun cause w' _ => ?_
  cases cause with
  | some cause => exact giveUp_follows cause 0 w'
  | none => exact s.rounds_follows _ _ 0 [] w'

end Wait

/-- The wait for jobs that heeds the token. -/
def JobWait.heeding (j : JobWait) : JobWait := { j with heeds := true }

theorem JobWait.run_follows (j : JobWait) (R : Remote I σ) (job : Query I (Except ε JobReport))
    (timeout : Nat) (w : World I σ) :
    (j.run R job timeout).Follows (j.heeding.run R job timeout) w := by
  have hpolicy : j.heeding.policy timeout = j.policy timeout := rfl
  unfold run
  rw [hpolicy]
  cases (j.policy timeout).validate with
  | error e => exact .pure _ w
  | ok policy => exact Wait.run_follows ⟨policy, j.heeds⟩ R .action _ w

end Loops

end Settle
