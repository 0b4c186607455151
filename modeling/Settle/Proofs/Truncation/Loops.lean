/-
Cutting off retries and waits.

A retry is cut off between two calls, or it lets the call on its way finish: then the
token has fired by the time the answer arrives, and the retry ends with what it gave
or without another attempt. A wait is cut off wherever it is, and ends as cancelled.

A wait ends because its looks are apart: each round takes at least one tick, and the
fuel covers the time that is left.
-/
import Settle.Job
import Settle.Proofs.Pace
import Settle.Proofs.Truncation

set_option autoImplicit false

namespace Settle

variable {I : Interface} {σ ε α : Type} [RemoteFailure ε] {R : Remote I σ} {t : Nat}
  {w : World I σ}

/-! ## 1. Retries -/

namespace Retry

variable {q : Query I (Except ε α)}

theorem attempt_idles (made : Nat) :
    (attempt true R q made).Idles (· = .inl (.error (.cancelled made))) := by
  unfold attempt
  exact .pause_bind rfl (.pure rfl)

theorem attempts_idles (r : Retry) (left made : Nat) :
    (r.attempts true R q left made).Idles (· = .error (.cancelled made)) := by
  cases left with
  | zero =>
    unfold attempts
    refine (attempt_idles made).bind ?_
    rintro _ rfl
    exact .pure rfl
  | succ left =>
    unfold attempts
    refine (attempt_idles made).bind ?_
    rintro _ rfl
    exact .pure rfl

theorem call_idles (r : Retry) : (r.call true R q).run.Idles (· = .error (.timedOut true)) := by
  refine .map ((r.attempts_idles (r.maxAttempts - 1) 0).mono ?_)
  rintro _ rfl
  rfl

theorem attempt_truncates (made : Nat) (hneutral : R.Neutral) (hquiet : w.Quiet) :
    (attempt true R q made).Truncates t w fun calls y =>
      y = .inl (.error (.cancelled made)) ∨ Caught t calls := by
  unfold attempt
  refine (Act.truncates_pause 0 rfl hquiet).bind (fun cause before w' _ _ hquiet' => ?_) ?_
  · cases cause with
    | some cause => exact .pure hquiet'
    | none =>
      refine (Act.truncates_call q hneutral hquiet').bind (fun result _ w'' _ _ hquiet'' => ?_) ?_
      · cases result with
        | ok value => exact .pure hquiet''
        | error e =>
          simp only
          split <;> exact .pure hquiet''
      · intro calls result hcaught
        cases result with
        | ok value => exact .pure (.inr (hcaught.after before))
        | error e =>
          simp only
          split <;> exact .pure (.inr (hcaught.after before))
  · rintro calls _ rfl
    exact .pure (.inl rfl)

/-- How a retry is cut off: as cancelled, or with a call on its way. -/
def CutOff (t : Nat) (calls : List (Exchange I)) (result : Except (Halt ε) α) : Prop :=
  (∃ made, result = .error (.cancelled made)) ∨ Caught t calls

omit [RemoteFailure ε] in
theorem CutOff.after {calls : List (Exchange I)} {result : Except (Halt ε) α}
    (h : CutOff t calls result) (before : List (Exchange I)) : CutOff t (before ++ calls) result :=
  h.imp id fun hcaught => hcaught.after before

/-- By induction on the repetitions that are left. -/
theorem attempts_truncates (r : Retry) (hneutral : R.Neutral) (left made : Nat)
    (hquiet : w.Quiet) : (r.attempts true R q left made).Truncates t w (CutOff t) := by
  induction left generalizing made w with
  | zero =>
    unfold attempts
    refine (attempt_truncates made hneutral hquiet).bind (fun result _ w' _ _ hquiet' => ?_) ?_
    · cases result <;> exact .pure hquiet'
    · rintro calls result (rfl | hcaught)
      · exact .pure (.inl ⟨made, rfl⟩)
      · cases result <;> exact .pure (.inr hcaught)
  | succ left ih =>
    unfold attempts
    refine (attempt_truncates made hneutral hquiet).bind (fun result before w' _ _ hquiet' => ?_) ?_
    · cases result with
      | inl result => exact .pure hquiet'
      | inr e =>
        have hheeds : (⟨true, none⟩ : Watch).heeds = true := rfl
        refine .note_bind hquiet' ?_
        refine (Act.truncates_pause r.delay hheeds (hquiet'.note _)).bind
          (fun cause before' w'' _ _ hquiet'' => ?_) ?_
        · cases cause with
          | some cause => exact .pure hquiet''
          | none =>
            -- What is in flight later is in flight among all calls.
            refine (ih (made + 1) hquiet'').mono fun later y hcut => ?_
            exact (hcut.after before').after before
        · rintro calls _ rfl
          exact .pure (.inl ⟨made + 1, rfl⟩)
    · -- The token has fired by the time the attempt is over, so there is no other.
      rintro calls result (rfl | hcaught)
      · exact .pure (.inl ⟨made, rfl⟩)
      · cases result with
        | inl result => exact .pure (.inr hcaught)
        | inr e => exact .note_bind (.pause_bind rfl (.pure (.inl ⟨made + 1, rfl⟩)))

/-- The calls of a retry with one on its way at `t`. -/
def Overtaken (q : Query I (Except ε α)) (limit t : Nat) (exchanges : List (Exchange I)) : Prop :=
  ∃ calls : List q.Call, exchanges = calls.map Query.Call.exchange ∧ Tries limit calls ∧
    Caught t exchanges

/-- **A retry is cut off as cancelled, unless a call is on its way.** -/
theorem call_truncates (r : Retry) (hneutral : R.Neutral) (hquiet : w.Quiet) :
    (r.call true R q).run.Truncates t w fun calls y =>
      y = .error (.timedOut true) ∨ Overtaken q r.maxAttempts t calls := by
  have hcut : (r.call true R q).run.Truncates t w fun calls y =>
      y = .error (.timedOut true) ∨ Caught t calls := by
    refine .map ((r.attempts_truncates hneutral (r.maxAttempts - 1) 0 hquiet).mono ?_)
    rintro calls _ (⟨made, rfl⟩ | hcaught)
    · exact .inl rfl
    · exact .inr hcaught
  refine (hcut.and_yields (r.call_spec true)).mono ?_
  rintro _ y ⟨hy | hcaught, calls, rfl, htries, -⟩
  · exact .inl hy
  · exact .inr ⟨calls, rfl, htries, hcaught⟩

end Retry

/-! ## 2. Waits -/

namespace Wait

variable {operation : Operation} {query : Query I (Except ε Reading)} {watch : Watch}

theorem giveUp_idles (cause : Interruption) (looks : UInt32) :
    (giveUp cause looks : Act I σ Outcome).Idles (· = .timedOut cause) :=
  .note_bind (.pure rfl)

theorem giveUp_truncates {T : List (Exchange I) → Outcome → Prop} (cause : Interruption)
    (looks : UInt32) (hquiet : w.Quiet) :
    (giveUp cause looks : Act I σ Outcome).Truncates t w T :=
  .note_bind hquiet (.pure hquiet)

/-- A round after which there is another has taken a tick, and time is left. -/
theorem of_runIn_round (s : Wait) {looks : UInt32} {warned warned' : List String} {w' : World I σ}
    (h : (s.round R operation query watch looks warned).runIn w = (some (.inr warned'), w')) :
    w.now + s.policy.tick ≤ w'.now ∧ watch.expired w'.now = false := by
  obtain ⟨result, w₁, hround, hturn⟩ := s.exists_turn R operation query watch looks warned w
  rw [h] at hround
  cases hround
  obtain ⟨-, -, hnow, hintime⟩ := hturn.next_now
  have harrival : w.now ≤ (w.callOf R query).arrival := Nat.le_add_right _ _
  exact ⟨by omega, hintime⟩

theorem round_truncates (s : Wait) (hneutral : R.Neutral) (hheeds : watch.heeds = true)
    (looks : UInt32) (warned : List String) (hquiet : w.Quiet) :
    (s.round R operation query watch looks warned).Truncates t w fun _ y =>
      y = .inl (.timedOut .cancelled) := by
  unfold round
  refine (Act.truncates_pause 0 hheeds hquiet).bind (fun cause _ w' _ _ hquiet' => ?_) ?_
  · cases cause with
    | some cause => exact .map (giveUp_truncates cause looks hquiet')
    | none =>
      refine (Act.truncates_look query hneutral hheeds hquiet').bind
        (fun response _ w'' _ _ hquiet'' => ?_) ?_
      · cases response with
        | error cause => exact .map (giveUp_truncates cause (looks + 1) hquiet'')
        | ok response =>
          simp only
          split
          · exact .note_bind hquiet'' (.pure hquiet'')
          · refine .remark_bind hquiet'' ?_
            refine (Act.truncates_pause s.policy.tick hheeds (hquiet''.remarked _)).bind
              (fun cause _ w₃ _ _ hquiet₃ => ?_) ?_
            · cases cause with
              | some cause => exact .map (giveUp_truncates cause (looks + 1) hquiet₃)
              | none => exact .pure hquiet₃
            · rintro _ _ rfl
              exact .map ((giveUp_idles .cancelled (looks + 1)).mono (by rintro _ rfl; rfl))
      · rintro _ _ rfl
        exact .map ((giveUp_idles .cancelled (looks + 1)).mono (by rintro _ rfl; rfl))
  · rintro _ _ rfl
    exact .map ((giveUp_idles .cancelled looks).mono (by rintro _ rfl; rfl))

/-- By induction on the fuel, which covers the time that is left. -/
theorem rounds_truncates (s : Wait) (hneutral : R.Neutral) (htick : 1 ≤ s.policy.tick)
    {deadline fuel : Nat} (looks : UInt32) (warned : List String) (hquiet : w.Quiet)
    (hintime : w.now < deadline) (hfuel : deadline ≤ w.now + fuel) :
    (s.rounds R operation query ⟨true, some deadline⟩ fuel looks warned).Truncates t w fun _ y =>
      y = .timedOut .cancelled := by
  induction fuel generalizing looks warned w with
  | zero => omega
  | succ fuel ih =>
    unfold rounds
    refine (s.round_truncates hneutral rfl looks warned hquiet).bind
      (fun result _ w' hrun _ hquiet' => ?_) ?_
    · cases result with
      | inl outcome => exact .pure hquiet'
      | inr warned' =>
        -- The round took a tick, which pays for the fuel it used.
        obtain ⟨hnow, hintime'⟩ := s.of_runIn_round hrun
        have hlt : w'.now < deadline := by simpa [Watch.expired] using hintime'
        exact ih (looks + 1) warned' hquiet' hlt (by omega)
    · rintro _ _ rfl
      exact .pure rfl

theorem run_idles (s : Wait) (hheeds : s.heeds = true) :
    (s.run R operation query).Idles (· = .timedOut .cancelled) := by
  intro w hfired
  have hidle : (s.runFrom R operation query w.now (R.unplayed w.remote)).Idles
      (· = .timedOut .cancelled) := by
    unfold runFrom
    exact .pause_bind hheeds (giveUp_idles .cancelled 0)
  rw [runIn_run]
  exact hidle w hfired

/-- **A wait is cut off as cancelled.** -/
theorem run_truncates (s : Wait) (hneutral : R.Neutral) (hheeds : s.heeds = true)
    (htick : 1 ≤ s.policy.tick) (hquiet : w.Quiet) :
    (s.run R operation query).Truncates t w fun _ y => y = .timedOut .cancelled := by
  have htimeout := Policy.timeout_pos s.policy.valid
  refine .congr ?_ (s.runIn_run w) (s.runIn_run (w.armed t))
  unfold runFrom
  simp only [hheeds]
  refine (Act.truncates_pause s.policy.initialDelay rfl hquiet).bind
    (fun cause _ w' hrun hlead hquiet' => ?_) ?_
  · cases cause with
    | some cause => exact giveUp_truncates cause 0 hquiet'
    | none =>
      have hle := hlead.now_le
      have hpause : w.pause ⟨true, some (w.now + s.policy.timeout)⟩ s.policy.initialDelay =
          (none, w') := by
        rw [Act.runIn_pause, Prod.mk.injEq, Option.some.injEq] at hrun
        exact Prod.ext hrun.1 hrun.2
      have hintime := (World.pause_eq_none _ hpause).2
      have hlt : w'.now < w.now + s.policy.timeout := by simpa [Watch.expired] using hintime
      exact s.rounds_truncates hneutral htick 0 [] hquiet' hlt (by omega)
  · rintro _ _ rfl
    exact giveUp_idles .cancelled 0

theorem settle_idles (s : Wait) (hheeds : s.heeds = true) :
    (s.settle R operation query).run.Idles (· = .error (.timedOut true)) := by
  refine .map ((s.run_idles hheeds).mono ?_)
  rintro _ rfl
  rfl

theorem settle_truncates (s : Wait) (hneutral : R.Neutral) (hheeds : s.heeds = true)
    (htick : 1 ≤ s.policy.tick) (hquiet : w.Quiet) :
    (s.settle R operation query).run.Truncates t w fun _ y => y = .error (.timedOut true) := by
  refine .map ((s.run_truncates hneutral hheeds htick hquiet).mono ?_)
  rintro _ _ rfl
  rfl

end Wait

/-! ## 3. Jobs -/

namespace JobWait

variable {job : Query I (Except ε JobReport)}

theorem settle_idles (j : JobWait) (hheeds : j.heeds = true) (timeout : Nat) :
    (j.settle R job timeout).run.Idles fun _ => True := by
  refine .map ?_
  unfold run
  split
  · exact .pure trivial
  · exact (Wait.run_idles _ hheeds).mono fun _ _ => trivial

theorem settle_truncates (j : JobWait) (hneutral : R.Neutral) (hheeds : j.heeds = true)
    (htick : 1 ≤ max j.pollInterval j.minPollInterval) (timeout : Nat) (hquiet : w.Quiet) :
    (j.settle R job timeout).run.Truncates t w fun _ y => y = .error (.timedOut true) := by
  refine .map ?_
  unfold run
  split
  · exact .pure hquiet
  · rename_i policy hvalid
    have htick' : 1 ≤ policy.tick := by
      rw [Policy.eq_of_validate hvalid]
      exact htick
    refine (Wait.run_truncates ⟨policy, j.heeds⟩ hneutral hheeds htick' hquiet).mono ?_
    rintro _ _ rfl
    rfl

end JobWait

end Settle
