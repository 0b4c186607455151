/-
How long an activity takes.

`Act.Takes` relates the exchanges of an activity, the time that passes in it and its
result, and says that it ends. Like `Act.Yields` it has one rule for each way to build
an activity; the times of two activities in a row add up. `Takes.and_yields` puts what
is known about the exchanges beside it, so nothing about them is proved again here.

A call takes as long as its answer, and nothing cuts it short; a pause takes no longer
than it should; and a wait no longer than its timeout, whatever it looks at. So a retry
takes no longer than its answers and the pauses between them.
-/
import Settle.Proofs.Jobs
import Settle.Proofs.Pace

set_option autoImplicit false

namespace Settle

variable {I : Interface} {σ ε α β : Type}

/-! ## 1. Activities that end -/

/-- In whatever world the activity begins, it ends, and the exchanges it makes, the time it takes
and its result are in the relation. -/
def Act.Takes (a : Act I σ α) (P : List (Exchange I) → Nat → α → Prop) : Prop :=
  ∀ w, ∃ x w' calls time, a.runIn w = (some x, w') ∧ w.Leads calls w' ∧ w'.now = w.now + time ∧
    P calls time x

namespace Act.Takes

variable {a : Act I σ α} {f : α → Act I σ β} {P : List (Exchange I) → Nat → α → Prop}
  {Q : List (Exchange I) → Nat → β → Prop}

theorem mono {P' : List (Exchange I) → Nat → α → Prop} (ha : a.Takes P)
    (h : ∀ calls time x, P calls time x → P' calls time x) : a.Takes P' := by
  intro w
  obtain ⟨x, w', calls, time, hrun, hlead, htime, hP⟩ := ha w
  exact ⟨x, w', calls, time, hrun, hlead, htime, h _ _ _ hP⟩

/-- What is known about the exchanges and the result holds as well. -/
theorem and_yields {Y : List (Exchange I) → Option α → Prop} (ha : a.Takes P) (hY : a.Yields Y) :
    a.Takes fun calls time x => P calls time x ∧ Y calls (some x) := by
  intro w
  obtain ⟨x, w', calls, time, hrun, hlead, htime, hP⟩ := ha w
  exact ⟨x, w', calls, time, hrun, hlead, htime, hP, hY.of_run hrun hlead⟩

/-- The time that an activity takes is the time from its beginning to its end. -/
theorem of_runs (h : ∀ w, ∃ x w' calls, a.runIn w = (some x, w') ∧ w.Leads calls w' ∧
    P calls (w'.now - w.now) x) : a.Takes P := by
  intro w
  obtain ⟨x, w', calls, hrun, hlead, hP⟩ := h w
  exact ⟨x, w', calls, w'.now - w.now, hrun, hlead, (Nat.add_sub_cancel' hlead.now_le).symm, hP⟩

theorem pure {x : α} (h : P [] 0 x) : Takes (Pure.pure x : Act I σ α) P :=
  fun w => ⟨x, w, [], 0, rfl, .refl w, rfl, h⟩

/-- Two activities take their times one after the other. -/
theorem bind (ha : a.Takes P)
    (hf : ∀ calls time x, P calls time x →
      (f x).Takes fun later more y => Q (calls ++ later) (time + more) y) :
    (a >>= f).Takes Q := by
  intro w
  obtain ⟨x, w₁, calls, time, hrun, hlead, htime, hP⟩ := ha w
  obtain ⟨y, w₂, later, more, hrun', hlead', htime', hQ⟩ := hf calls time x hP w₁
  refine ⟨y, w₂, calls ++ later, time + more, ?_, hlead.trans hlead', ?_, hQ⟩
  · rw [runIn_bind_of_some hrun, hrun']
  · rw [htime', htime, Nat.add_assoc]

theorem map {g : α → β} (ha : a.Takes fun calls time x => Q calls time (g x)) :
    (g <$> a).Takes Q := by
  intro w
  obtain ⟨x, w', calls, time, hrun, hlead, htime, hQ⟩ := ha w
  exact ⟨g x, w', calls, time, runIn_map_of_some hrun g, hlead, htime, hQ⟩

/-- Noting something takes no time. -/
theorem note (n : Notice) :
    (Act.note n : Act I σ Unit).Takes fun calls time _ => calls = [] ∧ time = 0 :=
  fun w => ⟨(), w.note n, [], 0, rfl, w.leads_note n, rfl, rfl, rfl⟩

/-- A pause takes no longer than it should. -/
theorem pause (watch : Watch) (duration : Nat) :
    (Act.pause watch duration : Act I σ _).Takes fun calls time _ =>
      calls = [] ∧ time ≤ duration := by
  refine .of_runs fun w => ?_
  cases hpause : w.pause watch duration with
  | mk cause w' =>
    have hle := World.pause_now_le hpause
    refine ⟨cause, w', [], ?_, World.leads_of_pause hpause, rfl, by omega⟩
    rw [runIn_pause, hpause]

end Act.Takes

/-- How long the answers to these exchanges take. -/
def delays : List (Exchange I) → Nat
  | [] => 0
  | e :: calls => e.answer.delay + delays calls

@[simp] theorem delays_nil : delays ([] : List (Exchange I)) = 0 := rfl

@[simp]
theorem delays_append (calls later : List (Exchange I)) :
    delays (calls ++ later) = delays calls + delays later := by
  induction calls with
  | nil => exact (Nat.zero_add _).symm
  | cons e calls ih => rw [List.cons_append, delays, delays, ih, Nat.add_assoc]

/-- A call takes as long as its answer. -/
theorem Act.Takes.call (R : Remote I σ) (q : Query I α) :
    (Act.call R q).Takes fun calls time _ => time = delays calls := by
  intro w
  refine ⟨_, _, [(w.callOf R q).exchange], (w.callOf R q).answer.delay, rfl, w.leads_call R q,
    ?_, (Nat.add_zero _).symm⟩
  have hle : (w.ask R q.request).2.now ≤
      (w.ask R q.request).2.now + (R.answer q.request w.remote).1.delay := Nat.le_add_right _ _
  exact (World.deliver_now _ _).trans (World.sleepUntil_now hle)

/-! ## 2. Tasks -/

/-- In whatever world the task begins, it ends, and the exchanges it makes, the time it takes and
its value, if it succeeds, are in the relation. -/
def Task.Takes (t : Task I σ ε α) (P : List (Exchange I) → Nat → Option α → Prop) : Prop :=
  Act.Takes t.run fun calls time result => P calls time result.toOption

namespace Task.Takes

variable {ε ε' : Type} {t : Task I σ ε α} {f : α → Task I σ ε β}
  {P : List (Exchange I) → Nat → Option α → Prop} {Q : List (Exchange I) → Nat → Option β → Prop}

theorem mono {P' : List (Exchange I) → Nat → Option α → Prop} (ht : Task.Takes t P)
    (h : ∀ calls time o, P calls time o → P' calls time o) : Task.Takes t P' :=
  Act.Takes.mono ht fun calls time _ => h calls time _

theorem and_yields {Y : List (Exchange I) → Option α → Prop} (ht : Task.Takes t P)
    (hY : Task.Yields t Y) : Task.Takes t fun calls time o => P calls time o ∧ Y calls o :=
  Act.Takes.and_yields ht hY

theorem pure {x : α} (h : P [] 0 (some x)) : Task.Takes (Pure.pure x : Task I σ ε α) P :=
  Act.Takes.pure h

theorem throw {e : ε} (h : P [] 0 none) : Task.Takes (MonadExcept.throw e : Task I σ ε α) P :=
  Act.Takes.pure h

/-- Two tasks take their times one after the other, unless the first one fails. -/
theorem bind (ht : Task.Takes t P) (hstop : ∀ calls time, P calls time none → Q calls time none)
    (hgo : ∀ calls time x, P calls time (some x) →
      Task.Takes (f x) fun later more o => Q (calls ++ later) (time + more) o) :
    Task.Takes (t >>= f) Q := by
  refine Act.Takes.bind ht fun calls time result hP => ?_
  cases result with
  | ok x => exact hgo calls time x hP
  | error e =>
    refine Act.Takes.pure ?_
    rw [List.append_nil, Nat.add_zero]
    exact hstop calls time hP

theorem note_bind {n : Notice} {f : Unit → Task I σ ε β} (h : Task.Takes (f ()) Q) :
    Task.Takes (Task.note n >>= f) Q := by
  intro w
  obtain ⟨result, w', calls, time, hrun, hlead, htime, hQ⟩ := h (w.note n)
  refine ⟨result, w', calls, time, ?_, (w.leads_note n).trans hlead, htime, hQ⟩
  rw [runIn_bind_of_ok (runIn_note n w), hrun]

theorem map {g : α → β} (ht : Task.Takes t fun calls time o => Q calls time (o.map g)) :
    Task.Takes (g <$> t) Q := by
  rw [map_eq_pure_bind]
  refine bind ht (fun _ _ hQ => hQ) fun calls time x hQ => pure ?_
  rw [List.append_nil, Nat.add_zero]
  exact hQ

/-- Renaming what goes wrong takes no time. -/
theorem adapt {g : ε → ε'} (ht : Task.Takes t P) : Task.Takes (ExceptT.adapt g t) P := by
  refine Act.Takes.map (Act.Takes.mono ht fun calls time result hP => ?_)
  cases result <;> exact hP

end Task.Takes

/-! ## 3. Retries and waits -/

variable [RemoteFailure ε] {R : Remote I σ}

namespace Retry

variable {q : Query I (Except ε α)}

/-- An attempt takes as long as its answer, if it comes to its call. -/
theorem attempt_takes (heeds : Bool) (made : Nat) :
    (attempt heeds R q made).Takes fun calls time _ => time ≤ delays calls := by
  unfold attempt
  refine .bind (.pause _ 0) ?_
  rintro _ time cause ⟨rfl, htime⟩
  cases cause with
  | some cause => exact .pure (by simp only [delays_append, delays_nil]; omega)
  | none =>
    refine .bind (.call R q) ?_
    rintro calls _ result rfl
    cases result with
    | ok value => exact .pure (by simp only [delays_append, delays_nil]; omega)
    | error e =>
      simp only
      split <;> exact .pure (by simp only [delays_append, delays_nil]; omega)

/-- By induction on the repetitions that are left, each of which has a pause before it. -/
theorem attempts_take (r : Retry) (heeds : Bool) (left made : Nat) :
    (r.attempts heeds R q left made).Takes fun calls time _ =>
      time ≤ delays calls + left * r.delay := by
  induction left generalizing made with
  | zero =>
    unfold attempts
    refine .bind (attempt_takes heeds made) fun calls time result htime => ?_
    cases result with
    | inl result => exact .pure (by simp only [delays_append, delays_nil]; omega)
    | inr e => exact .pure (by simp only [delays_append, delays_nil]; omega)
  | succ left ih =>
    unfold attempts
    refine .bind (attempt_takes heeds made) fun calls time result htime => ?_
    cases result with
    | inl result => exact .pure (by simp only [delays_append, delays_nil]; omega)
    | inr e =>
      -- The pause is one of those that the budget has for the repetitions left.
      refine .bind (.note _) ?_
      rintro _ _ _ ⟨rfl, rfl⟩
      refine .bind (.pause _ r.delay) ?_
      rintro _ paused cause ⟨rfl, hpaused⟩
      cases cause with
      | some cause =>
        refine .pure ?_
        simp only [delays_append, delays_nil, Nat.succ_mul]
        omega
      | none =>
        refine (ih (made + 1)).mono fun later more _ hmore => ?_
        simp only [delays_append, delays_nil, Nat.succ_mul]
        omega

/-- **A retry takes no longer than its answers and the pauses between them.** -/
theorem call_takes (r : Retry) (heeds : Bool) :
    Task.Takes (r.call heeds R q) fun calls time _ =>
      time ≤ delays calls + r.retries * r.delay := by
  have htake := r.attempts_take (R := R) (q := q) heeds (r.maxAttempts - 1) 0
  refine Act.Takes.map (htake.mono fun calls time _ htime => ?_)
  -- The number of attempts is capped, so it may be less than one more than the repetitions.
  have hleft : r.maxAttempts - 1 ≤ r.retries := by
    unfold maxAttempts
    omega
  have hpauses := Nat.mul_le_mul_right r.delay hleft
  omega

end Retry

/-- **A wait with a tick of some length takes no longer than its timeout.** -/
theorem Wait.settle_takes (s : Wait) (htick : 1 ≤ s.policy.tick) (operation : Operation)
    (query : Query I (Except ε Reading)) :
    Task.Takes (s.settle R operation query) fun _ time _ => time ≤ s.policy.timeout := by
  refine Act.Takes.map (.of_runs fun w => ?_)
  obtain ⟨outcome, w', hrun, hle⟩ := s.run_ends R operation query htick w
  obtain ⟨looks, hlead, -⟩ := s.run_paced R operation query w
  rw [hrun] at hlead
  exact ⟨outcome, w', _, hrun, hlead, by omega⟩

/-- So does a wait for a job. -/
theorem JobWait.settle_takes (j : JobWait) (htick : 1 ≤ max j.pollInterval j.minPollInterval)
    {timeout : Nat} (htimeout : 0 < timeout) (job : Query I (Except ε JobReport)) :
    Task.Takes (j.settle R job timeout) fun _ time _ => time ≤ timeout := by
  have hsettle : j.settle R job timeout =
      (j.toWait htimeout).settle R .action (job.map (Except.map JobReport.reading)) := by
    unfold settle Wait.settle
    rw [run_eq_wait htimeout]
  rw [hsettle]
  exact (j.toWait htimeout).settle_takes htick .action _

end Settle
