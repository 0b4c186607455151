/-
What can be relied on when a job is waited for.

A wait for a job that has time is a vigil, so the first answer that settles it does end it,
if it arrives before the deadline and the cancellation: `HeardAt`. In particular a job that
cannot be found has failed. `Awaited` is everything that a caller can rely on.
-/
import Settle.Proofs.Jobs
import Settle.Proofs.Vigil.Settlement

set_option autoImplicit false

namespace Settle.JobWait

variable {I : Interface} {σ ε : Type}

/-! ## 1. The wait as a vigil -/

section Vigil

variable (j : JobWait) (R : Remote I σ) (job : Query I (Except ε JobReport)) {timeout : Nat}
  (htimeout : 0 < timeout) (w : World I σ)

/-- The wait for a job, about to begin in a world. -/
def vigil : Vigil I σ ε where
  wait := j.toWait htimeout
  remote := R
  operation := .action
  query := job.map (Except.map JobReport.reading)
  world := w

/-- What look `k` at the job gives. -/
def reported (k : Nat) : Except ε JobReport :=
  job.read ((j.vigil R job htimeout w).answer k).response

end Vigil

variable [RemoteFailure ε]

/-! ## 2. What is heard -/

/-- Look `n` takes place and its answer is heard: no answer before has ended the wait, and this
one arrives before the deadline and the cancellation. -/
structure HeardAt (j : JobWait) (R : Remote I σ) (job : Query I (Except ε JobReport))
    (timeout : Nat) (w : World I σ) (n : Nat) (answer : Except ε JobReport) : Prop where
  time : 0 < timeout
  reported_eq : j.reported R job time w n = answer
  open_before : ∀ k < n, Open (j.reported R job time w k)
  intime : (j.vigil R job time w).arrivesAt n < w.now + timeout
  calm : (j.vigil R job time w).CalmUntil ((j.vigil R job time w).arrivesAt n)

variable {j : JobWait} {R : Remote I σ} {job : Query I (Except ε JobReport)} {timeout : Nat}
  {w w' : World I σ}

theorem HeardAt.settledAt {n : Nat} {answer : Except ε JobReport} {outcome : Outcome}
    (h : j.HeardAt R job timeout w n answer) (hsettles : Settles answer outcome) :
    (j.vigil R job h.time w).SettledAt n outcome := by
  have hfirst : (j.vigil R job h.time w).SettledBy n outcome := by
    refine j.settles_reading_iff.2 ?_
    rw [← h.reported_eq] at hsettles
    exact hsettles
  refine ⟨⟨hfirst, fun k hk outcome hsettled => ?_⟩, h.intime, h.calm⟩
  exact h.open_before k hk outcome (j.settles_reading_iff.1 hsettled)

theorem exists_heardAt {n : Nat} {outcome : Outcome} (htimeout : 0 < timeout)
    (h : (j.vigil R job htimeout w).SettledAt n outcome) :
    ∃ answer, j.HeardAt R job timeout w n answer ∧ Settles answer outcome := by
  refine ⟨_, ⟨htimeout, rfl, fun k hk outcome hsettles => ?_, h.intime, h.calm⟩,
    j.settles_reading_iff.1 h.first.settled⟩
  exact h.first.not_before k hk outcome (j.settles_reading_iff.2 hsettles)

/-! ## 3. How it ends -/

theorem runIn_eq_vigil (htimeout : 0 < timeout) (w : World I σ) :
    (j.run R job timeout).runIn w = (j.vigil R job htimeout w).run := by
  rw [run_eq_wait htimeout]
  rfl

theorem eq_completed_of_converged {status : String}
    (h : (j.run R job timeout).runIn w = (some (.converged status), w')) :
    status = "completed" := by
  obtain ⟨_, -, looks, -, -, hjudged⟩ := j.run_spec R job timeout w
  cases hjudged _ (congrArg Prod.fst h) with
  | settled _ hsettles =>
    cases hsettles
    rfl

/-- A job that has failed gives a reason and a text. -/
theorem fault_of_failed {reason : String} {fault : Option String}
    (h : (j.run R job timeout).runIn w = (some (.failed reason fault .fatalStatus), w')) :
    reason = "job status failed" ∧ ∃ text, fault = some text ∧ text ≠ "" := by
  obtain ⟨_, -, looks, -, -, hjudged⟩ := j.run_spec R job timeout w
  cases hjudged _ (congrArg Prod.fst h) with
  | settled _ hsettles =>
    cases hsettles with
    | failed hfault => exact ⟨rfl, _, rfl, hfault.ne_empty⟩

/-- What a caller can rely on who waits for a job. -/
structure Awaited (j : JobWait) (R : Remote I σ) (job : Query I (Except ε JobReport))
    (timeout : Nat) (w : World I σ) : Prop where
  /-- There is no time for it, and nothing is asked. -/
  refused : timeout = 0 → (j.run R job timeout).runIn w =
    (some (.failed "configuration error: job poll policy has a zero timeout" none
      .invalidPolicy), w)
  /-- It is a wait for an action. -/
  refines : ∀ htimeout : 0 < timeout, j.run R job timeout =
    (j.toWait htimeout).run R .action (job.map (Except.map JobReport.reading))
  /-- However it ends, its looks leave it open up to the last one. -/
  judged : ∃ looks : List job.Call,
    ((j.run R job timeout).runIn w).2.trace.toList =
      w.trace.toList ++ looks.map Query.Call.exchange ∧
    AllButLast (fun c => Open c.result) looks ∧
    ∀ outcome, ((j.run R job timeout).runIn w).1 = some outcome → Judged timeout looks outcome
  /-- It converges on nothing but the completion. -/
  converged : ∀ status w', (j.run R job timeout).runIn w = (some (.converged status), w') →
    status = "completed"
  /-- The fault text of a failed job is there, and not empty. -/
  faulty : ∀ reason fault w',
    (j.run R job timeout).runIn w = (some (.failed reason fault .fatalStatus), w') →
      reason = "job status failed" ∧ ∃ text, fault = some text ∧ text ≠ ""
  /-- A state that nobody knows is waited through. -/
  unknown : ∀ state message, JobState.ofName? state = none →
    Open (.ok ⟨some state, message⟩ : Except ε JobReport)
  /-- An answer that is heard and ends it is the last. -/
  settled : 1 ≤ (j.policy timeout).tick → ∀ n answer outcome
    (h : j.HeardAt R job timeout w n answer), Settles answer outcome →
      ∃ w', (j.run R job timeout).runIn w = (some outcome, w') ∧
        w'.trace.toList = w.trace.toList ++ (j.vigil R job h.time w).exchanges (n + 1)
  /-- If no answer ends it, it is cut short. -/
  unsettled : 1 ≤ (j.policy timeout).tick → (∀ t, w.token.due = some t → w.now ≤ t) →
    0 < timeout → (∀ n answer, j.HeardAt R job timeout w n answer → Open answer) →
      ∃ cause w', (j.run R job timeout).runIn w = (some (.timedOut cause), w')

theorem awaited (j : JobWait) (R : Remote I σ) (job : Query I (Except ε JobReport)) (timeout : Nat)
    (w : World I σ) : j.Awaited R job timeout w where
  refused htimeout := by
    subst htimeout
    rw [run_zero]
    rfl
  refines := run_eq_wait
  judged := by
    obtain ⟨_, hlead, looks, rfl, hopen, hjudged⟩ := j.run_spec R job timeout w
    exact ⟨looks, hlead.trace_eq, hopen, hjudged⟩
  converged _ _ := eq_completed_of_converged
  faulty _ _ _ := fault_of_failed
  unknown state message hunknown := by
    have hother (known : JobState) : state ≠ known.name := by
      rintro rfl
      rw [JobState.ofName?_eq_some_iff.2 rfl] at hunknown
      cases hunknown
    exact open_of_state (hother .completed) (hother .failed) message
  settled htick n answer outcome hheard hsettles := by
    obtain ⟨w', hrun, htrace⟩ := (hheard.settledAt hsettles).run_eq htick
    exact ⟨w', (runIn_eq_vigil hheard.time w).trans hrun, htrace⟩
  unsettled htick hdue htimeout hopen := by
    have hcut : (j.vigil R job htimeout w).CutShort := by
      refine Vigil.cutShort_of_unsettled htick (fun t ht => .inl (hdue t ht)) ?_
      intro n outcome hsettled
      obtain ⟨answer, hheard, hsettles⟩ := exists_heardAt htimeout hsettled
      exact hopen n answer hheard outcome hsettles
    obtain ⟨cause, looks, w', hrun, -⟩ := hcut
    exact ⟨cause, w', (runIn_eq_vigil htimeout w).trans hrun⟩

/-- **A job that cannot be found has failed**, if the answer is heard. -/
theorem run_of_absent {n : Nat} {e : ε}
    (htick : 1 ≤ (j.policy timeout).tick) (h : j.HeardAt R job timeout w n (.error e))
    (habsent : RemoteFailure.classify e = .absent) :
    ∃ w', (j.run R job timeout).runIn w =
      (some (.failed ("job not found: " ++ RemoteFailure.message e) none .notFound), w') := by
  obtain ⟨w', hrun, -⟩ := (j.awaited R job timeout w).settled htick n _ _ h (.vanished habsent)
  exact ⟨w', hrun⟩

end Settle.JobWait
