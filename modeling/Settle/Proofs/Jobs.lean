/-
Waiting for jobs: what `wait_for_job` goes by.

A job is waited for like any other resource, as an action under a vocabulary of its own,
with its reports as readings. `JobWait.Settles` says how what a look gave ends such a wait,
in terms of the report itself: the fault text of a failed job is there and never empty, a job
that cannot be found has failed, and a state that is neither the end nor the failure of a job
is waited through. The calls of a wait for a job are then said in these terms alone.
-/
import Settle.Job
import Settle.Proofs.Calls.Loops

set_option autoImplicit false

namespace Settle

variable {I : Interface} {σ ε : Type}

/-! ## 1. Reports -/

theorem JobState.ofName?_eq_some_iff {name : String} {state : JobState} :
    ofName? name = some state ↔ state.name = name := by
  constructor
  · intro h
    simpa using List.find?_some h
  · rintro rfl
    cases state <;> decide

namespace JobReport

/-- A report of a complete job. -/
def IsComplete (r : JobReport) : Prop := r.state = some JobState.completed.name

/-- The fault text of a failed job with this message. -/
inductive FaultText : Option String → String → Prop
  | given {message : String} (h : message ≠ "") : FaultText (some message) message
  | empty : FaultText (some "") "job failed"
  | absent : FaultText none "job failed"

theorem FaultText.ne_empty {message : Option String} {fault : String}
    (h : FaultText message fault) : fault ≠ "" := by
  cases h with
  | given h => exact h
  | empty => decide
  | absent => decide

/-- Every failed job has a fault text, whatever its message. -/
theorem exists_faultText (message : Option String) : ∃ fault, FaultText message fault := by
  rcases message with _ | message
  · exact ⟨_, .absent⟩
  · by_cases hempty : message = ""
    · exact hempty ▸ ⟨_, .empty⟩
    · exact ⟨_, .given hempty⟩

theorem jobState?_eq_failed_iff {r : JobReport} :
    r.jobState? = some .failed ↔ r.state = some "failed" := by
  unfold jobState?
  rw [Option.bind_eq_some_iff]
  constructor
  · rintro ⟨name, hname, hstate⟩
    rw [hname, ← JobState.ofName?_eq_some_iff.1 hstate]
    rfl
  · intro h
    exact ⟨"failed", h, JobState.ofName?_eq_some_iff.2 rfl⟩

theorem reading_of_failed {message : Option String} {fault : String}
    (h : FaultText message fault) :
    (⟨some "failed", message⟩ : JobReport).reading = ⟨some "failed", some fault⟩ := by
  unfold reading
  rw [if_pos (jobState?_eq_failed_iff.2 rfl)]
  cases h with
  | given h => simp only [if_neg h]
  | empty => rfl
  | absent => rfl

theorem reading_of_not_failed {r : JobReport} (h : r.state ≠ some "failed") :
    r.reading = ⟨r.state, r.message⟩ := by
  unfold reading
  rw [if_neg fun hfailed => h (jobState?_eq_failed_iff.1 hfailed)]

end JobReport

namespace JobWait

variable (j : JobWait) {timeout : Nat}

/-! ## 2. The policy and the wait under it -/

theorem mem_target {status : String} : status ∈ (j.policy timeout).target ↔ status = "completed" :=
  StateSet.mem_ofList.trans List.mem_singleton

theorem mem_fatal {status : String} : status ∈ (j.policy timeout).fatal ↔ status = "failed" :=
  StateSet.mem_ofList.trans List.mem_singleton

/-- The policy of a wait for a job makes sense if there is time for it. -/
theorem policy_valid (htimeout : 0 < timeout) : (j.policy timeout).defect? = none := by
  rw [Policy.defect?_eq_none_iff]
  refine ⟨?_, Nat.pos_iff_ne_zero.1 htimeout, ?_⟩
  · exact show (StateSet.ofList ["completed"]).toList ≠ [] by decide
  · intro pair hpair
    simp only [Policy.exclusive, List.mem_cons, List.not_mem_nil, or_false] at hpair
    rcases hpair with rfl | rfl | rfl <;> rfl

/-- The wait that a wait for a job is, if there is time for it. -/
def toWait (htimeout : 0 < timeout) : Wait := ⟨⟨j.policy timeout, j.policy_valid htimeout⟩, j.heeds⟩

/-! ## 3. What ends a wait for a job -/

variable [RemoteFailure ε]

/-- How what a look at a job gave ends the wait for it. -/
inductive Settles : Except ε JobReport → Outcome → Prop
  | completed (message : Option String) :
    Settles (.ok ⟨some "completed", message⟩) (.converged "completed")
  | failed {message : Option String} {fault : String} (h : JobReport.FaultText message fault) :
    Settles (.ok ⟨some "failed", message⟩) (.failed "job status failed" (some fault) .fatalStatus)
  | missing (message : Option String) :
    Settles (.ok ⟨none, message⟩)
      (.failed "job status missing from response" message .missingStatus)
  | vanished {e : ε} (h : RemoteFailure.classify e = .absent) :
    Settles (.error e) (.failed ("job not found: " ++ RemoteFailure.message e) none .notFound)
  | broken {e : ε} (h : RemoteFailure.classify e = .fatal) :
    Settles (.error e)
      (.failed ("failed to fetch job status: " ++ RemoteFailure.message e) none .remoteError)

/-- What a look gave leaves the wait open. -/
def Open (answer : Except ε JobReport) : Prop := ∀ outcome, ¬ Settles answer outcome

/-- A state that is neither the end nor the failure of a job is waited through, known or not. -/
theorem open_of_state {state : String} (hcompleted : state ≠ "completed")
    (hfailed : state ≠ "failed") (message : Option String) :
    Open (.ok ⟨some state, message⟩ : Except ε JobReport) := by
  intro outcome h
  cases h with
  | completed => exact hcompleted rfl
  | failed => exact hfailed rfl

/-- The judge sees readings, and settles a wait for a job as its reports do. -/
theorem settles_reading_iff {answer : Except ε JobReport} {outcome : Outcome} :
    (j.policy timeout).Settles .action (answer.map JobReport.reading) outcome ↔
      Settles answer outcome := by
  constructor
  · intro h
    rcases answer with e | ⟨state, message⟩
    · cases h with
      | deleted _ hdelete => cases hdelete
      | absent habsent => exact .vanished habsent
      | broken hbroken => exact .broken hbroken
    · by_cases hfailed : state = some "failed"
      · -- The text of the reading is not the message of the report.
        subst hfailed
        obtain ⟨fault, hfault⟩ := JobReport.exists_faultText message
        rw [Except.map, JobReport.reading_of_failed hfault] at h
        cases h with
        | fatal => exact .failed hfault
        | target _ htarget => exact absurd (j.mem_target.1 htarget) (by decide)
      · rw [Except.map, JobReport.reading_of_not_failed hfailed] at h
        cases h with
        | missing => exact .missing message
        | fatal _ hfatal => exact absurd (congrArg some (j.mem_fatal.1 hfatal)) hfailed
        | target _ htarget =>
          cases j.mem_target.1 htarget
          exact .completed message
  · intro h
    cases h with
    | completed message =>
      rw [Except.map, JobReport.reading_of_not_failed (by simp)]
      exact .target message (j.mem_target.2 rfl)
    | failed hfault =>
      rw [Except.map, JobReport.reading_of_failed hfault]
      exact .fatal _ (j.mem_fatal.2 rfl)
    | missing message =>
      rw [Except.map, JobReport.reading_of_not_failed (by simp)]
      exact .missing message
    | vanished habsent => exact .absent habsent (by decide)
    | broken hbroken => exact .broken hbroken

theorem verdict_eq_some_iff (htimeout : 0 < timeout) {answer : Except ε JobReport}
    {outcome : Outcome} :
    (j.toWait htimeout).policy.verdict .action (answer.map JobReport.reading) = some outcome ↔
      Settles answer outcome :=
  ((j.toWait htimeout).policy.verdict_eq_some_iff _ _ _).trans j.settles_reading_iff

theorem verdict_eq_none_iff (htimeout : 0 < timeout) {answer : Except ε JobReport} :
    (j.toWait htimeout).policy.verdict .action (answer.map JobReport.reading) = none ↔
      Open answer := by
  rw [Option.eq_none_iff_forall_not_mem]
  exact forall_congr' fun outcome => not_congr (j.verdict_eq_some_iff htimeout)

/-! ## 4. How it runs -/

variable {j} {R : Remote I σ} {job : Query I (Except ε JobReport)}

/-- Without time for it the wait fails, and nothing is asked. -/
theorem run_zero : j.run R job 0 =
    pure (.failed "configuration error: job poll policy has a zero timeout" none .invalidPolicy) :=
  rfl

/-- **A wait for a job is a wait for an action**, under the policy of jobs and with its reports
as readings. -/
theorem run_eq_wait (htimeout : 0 < timeout) :
    j.run R job timeout =
      (j.toWait htimeout).run R .action (job.map (Except.map JobReport.reading)) := by
  unfold run
  rw [Policy.validate_eq_ok (j.policy_valid htimeout)]
  rfl

/-- How a wait for a job ends with its looks: there was no time for any, it was cut short, or the
last one ends it. -/
inductive Judged (timeout : Nat) (looks : List job.Call) : Outcome → Prop
  | refused (htimeout : timeout = 0) (h : looks = []) :
    Judged timeout looks
      (.failed "configuration error: job poll policy has a zero timeout" none .invalidPolicy)
  | cut (cause : Interruption) : Judged timeout looks (.timedOut cause)
  | settled {answer : Except ε JobReport} {outcome : Outcome} (hends : EndsWith looks answer)
    (hsettles : Settles answer outcome) : Judged timeout looks outcome

/-- **The looks of a wait for a job leave it open up to the last one**, and unless the wait is
refused or cut short the last one ends it. -/
theorem run_spec (j : JobWait) (R : Remote I σ) (job : Query I (Except ε JobReport))
    (timeout : Nat) :
    (j.run R job timeout).Yields fun exchanges o =>
      ∃ looks : List job.Call, exchanges = looks.map Query.Call.exchange ∧
        AllButLast (fun c => Open c.result) looks ∧
        ∀ outcome, o = some outcome → Judged timeout looks outcome := by
  rcases Nat.eq_zero_or_pos timeout with rfl | htimeout
  · rw [run_zero]
    refine .pure ⟨[], rfl, .nil, ?_⟩
    rintro _ ⟨⟩
    exact .refused rfl rfl
  · rw [run_eq_wait htimeout]
    refine (Wait.run_spec (j.toWait htimeout)).mono ?_
    rintro _ o ⟨looks, rfl, hopen, hlast⟩
    refine ⟨looks.map Query.Call.ofMap, (Query.Call.map_ofMap looks).symm, ?_, ?_⟩
    · exact .map fun c hc => (j.verdict_eq_none_iff htimeout).1 (hopen c hc)
    · intro outcome ho
      rcases hlast outcome ho with ⟨cause, rfl⟩ | ⟨response, hends, hverdict⟩
      · exact .cut cause
      · obtain ⟨answer, hanswer, rfl⟩ := hends.ofMap
        exact .settled hanswer ((j.verdict_eq_some_iff htimeout).1 hverdict)

/-- **A wait for a job looks at that job only, and succeeds only if the last look shows
that it is complete.** -/
theorem settle_spec (j : JobWait) (timeout : Nat) :
    Task.Yields (j.settle R job timeout) fun exchanges o =>
      ∃ calls : List job.Call, exchanges = calls.map Query.Call.exchange ∧
        ∀ status, o = some status →
          ∃ report, EndsWith calls (.ok report) ∧ report.IsComplete := by
  refine Act.Yields.map ((j.run_spec R job timeout).mono ?_)
  rintro _ o ⟨calls, rfl, -, hjudged⟩
  refine ⟨calls, rfl, fun status hstatus => ?_⟩
  cases hjudged _ (Outcome.eq_converged hstatus) with
  | settled hends hsettles =>
    cases hsettles with
    | completed message => exact ⟨_, hends, rfl⟩

end JobWait

end Settle
