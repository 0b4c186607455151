/-
What a configuration lets through.

A configuration is accepted by `from_lookup` if every setting can be read and the default
timeout is not zero; `ofLookup_eq_ok_iff` says so. Nothing is asked of the intervals, and
a wait whose interval is zero does not sleep between its looks. So not every accepted
configuration makes good waits: `accepted_paced` says which of them do. The floor under
the interval counts for the waits on resources and not for those on jobs, so it takes two
zeros to spoil the former and one for the latter.
-/
import Settle.Proofs.Jobs
import Settle.Proofs.Pace
import Settle.Proofs.Vigil
import Settle.Rehearsal

set_option autoImplicit false

namespace Settle

variable {I : Interface} {σ ε α : Type}

/-! ## 1. Accepted configurations -/

/-- Of two computations in a row, both succeed or neither result counts. -/
theorem Except.bind_eq_ok_iff {β : Type} {x : Except ε α} {f : α → Except ε β} {b : β} :
    x >>= f = .ok b ↔ ∃ a, x = .ok a ∧ f a = .ok b := by
  cases x with
  | error e => exact ⟨nofun, nofun⟩
  | ok a =>
    constructor
    · intro h
      exact ⟨a, rfl, h⟩
    · rintro ⟨_, ⟨⟩, h⟩
      exact h

namespace Config

variable {lookup : String → Option String} {c : Config}

/-- Every setting of the configuration is as the lookup says. -/
structure ReadFrom (lookup : String → Option String) (c : Config) : Prop where
  retries : readSetting lookup .retries retryLimit 2 = .ok c.retries
  pollInterval : readSetting lookup .pollInterval timeLimit 10000 = .ok c.pollInterval
  minPollInterval : readSetting lookup .minPollInterval timeLimit 10000 = .ok c.minPollInterval
  jobPollInterval : readSetting lookup .jobPollInterval timeLimit 10000 = .ok c.jobPollInterval
  retryDelay : readSetting lookup .retryDelay timeLimit 60000 = .ok c.retryDelay
  defaultTimeout : readSetting lookup .defaultTimeout timeLimit 1800000 = .ok c.defaultTimeout

/-- **A configuration is accepted if all of it can be read and there is some time by default.** -/
theorem ofLookup_eq_ok_iff :
    ofLookup lookup = .ok c ↔ c.ReadFrom lookup ∧ c.defaultTimeout ≠ 0 := by
  unfold ofLookup
  constructor
  · intro h
    obtain ⟨retries, hretries, h⟩ := Except.bind_eq_ok_iff.1 h
    obtain ⟨pollInterval, hpoll, h⟩ := Except.bind_eq_ok_iff.1 h
    obtain ⟨minPollInterval, hmin, h⟩ := Except.bind_eq_ok_iff.1 h
    obtain ⟨jobPollInterval, hjob, h⟩ := Except.bind_eq_ok_iff.1 h
    obtain ⟨retryDelay, hdelay, h⟩ := Except.bind_eq_ok_iff.1 h
    obtain ⟨defaultTimeout, htimeout, h⟩ := Except.bind_eq_ok_iff.1 h
    by_cases hzero : defaultTimeout = 0
    · rw [if_pos hzero] at h
      cases h
    · -- All six were read, and this is the only check on them.
      rw [if_neg hzero] at h
      cases h
      exact ⟨⟨hretries, hpoll, hmin, hjob, hdelay, htimeout⟩, hzero⟩
  · rintro ⟨h, hzero⟩
    refine Except.bind_eq_ok_iff.2 ⟨_, h.retries, ?_⟩
    refine Except.bind_eq_ok_iff.2 ⟨_, h.pollInterval, ?_⟩
    refine Except.bind_eq_ok_iff.2 ⟨_, h.minPollInterval, ?_⟩
    refine Except.bind_eq_ok_iff.2 ⟨_, h.jobPollInterval, ?_⟩
    refine Except.bind_eq_ok_iff.2 ⟨_, h.retryDelay, ?_⟩
    refine Except.bind_eq_ok_iff.2 ⟨_, h.defaultTimeout, ?_⟩
    rw [if_neg hzero]
    rfl

end Config

/-! ## 2. Waits that sleep between their looks -/

/-- Begun in `w`, the wait ends in time, and of its looks no two begin in the same millisecond. -/
def Act.Paced (a : Act I σ Outcome) (q : Query I α) (timeout : Nat) (w : World I σ) : Prop :=
  ∃ outcome w', a.runIn w = (some outcome, w') ∧ w'.now ≤ w.now + timeout ∧
    ∃ looks : List q.Call, w.Leads (looks.map Query.Call.exchange) w' ∧
      looks.Pairwise (fun c c' => c.time + 1 ≤ c'.time) ∧ looks.length ≤ timeout

variable [RemoteFailure ε] {R : Remote I σ} {w : World I σ}

/-- A wait with a tick of some length sleeps. -/
theorem Wait.run_sleeps (s : Wait) (htick : 1 ≤ s.policy.tick) (operation : Operation)
    (query : Query I (Except ε Reading)) :
    (s.run R operation query).Paced query s.policy.timeout w := by
  obtain ⟨outcome, w', hrun, hnow⟩ := s.run_ends R operation query htick w
  obtain ⟨looks, hleads, hapart, hin⟩ := s.run_paced R operation query w
  rw [hrun] at hleads
  -- The initial delay is not needed: the time from the beginning to the deadline bounds the looks.
  have hbetween : ∀ c ∈ looks, w.now ≤ c.time ∧ c.time < w.now + s.policy.timeout := by
    intro c hc
    have := hin c hc
    omega
  refine ⟨outcome, w', hrun, hnow, looks, hleads, hapart.imp ?_, hapart.length_le htick hbetween⟩
  intro c c' hgap
  unfold Query.Call.arrival at hgap
  omega

/-- So does a wait for a job. -/
theorem JobWait.run_sleeps (j : JobWait) (htick : 1 ≤ max j.pollInterval j.minPollInterval)
    {timeout : Nat} (htimeout : 0 < timeout) (job : Query I (Except ε JobReport)) :
    (j.run R job timeout).Paced job timeout w := by
  rw [run_eq_wait htimeout]
  obtain ⟨outcome, w', hrun, hnow, looks, hleads, hapart, hlength⟩ :=
    (j.toWait htimeout).run_sleeps (R := R) (w := w) htick .action
      (job.map (Except.map JobReport.reading))
  refine ⟨outcome, w', hrun, hnow, looks.map Query.Call.ofMap, ?_, ?_, ?_⟩
  · rwa [Query.Call.map_ofMap]
  · exact List.pairwise_map.2 hapart
  · rwa [List.length_map]

/-- A remote side that is always out of service for the moment. -/
def Remote.faltering (e : ε) : Remote ⟨Unit, fun _ => Except ε α⟩ Nat :=
  .ofAnswers fun _ => { response := .error e }

/-- A wait with a tick of no length does not: a remote side that fails at once for a passing reason
keeps it busy for ever. -/
theorem Wait.run_faltering {s : Wait} (htick : s.policy.tick = 0)
    (hdelay : s.policy.initialDelay < s.policy.timeout) (hheeds : s.heeds = false) {e : ε}
    (htransient : RemoteFailure.classify e = .transient) (operation : Operation)
    {query : Query ⟨Unit, fun _ => Except ε α⟩ (Except ε Reading)}
    (hread : query.read (.error e) = .error e) :
    ((s.run (.faltering e) operation query).runIn { remote := 0 }).1 = none := by
  refine run_endless ⟨fun _ => rfl, fun _ _ => rfl, fun _ => ?_⟩ htick hdelay fun h => ?_
  · -- Under no policy does such a failure settle anything.
    have hverdict : s.policy.verdict operation (.error e : Except ε Reading) = none := by
      simp only [Policy.verdict, Policy.judgeFailure, htransient]
    rw [← hread] at hverdict
    exact hverdict
  · rw [hheeds] at h
    cases h

theorem Act.Paced.ends {a : Act I σ Outcome} {q : Query I α} {timeout : Nat} {w : World I σ}
    (h : a.Paced q timeout w) : (a.runIn w).1 ≠ none := by
  obtain ⟨outcome, w', hrun, -⟩ := h
  rw [hrun]
  exact Option.some_ne_none outcome

/-! ## 3. Which configurations give such waits -/

namespace Config

/-- Every wait for a job as configured sleeps between its looks. -/
def JobsPaced (c : Config) : Prop :=
  ∀ {I : Interface} {σ ε : Type} [RemoteFailure ε] (R : Remote I σ)
    (job : Query I (Except ε JobReport)) (heeds : Bool) {timeout : Nat} (w : World I σ),
    0 < timeout → ({ JobWait.ofConfig c with heeds }.run R job timeout).Paced job timeout w

/-- So does every wait for a resource under the configured policy, whatever its targets. -/
def PollsPaced (c : Config) : Prop :=
  ∀ {I : Interface} {σ ε : Type} [RemoteFailure ε] (R : Remote I σ) (operation : Operation)
    (query : Query I (Except ε Reading)) (heeds : Bool) (timeout : Option Nat) (target : StateSet)
    (p : ValidPolicy) (w : World I σ), p.toPolicy = { c.policy timeout with target } →
    (Wait.run ⟨p, heeds⟩ R operation query).Paced query p.timeout w

variable {lookup : String → Option String} {c : Config}

/-- A passing failure. -/
def busy : Rehearsal.Failure := { message := "busy", transient := true }

theorem jobsPaced_iff : c.JobsPaced ↔ c.jobPollInterval ≠ 0 := by
  constructor
  · intro h hzero
    have hends := (h (.faltering busy) ⟨(), id⟩ false { remote := 0 } Nat.one_pos).ends
    rw [JobWait.run_eq_wait Nat.one_pos] at hends
    refine hends (Wait.run_faltering ?_ ?_ rfl rfl .action rfl)
    · -- The floor of a configured wait for a job is zero.
      change max c.jobPollInterval 0 = 0
      rw [hzero, Nat.max_self]
    · change c.jobPollInterval < 1
      omega
  · intro h _ _ _ _ R job heeds timeout w htimeout
    refine JobWait.run_sleeps _ ?_ htimeout job
    exact Nat.le_trans (Nat.one_le_iff_ne_zero.2 h) (Nat.le_max_left _ _)

theorem pollsPaced_iff : c.PollsPaced ↔ ¬ (c.pollInterval = 0 ∧ c.minPollInterval = 0) := by
  constructor
  · rintro h ⟨hpoll, hmin⟩
    -- One target is enough to make the policy valid.
    have hvalid : ({ c.policy (some 1) with target := .ofList ["up"] } : Policy).defect? = none :=
      rfl
    have hends := (h (.faltering busy) .create ⟨(), id⟩ false (some 1) (.ofList ["up"])
      ⟨_, hvalid⟩ { remote := 0 } rfl).ends
    refine hends (Wait.run_faltering ?_ Nat.one_pos rfl rfl .create rfl)
    change max c.pollInterval c.minPollInterval = 0
    rw [hpoll, hmin, Nat.max_self]
  · rintro h _ _ _ _ R operation query heeds timeout target p w hp
    refine Wait.run_sleeps _ ?_ operation query
    have htick : p.tick = max c.pollInterval c.minPollInterval := by
      rw [hp]
      rfl
    rw [htick]
    omega

/-- **Of the accepted configurations, those make waits that sleep between their looks whose
intervals are not zero**: the interval of jobs for the waits on jobs, and one of the other two for
the waits on resources. -/
theorem accepted_paced (h : ofLookup lookup = .ok c) :
    (c.JobsPaced ↔ readSetting lookup .jobPollInterval timeLimit 10000 ≠ .ok 0) ∧
      (c.PollsPaced ↔ ¬ (readSetting lookup .pollInterval timeLimit 10000 = .ok 0 ∧
        readSetting lookup .minPollInterval timeLimit 10000 = .ok 0)) := by
  obtain ⟨hread, -⟩ := ofLookup_eq_ok_iff.1 h
  rw [jobsPaced_iff, pollsPaced_iff, hread.jobPollInterval, hread.pollInterval,
    hread.minPollInterval]
  simp only [ne_eq, Except.ok.injEq, and_self]

/-- The environment that sets the interval of jobs and nothing else. -/
def jobIntervalOnly (value : String) : String → Option String :=
  fun key => if key = Setting.jobPollInterval.key then some value else none

/-- With jobs looked at four times a second, all waits sleep. -/
theorem accepted_paced_quarter :
    ofLookup (jobIntervalOnly "250") = .ok { jobPollInterval := 250 } ∧
      Config.JobsPaced { jobPollInterval := 250 } ∧
      Config.PollsPaced { jobPollInterval := 250 } := by
  have haccepted : ofLookup (jobIntervalOnly "250") = .ok { jobPollInterval := 250 } := by
    decide +kernel
  have hpaced := accepted_paced haccepted
  exact ⟨haccepted, hpaced.1.2 (by decide +kernel), hpaced.2.2 (by decide +kernel)⟩

/-- An interval of zero is accepted for jobs, and a job that runs for one look and is complete at
the next is looked at twice within one millisecond. -/
theorem accepted_unpaced :
    ofLookup (jobIntervalOnly "0") = .ok { jobPollInterval := 0 } ∧
      ¬ Config.JobsPaced { jobPollInterval := 0 } ∧
      ((((JobWait.ofConfig { jobPollInterval := 0 }).run Rehearsal.remote
        (Rehearsal.query (.job "job-1")) 1).runIn
          { remote := { jobs := [("job-1", [⟨.ok (.of .running), 0, false⟩,
            ⟨.ok (.of .completed), 0, false⟩])] } }).2.trace.toList.map (·.time)) = [0, 0] := by
  refine ⟨by decide +kernel, fun h => ?_, by decide +kernel⟩
  exact jobsPaced_iff.1 h rfl

end Config

end Settle
