/-
What settles a wait, said without the judge.

`Policy.verdict` tests the vocabularies one after the other, as `evaluate` does.
`Policy.Settles` says the same as one rule for each kind of answer, with no order among
the rules: a policy that makes sense has no state in two vocabularies, so at most one rule
applies.
-/
import Settle.Verdict

set_option autoImplicit false

namespace Settle

/-! ## Policies that make sense -/

namespace Policy

/-- A policy has no defect exactly if none of the three checks finds one. -/
theorem defect?_eq_none_iff (p : Policy) :
    p.defect? = none ↔
      p.target.toList ≠ [] ∧ p.timeout ≠ 0 ∧ ∀ pair ∈ exclusive, p.overlap? pair = none := by
  unfold defect?
  by_cases htarget : p.target.toList = []
  · simp [htarget]
  · by_cases htimeout : p.timeout = 0
    · simp [htarget, htimeout]
    · rw [if_neg htarget, if_neg htimeout, List.findSome?_eq_none_iff]
      simp [htarget, htimeout]

/-- Validation changes nothing about a policy. -/
theorem eq_of_validate {p : Policy} {valid : ValidPolicy} (h : p.validate = .ok valid) :
    valid.toPolicy = p := by
  unfold validate at h
  split at h
  · cases h
  · cases h
    rfl

/-- A policy without defect is valid. -/
theorem validate_eq_ok {p : Policy} (h : p.defect? = none) : p.validate = .ok ⟨p, h⟩ := by
  unfold validate
  split
  · rename_i hdefect
    rw [h] at hdefect
    cases hdefect
  · rfl

/-- A policy without defect leaves its wait some time. -/
theorem timeout_pos {p : Policy} (h : p.defect? = none) : 0 < p.timeout :=
  Nat.pos_of_ne_zero (p.defect?_eq_none_iff.1 h).2.1

/-- In a policy without defect, no state has two meanings that exclude each
other. -/
theorem notMem_of_exclusive {p : Policy} (h : p.defect? = none) {one other : Meaning}
    (hpair : (one, other) ∈ exclusive) {state : String} (hone : state ∈ p.states one) :
    state ∉ p.states other := by
  intro hother
  have hoverlap : p.overlap? (one, other) = none := (p.defect?_eq_none_iff.1 h).2.2 _ hpair
  unfold overlap? at hoverlap
  have hshared := List.find?_eq_none.1 (Option.map_eq_none_iff.1 hoverlap) state hone
  exact hshared (decide_eq_true hother)

end Policy

/-- In a policy that makes sense, what is waited for is no failure. -/
theorem ValidPolicy.notMem_fatal {p : ValidPolicy} {status : String} (h : status ∈ p.target) :
    status ∉ p.fatal :=
  have hpair : (Meaning.target, Meaning.fatal) ∈ Policy.exclusive := by simp [Policy.exclusive]
  Policy.notMem_of_exclusive p.valid hpair h

/-! ## The rules -/

namespace Policy

variable {ε : Type} [RemoteFailure ε]

/-- How what a look gave settles a wait: a reading without status, with a fatal
status or with a target status does, and so does every failure that does not
pass. -/
inductive Settles (p : Policy) (operation : Operation) : Except ε Reading → Outcome → Prop
  | missing (fault : Option String) :
    Settles p operation (.ok ⟨none, fault⟩)
      (.failed (p.subject ++ " status missing from response") fault .missingStatus)
  | fatal {status : String} (fault : Option String) (h : status ∈ p.fatal) :
    Settles p operation (.ok ⟨some status, fault⟩)
      (.failed (p.subject ++ " status " ++ status) fault .fatalStatus)
  | target {status : String} (fault : Option String) (h : status ∈ p.target) :
    Settles p operation (.ok ⟨some status, fault⟩) (.converged status)
  | deleted {e : ε} (h : RemoteFailure.classify e = .absent) (hdelete : operation = .delete) :
    Settles p operation (.error e) (.converged "deleted")
  | absent {e : ε} (h : RemoteFailure.classify e = .absent) (hdelete : operation ≠ .delete) :
    Settles p operation (.error e)
      (.failed (p.subject ++ " not found: " ++ RemoteFailure.message e) none .notFound)
  | broken {e : ε} (h : RemoteFailure.classify e = .fatal) :
    Settles p operation (.error e)
      (.failed ("failed to fetch " ++ p.subject ++ " status: " ++ RemoteFailure.message e) none
        .remoteError)

/-- A verdict never cuts a wait short; only time and the caller do that. -/
theorem verdict_ne_timedOut (p : Policy) (operation : Operation) (response : Except ε Reading)
    (cause : Interruption) : p.verdict operation response ≠ some (.timedOut cause) := by
  cases response with
  | ok r =>
    rcases r with ⟨_ | status, fault⟩
    · simp [verdict, judge]
    · simp only [verdict, judge]
      split
      · simp
      · split <;> simp
  | error e =>
    simp only [verdict, judgeFailure]
    split
    · split <;> simp
    · simp
    · simp

end Policy

variable {ε : Type} [RemoteFailure ε]

/-- The judge follows the rules. That a target status is tested after the fatal
ones makes no difference under a policy that makes sense. -/
theorem ValidPolicy.verdict_eq_some_iff (p : ValidPolicy) (operation : Operation)
    (response : Except ε Reading) (outcome : Outcome) :
    p.verdict operation response = some outcome ↔ p.Settles operation response outcome := by
  constructor
  · intro h
    rcases response with e | ⟨_ | status, fault⟩
    · simp only [Policy.verdict, Policy.judgeFailure] at h
      split at h
      · rename_i habsent
        by_cases hdelete : operation = .delete
        · rw [if_pos hdelete, Option.some.injEq] at h
          exact h ▸ .deleted habsent hdelete
        · rw [if_neg hdelete, Option.some.injEq] at h
          exact h ▸ .absent habsent hdelete
      · exact absurd h (by simp)
      · rename_i hfatal
        rw [Option.some.injEq] at h
        exact h ▸ .broken hfatal
    · simp only [Policy.verdict, Policy.judge, Option.some.injEq] at h
      exact h ▸ .missing fault
    · simp only [Policy.verdict, Policy.judge] at h
      by_cases hfatal : status ∈ p.fatal
      · rw [if_pos hfatal, Option.some.injEq] at h
        exact h ▸ .fatal fault hfatal
      · rw [if_neg hfatal] at h
        by_cases htarget : status ∈ p.target
        · rw [if_pos htarget, Option.some.injEq] at h
          exact h ▸ .target fault htarget
        · rw [if_neg htarget] at h
          exact absurd h (by simp)
  · -- Only a target status is tested second, after the fatal ones.
    intro h
    cases h with
    | missing fault => rfl
    | fatal fault hfatal => simp only [Policy.verdict, Policy.judge, if_pos hfatal]
    | target fault htarget =>
      simp only [Policy.verdict, Policy.judge, if_neg (p.notMem_fatal htarget), if_pos htarget]
    | deleted habsent hdelete =>
      simp only [Policy.verdict, Policy.judgeFailure, habsent, if_pos hdelete, deletedStatus]
    | absent habsent hdelete =>
      simp only [Policy.verdict, Policy.judgeFailure, habsent, if_neg hdelete]
    | broken hfatal => simp only [Policy.verdict, Policy.judgeFailure, hfatal]

/-- Only a deletion converges without a target status. -/
theorem ValidPolicy.verdict_converged (p : ValidPolicy) {operation : Operation}
    (hdelete : operation ≠ .delete) {response : Except ε Reading} {status : String}
    (h : p.verdict operation response = some (.converged status)) :
    ∃ fault, response = .ok ⟨some status, fault⟩ ∧ status ∈ p.target := by
  rw [p.verdict_eq_some_iff] at h
  cases h with
  | target fault htarget => exact ⟨fault, rfl, htarget⟩
  | deleted _ hdelete' => exact absurd hdelete' hdelete

end Settle
