/-
A vigil: a wait about to begin, with everything its course depends on.

That is one call of `poll` with the world it is made in. The remote side is asked the same
question over and over, so the answers of a vigil form a sequence, and with it the times
at which it would ask and hear back if nothing stopped it. From these times alone follows
what `Course` says: after how many looks the vigil ends, how, and when. Nothing here runs
anything; that the wait keeps to its course is proved in `Settle.Proofs.Vigil.Run`.

Two results carry the rest. `exists_course` says that every vigil whose looks are
apart ends, and `course_of_settled` and `course_of_unsettled` say how in terms of
the first answer that settles the matter.
-/
import Settle.Proofs.Judgement
import Settle.Wait
import Mathlib.Data.Nat.Find

set_option autoImplicit false

namespace Settle

variable {I : Interface} {σ ε : Type}

/-- The state of a remote side after the same request was made `k` times. -/
def Remote.after (R : Remote I σ) (q : I.Request) (s : σ) : Nat → σ
  | 0 => s
  | k + 1 => (R.answer q (R.after q s k)).2

/-- What is left after some requests, and after some more, is left after all of them. -/
theorem Remote.after_add (R : Remote I σ) (q : I.Request) (state : σ) (n k : Nat) :
    R.after q (R.after q state n) k = R.after q state (n + k) := by
  induction k with
  | zero => rfl
  | succ k ih => exact congrArg (fun state => (R.answer q state).2) ih

/-- A remote side that gives one answer after the other, whatever it is asked. -/
def Remote.ofAnswers {α : Type} (answers : Nat → Answer α) : Remote ⟨Unit, fun _ => α⟩ Nat where
  answer _ n := (answers n, n + 1)

/-- It counts the requests. -/
theorem Remote.after_ofAnswers {α : Type} (answers : Nat → Answer α) (k : Nat) :
    (Remote.ofAnswers answers).after () 0 k = k := by
  induction k with
  | zero => rfl
  | succ k ih => exact congrArg (· + 1) ih

/-- A wait about to begin. -/
structure Vigil (I : Interface) (σ ε : Type) where
  wait : Wait
  remote : Remote I σ
  operation : Operation
  query : Query I (Except ε Reading)
  /-- The world in which it begins. -/
  world : World I σ

namespace Vigil

variable (v : Vigil I σ ε)

/-! ## 1. The answers and their times -/

/-- The state of the remote side after `k` looks. -/
def state (k : Nat) : σ := v.remote.after v.query.request v.world.remote k

/-- The answer to look `k`, counted from zero. -/
def answer (k : Nat) : Answer (I.Response v.query.request) :=
  (v.remote.answer v.query.request (v.state k)).1

/-- What look `k` gives. -/
def response (k : Nat) : Except ε Reading := v.query.read (v.answer k).response

/-- When look `k` begins unless the vigil ends before: the first after the initial
delay, every other one tick after the answer to the one before. -/
def askedAt : Nat → Nat
  | 0 => v.world.now + v.wait.policy.initialDelay
  | k + 1 => askedAt k + (v.answer k).delay + v.wait.policy.tick

/-- When the answer to look `k` arrives. -/
def arrivesAt (k : Nat) : Nat := v.askedAt k + (v.answer k).delay

/-- When the time for the vigil is over. -/
def deadline : Nat := v.world.now + v.wait.policy.timeout

/-- Look `k` as it is recorded. -/
def exchange (k : Nat) : Exchange I := ⟨v.askedAt k, v.query.request, v.answer k⟩

/-- The first `n` looks as they are recorded. -/
def exchanges (n : Nat) : List (Exchange I) := (List.range n).map v.exchange

theorem exchanges_succ (n : Nat) : v.exchanges (n + 1) = v.exchanges n ++ [v.exchange n] := by
  unfold exchanges
  rw [List.range_succ, List.map_append, List.map_singleton]

/-- The same vigil with a token that nobody can fire. -/
def undisturbed : Vigil I σ ε := { v with wait := { v.wait with heeds := false } }

section Times

variable {v}

theorem askedAt_succ (k : Nat) : v.askedAt (k + 1) = v.arrivesAt k + v.wait.policy.tick := rfl

theorem askedAt_le_arrivesAt (k : Nat) : v.askedAt k ≤ v.arrivesAt k := Nat.le_add_right _ _

/-- Every answer arrives before a later look begins. -/
theorem arrivesAt_lt_askedAt (htick : 1 ≤ v.wait.policy.tick) {j k : Nat} (h : j < k) :
    v.arrivesAt j < v.askedAt k := by
  -- Look `k + 1` follows the answer to look `k` by a tick, which is the case `j = k`.
  induction k with
  | zero => omega
  | succ k ih =>
    have hsucc := v.askedAt_succ k
    have hle := v.askedAt_le_arrivesAt k
    by_cases hjk : j = k
    · subst hjk
      omega
    · have := ih (by omega)
      omega

theorem askedAt_mono (htick : 1 ≤ v.wait.policy.tick) {j k : Nat} (h : j ≤ k) :
    v.askedAt j ≤ v.askedAt k := by
  by_cases hjk : j = k
  · exact Nat.le_of_eq (congrArg _ hjk)
  · have hlt := arrivesAt_lt_askedAt htick (show j < k by omega)
    have hle := v.askedAt_le_arrivesAt j
    omega

/-- Answers arrive in order. -/
theorem arrivesAt_mono (htick : 1 ≤ v.wait.policy.tick) {j k : Nat} (h : j ≤ k) :
    v.arrivesAt j ≤ v.arrivesAt k := by
  by_cases hjk : j = k
  · exact Nat.le_of_eq (congrArg _ hjk)
  · have hlt := arrivesAt_lt_askedAt htick (show j < k by omega)
    have hle := v.askedAt_le_arrivesAt k
    omega

/-- Looks are apart, so look `k` is at least `k` after the first. -/
theorem add_le_askedAt (htick : 1 ≤ v.wait.policy.tick) (k : Nat) :
    v.askedAt 0 + k ≤ v.askedAt k := by
  induction k with
  | zero => exact Nat.le_refl _
  | succ k ih =>
    have hlt := arrivesAt_lt_askedAt htick (show k < k + 1 by omega)
    have hle := v.askedAt_le_arrivesAt k
    omega

/-- Heeding the token moves no look. -/
theorem undisturbed_askedAt (k : Nat) : v.undisturbed.askedAt k = v.askedAt k := by
  induction k with
  | zero => rfl
  | succ k ih =>
    rw [askedAt_succ, askedAt_succ, arrivesAt, ih]
    rfl

/-- So it moves no answer, -/
theorem undisturbed_arrivesAt (k : Nat) : v.undisturbed.arrivesAt k = v.arrivesAt k :=
  congrArg (· + _) (undisturbed_askedAt k)

/-- and no look is recorded in another way. -/
theorem undisturbed_exchanges (n : Nat) : v.undisturbed.exchanges n = v.exchanges n := by
  refine List.map_congr_left fun k _ => ?_
  rw [exchange, undisturbed_askedAt]
  rfl

end Times

/-! ## 2. What can cut it short -/

/-- What can cut the vigil short. -/
def watch : Watch := ⟨v.wait.heeds, some v.deadline⟩

@[simp]
theorem watch_expired (t : Nat) : v.watch.expired t = decide (v.deadline ≤ t) := rfl

@[simp]
theorem watch_cap (t : Nat) : v.watch.cap t = min t v.deadline := rfl

/-- The moments at which something fires the token of a vigil that heeds it: when
it is due, and when an answer arrives that cancels. -/
def Fires (t : Nat) : Prop :=
  v.wait.heeds = true ∧
    (v.world.token.due = some t ∨ ∃ k, (v.answer k).cancels = true ∧ v.arrivesAt k = t)

/-- The first of these moments. -/
structure FiresFirst (t : Nat) : Prop where
  fires : v.Fires t
  le_of_fires : ∀ s, v.Fires s → t ≤ s

/-- The token has not fired, and nothing fires it before `e`. -/
structure CalmUntil (e : Nat) : Prop where
  unfired : v.wait.heeds = true → v.world.token.fired = false
  le_of_fires : ∀ t, v.Fires t → e ≤ t

/-- Nothing ever cancels the vigil. -/
structure Uncancelled : Prop where
  unfired : v.wait.heeds = true → v.world.token.fired = false
  not_fires : ∀ t, ¬ v.Fires t

theorem Uncancelled.calmUntil {v : Vigil I σ ε} (h : v.Uncancelled) (e : Nat) : v.CalmUntil e :=
  ⟨h.unfired, fun t ht => absurd ht (h.not_fires t)⟩

theorem CalmUntil.mono {v : Vigil I σ ε} {d e : Nat} (h : v.CalmUntil e) (hde : d ≤ e) :
    v.CalmUntil d :=
  ⟨h.unfired, fun t ht => Nat.le_trans hde (h.le_of_fires t ht)⟩

/-- A token that is due fires then, so not before the vigil stops being calm. -/
theorem CalmUntil.le_due {v : Vigil I σ ε} {e : Nat} (h : v.CalmUntil e)
    (hheeds : v.wait.heeds = true) {t : Nat} (hdue : v.world.token.due = some t) : e ≤ t :=
  h.le_of_fires t ⟨hheeds, .inl hdue⟩

/-- An answer that arrives while the vigil is calm does not cancel it. -/
theorem CalmUntil.not_cancels {v : Vigil I σ ε} {e : Nat} (h : v.CalmUntil e) {k : Nat}
    (hk : v.arrivesAt k < e) : v.wait.heeds = true → (v.answer k).cancels = false := by
  intro hheeds
  refine Bool.eq_false_iff.2 fun hcancels => ?_
  have hle := h.le_of_fires _ ⟨hheeds, .inr ⟨k, hcancels, rfl⟩⟩
  omega

theorem undisturbed_uncancelled : v.undisturbed.Uncancelled :=
  ⟨fun h => absurd h Bool.false_ne_true, fun _ ht => absurd ht.1 Bool.false_ne_true⟩

/-! ## 3. The course of a vigil -/

variable [RemoteFailure ε]

/-- How look `k` settles the matter, unless it does not. -/
def verdict (k : Nat) : Option Outcome := v.wait.policy.verdict v.operation (v.response k)

/-- The unknown values remarked on before look `k`. -/
def warned : Nat → List String
  | 0 => []
  | k + 1 => Policy.warnedAfter (warned k) (v.wait.policy.remark (warned k) (v.response k))

/-- What there is to say about look `k` if it does not settle the matter. -/
def remark (k : Nat) : Option Notice := v.wait.policy.remark (v.warned k) (v.response k)

/-- What there is to say about the first `n` looks. -/
def remarks (n : Nat) : List Notice := (List.range n).filterMap v.remark

theorem remarks_succ (n : Nat) : v.remarks (n + 1) = v.remarks n ++ (v.remark n).toList := by
  unfold remarks
  rw [List.range_succ, List.filterMap_append]
  cases h : v.remark n <;> simp [h]

/-- Look `k` does not end the vigil: its answer arrives in time and does not settle
the matter, and there is time for another look. -/
structure Continues (k : Nat) : Prop where
  arrives : v.arrivesAt k < v.deadline
  open_ : v.verdict k = none
  another : v.askedAt (k + 1) < v.deadline

/-- How look `k` ends the vigil, after how many remarks, and when. -/
inductive Closes (k : Nat) : Outcome → Nat → Nat → Prop
  /-- The deadline comes no later than the answer. -/
  | late (h : v.deadline ≤ v.arrivesAt k) : Closes k (.timedOut .deadline) k v.deadline
  /-- The answer settles the matter. -/
  | settled {outcome : Outcome} (h : v.arrivesAt k < v.deadline)
      (hverdict : v.verdict k = some outcome) : Closes k outcome k (v.arrivesAt k)
  /-- The deadline comes no later than the next look. -/
  | spent (h : v.arrivesAt k < v.deadline) (hverdict : v.verdict k = none)
      (hnext : v.deadline ≤ v.askedAt (k + 1)) :
      Closes k (.timedOut .deadline) (k + 1) v.deadline

/-- How many looks and remarks the vigil makes if nobody cancels it, how it ends,
and when. -/
inductive Course : (looks remarked : Nat) → Outcome → (ending : Nat) → Prop
  /-- There is no time for a single look. -/
  | idle (h : v.deadline ≤ v.askedAt 0) : Course 0 0 (.timedOut .deadline) v.deadline
  /-- Look `m` is the last. -/
  | looked {m remarked ending : Nat} {outcome : Outcome} (h : v.askedAt 0 < v.deadline)
      (hbefore : ∀ j < m, v.Continues j) (hlast : v.Closes m outcome remarked ending) :
      Course (m + 1) remarked outcome ending

section Course

variable {v}

/-- A look ends the vigil or does not. -/
theorem continues_or_closes (k : Nat) :
    v.Continues k ∨ ∃ outcome remarked ending, v.Closes k outcome remarked ending := by
  by_cases harrives : v.arrivesAt k < v.deadline
  · cases hverdict : v.verdict k with
    | some outcome => exact .inr ⟨_, _, _, .settled harrives hverdict⟩
    | none =>
      by_cases hnext : v.askedAt (k + 1) < v.deadline
      · exact .inl ⟨harrives, hverdict, hnext⟩
      · exact .inr ⟨_, _, _, .spent harrives hverdict (by omega)⟩
  · exact .inr ⟨_, _, _, .late (by omega)⟩

/-- Up to a look that others precede which do not end the vigil, there is time for
every look. -/
theorem askedAt_lt_deadline {m : Nat} (h : v.askedAt 0 < v.deadline)
    (hbefore : ∀ j < m, v.Continues j) {k : Nat} (hk : k ≤ m) : v.askedAt k < v.deadline := by
  cases k with
  | zero => exact h
  | succ k => exact (hbefore k (by omega)).another

/-- Every vigil whose looks are apart has a course: the looks that do not end it
are bounded by the time there is. -/
theorem exists_course (htick : 1 ≤ v.wait.policy.tick) :
    ∃ looks remarked outcome ending, v.Course looks remarked outcome ending := by
  by_cases hfirst : v.askedAt 0 < v.deadline
  · have hsome : ∃ k, ¬ v.Continues k := by
      refine ⟨v.deadline, fun hcontinues => ?_⟩
      have hle := add_le_askedAt htick (v.deadline + 1)
      have hlt := hcontinues.another
      omega
    -- The last look is the first that does not let the vigil continue.
    classical
    have hbefore : ∀ j < Nat.find hsome, v.Continues j := fun j hj =>
      not_not.1 (Nat.find_min hsome hj)
    rcases v.continues_or_closes (Nat.find hsome) with hlast | ⟨outcome, remarked, ending, hlast⟩
    · exact absurd hlast (Nat.find_spec hsome)
    · exact ⟨_, _, _, _, .looked hfirst hbefore hlast⟩
  · exact ⟨_, _, _, _, .idle (by omega)⟩

/-- A course depends on the answers and their times alone, not on the token. -/
theorem Course.undisturbed {looks remarked ending : Nat} {outcome : Outcome}
    (h : v.Course looks remarked outcome ending) :
    v.undisturbed.Course looks remarked outcome ending := by
  cases h with
  | idle h => exact .idle (by rw [undisturbed_askedAt]; exact h)
  | looked h hbefore hlast =>
    refine .looked (by rw [undisturbed_askedAt]; exact h)
      (fun j hj => ⟨?_, (hbefore j hj).open_, ?_⟩) ?_
    · rw [undisturbed_arrivesAt]
      exact (hbefore j hj).arrives
    · rw [undisturbed_askedAt]
      exact (hbefore j hj).another
    · cases hlast with
      | late h => exact .late (by rw [undisturbed_arrivesAt]; exact h)
      | settled h hverdict =>
        rw [← undisturbed_arrivesAt] at h ⊢
        exact .settled h hverdict
      | spent h hverdict hnext =>
        refine .spent ?_ hverdict ?_
        · rw [undisturbed_arrivesAt]
          exact h
        · rw [undisturbed_askedAt]
          exact hnext

/-- If an answer settles the matter in time and none before it does, the vigil ends
with that answer. -/
theorem course_of_settled (htick : 1 ≤ v.wait.policy.tick) {n : Nat} {outcome : Outcome}
    (hbefore : ∀ k < n, v.verdict k = none) (hsettled : v.verdict n = some outcome)
    (hintime : v.arrivesAt n < v.deadline) :
    v.Course (n + 1) n outcome (v.arrivesAt n) := by
  have hmono := askedAt_mono htick (Nat.zero_le n)
  have hle := v.askedAt_le_arrivesAt n
  refine .looked (by omega) (fun j hj => ?_) (.settled hintime hsettled)
  have hj' := arrivesAt_lt_askedAt htick hj
  have hnext := askedAt_mono htick (show j + 1 ≤ n by omega)
  -- All that comes before the answer that settles the matter is in time, as it is.
  exact ⟨by omega, hbefore j hj, by omega⟩

/-- If no answer settles the matter in time, the vigil ends at the deadline, after
the looks for which there was time and no settlement. -/
theorem course_of_unsettled (htick : 1 ≤ v.wait.policy.tick)
    (hlate : ∀ n outcome, (∀ k < n, v.verdict k = none) → v.verdict n = some outcome →
      v.deadline ≤ v.arrivesAt n) :
    ∃ looks remarked, v.Course looks remarked (.timedOut .deadline) v.deadline ∧
      ∀ k, k < looks ↔ v.askedAt k < v.deadline ∧ ∀ j < k, v.verdict j = none := by
  obtain ⟨looks, remarked, outcome, ending, hcourse⟩ := exists_course htick
  cases hcourse with
  | idle h =>
    refine ⟨0, 0, .idle h, fun k => ⟨fun hk => absurd hk (Nat.not_lt_zero k), fun hk => ?_⟩⟩
    have hmono := askedAt_mono htick (Nat.zero_le k)
    omega
  | @looked m _ _ _ h hbefore hlast =>
    -- Whichever way the last look ends the vigil, there is no time for another one.
    have hlooks : v.deadline ≤ v.askedAt (m + 1) →
        ∀ k, k < m + 1 ↔ v.askedAt k < v.deadline ∧ ∀ j < k, v.verdict j = none := by
      intro hnext k
      constructor
      · intro hk
        exact ⟨askedAt_lt_deadline h hbefore (by omega), fun j hj => (hbefore j (by omega)).open_⟩
      · rintro ⟨hk, -⟩
        refine Nat.lt_of_not_le fun hmk => ?_
        have hmono := askedAt_mono htick hmk
        omega
    have hsucc := v.askedAt_succ m
    cases hlast with
    | late hlast => exact ⟨_, _, .looked h hbefore (.late hlast), hlooks (by omega)⟩
    | settled hintime hverdict =>
      have := hlate _ _ (fun k hk => (hbefore k hk).open_) hverdict
      omega
    | spent harrives hverdict hnext =>
      exact ⟨_, _, .looked h hbefore (.spent harrives hverdict hnext), hlooks hnext⟩

end Course

/-! ## 4. Vigils that hear a given sequence -/

/-- The vigil of a wait that begins at `start` and hears the given answers. -/
def ofAnswers {ε : Type} (wait : Wait) (operation : Operation) (start : Nat) (token : Token)
    (answers : Nat → Answer (Except ε Reading)) :
    Vigil ⟨Unit, fun _ => Except ε Reading⟩ Nat ε where
  wait := wait
  remote := .ofAnswers answers
  operation := operation
  query := ⟨(), id⟩
  world := { now := start, token, remote := 0 }

/-- Every sequence of answers is that of a vigil. -/
theorem answer_ofAnswers {ε : Type} (wait : Wait) (operation : Operation) (start : Nat)
    (token : Token) (answers : Nat → Answer (Except ε Reading)) (k : Nat) :
    (ofAnswers wait operation start token answers).answer k = answers k := by
  unfold answer state
  exact congrArg answers (Remote.after_ofAnswers answers k)

end Vigil

end Settle
