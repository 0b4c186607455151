/-
A petition: a retry about to begin, with everything its course depends on.

Like a vigil it asks the same thing over and over, so its answers form a sequence,
and with it the times at which the calls would be made if nothing stopped it: the
first at once, every other one when the delay has passed since the answer to the
one before. `LastCall` says from the answers alone which call is the last.

`Attempting` holds of the states between two attempts. It carries the counter: the
attempts that were made, the next one and those left after it add up to the limit,
in every run. That a petition which nobody cancels comes to its last call is proved
by induction on the calls before it.
-/
import Mathlib.Algebra.Group.Nat.Defs
import Settle.Proofs.Attempt
import Settle.Proofs.Vigil
import Settle.Rehearsal

set_option autoImplicit false

namespace Settle

variable {I : Interface} {σ ε α : Type}

/-- A retry about to begin. -/
structure Petition (I : Interface) (σ ε α : Type) where
  retry : Retry
  /-- Whether the caller's token counts. -/
  heeds : Bool
  remote : Remote I σ
  query : Query I (Except ε α)
  /-- The world in which it begins. -/
  world : World I σ

namespace Petition

variable (p : Petition I σ ε α)

/-! ## 1. The answers and their times -/

/-- The state of the remote side after `k` calls. -/
def state (k : Nat) : σ := p.remote.after p.query.request p.world.remote k

/-- The answer to call `k`, counted from zero. -/
def answer (k : Nat) : Answer (I.Response p.query.request) :=
  (p.remote.answer p.query.request (p.state k)).1

/-- What call `k` gives. -/
def response (k : Nat) : Except ε α := p.query.read (p.answer k).response

/-- When call `k` is made unless the petition ends before. -/
def calledAt : Nat → Nat
  | 0 => p.world.now
  | k + 1 => calledAt k + (p.answer k).delay + p.retry.delay

/-- When the answer to call `k` arrives. -/
def answeredAt (k : Nat) : Nat := p.calledAt k + (p.answer k).delay

/-- Call `k` as it is recorded. -/
def exchange (k : Nat) : Exchange I := ⟨p.calledAt k, p.query.request, p.answer k⟩

/-- The first `n` calls as they are recorded. -/
def exchanges (n : Nat) : List (Exchange I) := (List.range n).map p.exchange

theorem exchanges_succ (n : Nat) : p.exchanges (n + 1) = p.exchanges n ++ [p.exchange n] := by
  unfold exchanges
  rw [List.range_succ, List.map_append, List.map_singleton]

/-- The moments at which something fires the token of a petition that heeds it. -/
def Fires (t : Nat) : Prop :=
  p.heeds = true ∧
    (p.world.token.due = some t ∨ ∃ k, (p.answer k).cancels = true ∧ p.answeredAt k = t)

/-- Nothing ever cancels the petition. -/
structure Uncancelled : Prop where
  unfired : p.heeds = true → p.world.token.fired = false
  not_fires : ∀ t, ¬ p.Fires t

section Uncancelled

variable {p}

theorem Uncancelled.not_due (h : p.Uncancelled) (hheeds : p.heeds = true) (t : Nat) :
    p.world.token.due ≠ some t := fun hdue => h.not_fires t ⟨hheeds, .inl hdue⟩

theorem Uncancelled.not_cancels (h : p.Uncancelled) (hheeds : p.heeds = true) (k : Nat) :
    (p.answer k).cancels = false :=
  Bool.eq_false_iff.2 fun hcancels => h.not_fires _ ⟨hheeds, .inr ⟨k, hcancels, rfl⟩⟩

end Uncancelled

variable [RemoteFailure ε]

/-! ## 2. The last call -/

/-- Call `k` fails for a passing reason. -/
def Passes (k : Nat) : Prop :=
  ∃ e, p.response k = .error e ∧ RemoteFailure.classify e = .transient

/-- Which call is the last: the first that does not fail for a passing reason, or the last that is
allowed if all of them do. -/
inductive LastCall : Nat → Prop
  | decided {n : Nat} (hallowed : n < p.retry.maxAttempts) (hfinal : ¬ p.Passes n)
      (hbefore : ∀ k < n, p.Passes k) : LastCall n
  | spent {n : Nat} (hlimit : n + 1 = p.retry.maxAttempts)
      (hpassed : ∀ k < p.retry.maxAttempts, p.Passes k) : LastCall n

section LastCall

variable {p} {n m : Nat}

theorem LastCall.allowed (h : p.LastCall n) : n < p.retry.maxAttempts := by
  cases h with
  | decided hallowed _ _ => exact hallowed
  | spent hlimit _ => omega

theorem LastCall.passes (h : p.LastCall n) : ∀ k < n, p.Passes k := by
  intro k hk
  cases h with
  | decided _ _ hbefore => exact hbefore k hk
  | spent hlimit hpassed => exact hpassed k (by omega)

/-- A last call that fails for a passing reason is the last that is allowed. -/
theorem LastCall.spent_of_passes (h : p.LastCall n) (hn : p.Passes n) :
    n + 1 = p.retry.maxAttempts := by
  cases h with
  | decided _ hfinal _ => exact absurd hn hfinal
  | spent hlimit _ => exact hlimit

/-- A last call fails for a passing reason exactly if all the calls that are allowed do. -/
theorem LastCall.passes_iff (h : p.LastCall n) :
    p.Passes n ↔ n + 1 = p.retry.maxAttempts ∧ ∀ k < p.retry.maxAttempts, p.Passes k := by
  constructor
  · intro hn
    have hlimit := h.spent_of_passes hn
    refine ⟨hlimit, fun k hk => ?_⟩
    by_cases hkn : k = n
    · rw [hkn]
      exact hn
    · exact h.passes k (by omega)
  · rintro ⟨hlimit, hpassed⟩
    exact hpassed n (by omega)

/-- No call is made after the last. -/
theorem LastCall.le (h : p.LastCall n) (h' : p.LastCall m) : n ≤ m := by
  refine Nat.le_of_not_lt fun hlt => ?_
  have hlimit := h'.spent_of_passes (h.passes m hlt)
  have hallowed := h.allowed
  omega

theorem LastCall.unique (h : p.LastCall n) (h' : p.LastCall m) : n = m :=
  Nat.le_antisymm (h.le h') (h'.le h)

variable (p)

theorem exists_lastCall : ∃ n, p.LastCall n := by
  classical
  by_cases hsome : ∃ k, k < p.retry.maxAttempts ∧ ¬ p.Passes k
  · obtain ⟨hallowed, hfinal⟩ := Nat.find_spec hsome
    refine ⟨Nat.find hsome, .decided hallowed hfinal fun k hk => ?_⟩
    by_contra hpasses
    exact Nat.find_min hsome hk ⟨by omega, hpasses⟩
  · have hpos := p.retry.maxAttempts_pos
    refine ⟨p.retry.maxAttempts - 1, .spent (by omega) fun k hk => ?_⟩
    by_contra hpasses
    exact hsome ⟨k, hk, hpasses⟩

end LastCall

/-- What the petition comes to if call `n` is the last. -/
def result (n : Nat) : Except (Halt ε) α :=
  match p.response n with
  | .ok value => .ok value
  | .error e => .error (.failed e (n + 1))

/-- The notice before call `k + 1`. -/
def notice (k : Nat) : Option Notice :=
  match p.response k with
  | .ok _ => none
  | .error e => some (.retrying (k + 1) p.retry.maxAttempts (RemoteFailure.message e))

/-- What there is to say about the first `n` calls. -/
def notices (n : Nat) : List Notice := (List.range n).filterMap p.notice

theorem notices_succ {k : Nat} {e : ε} (h : p.response k = .error e) :
    p.notices (k + 1) =
      p.notices k ++ [.retrying (k + 1) p.retry.maxAttempts (RemoteFailure.message e)] := by
  unfold notices
  rw [List.range_succ, List.filterMap_append, List.filterMap_cons, notice, h]
  rfl

/-! ## 3. Between attempts -/

/-- Runs the petition to its end. -/
def run : Option (Except (Halt ε) α) × World I σ :=
  (p.retry.run p.heeds p.remote p.query).runIn p.world

/-- The same as a call that gives its value or an error. -/
def call : Option (Except Error α) × World I σ :=
  (p.retry.call p.heeds p.remote p.query).run.runIn p.world

/-- Makes one attempt after `made` others. -/
def attempt (made : Nat) : Act I σ (Except (Halt ε) α ⊕ ε) :=
  Retry.attempt p.heeds p.remote p.query made

/-- Makes attempts after `made` others, up to `left` after the next one. -/
def attempts (left made : Nat) : Act I σ (Except (Halt ε) α) :=
  p.retry.attempts p.heeds p.remote p.query left made

/-- The petition comes to a world in which it is about to make another attempt: `left` may follow
it, and `made` came before. -/
inductive Attempting : (left made : Nat) → World I σ → Prop
  | first : Attempting (p.retry.maxAttempts - 1) 0 p.world
  | again {left made : Nat} {w w' w'' : World I σ} {e : ε} (h : Attempting (left + 1) made w)
      (hattempt : (p.attempt made).runIn w = (some (.inr e), w'))
      (hpause : (w'.note (.retrying (made + 1) p.retry.maxAttempts
        (RemoteFailure.message e))).pause ⟨p.heeds, none⟩ p.retry.delay = (none, w'')) :
      Attempting left (made + 1) w''

section Attempting

variable {p} {left made : Nat} {w w' w'' : World I σ} {e : ε}

/-- The petition goes on from every world between attempts as it would have from the first. -/
theorem Attempting.run_eq (h : p.Attempting left made w) :
    p.run = (p.attempts left made).runIn w := by
  induction h with
  | first => rfl
  | again _ hattempt hpause ih =>
    rw [ih, attempts, Retry.runIn_attempts_of_next hattempt hpause, attempts]

/-- **The attempts made, the next one and those that may follow it add up to the limit.** -/
theorem Attempting.count (h : p.Attempting left made w) :
    made + 1 + left = p.retry.maxAttempts := by
  induction h with
  | first =>
    have := p.retry.maxAttempts_pos
    omega
  | again _ _ _ ih => omega

end Attempting

/-! ## 4. A petition without cancellation -/

/-- Where the petition stands: its calls and the notices on them, each in order after what was
there before, and a token that counts is as it was at first. -/
structure Stands (calls noticed now : Nat) (w : World I σ) : Prop where
  now_eq : w.now = now
  trace_eq : w.trace.toList = p.world.trace.toList ++ p.exchanges calls
  log_eq : w.log.toList = p.world.log.toList ++ p.notices noticed
  remote_eq : w.remote = p.state calls
  token_eq : p.heeds = true → w.token = p.world.token

/-- What comes of the attempt that makes call `k`. -/
def judged (k : Nat) : Except (Halt ε) α ⊕ ε := Retry.judged k (p.response k)

section Stands

variable {p} {k calls noticed now : Nat} {w w' : World I σ}

theorem stands_world : p.Stands 0 0 p.world.now p.world where
  now_eq := rfl
  trace_eq := (List.append_nil _).symm
  log_eq := (List.append_nil _).symm
  remote_eq := rfl
  token_eq _ := rfl

theorem judged_of_passes {e : ε} (h : p.response k = .error e)
    (htransient : RemoteFailure.classify e = .transient) : p.judged k = .inr e := by
  unfold judged
  rw [h, Retry.judged_of_transient htransient]

theorem judged_of_not_passes (h : ¬ p.Passes k) : p.judged k = .inl (p.result k) := by
  unfold judged result
  cases hresponse : p.response k with
  | ok value => rfl
  | error e => exact Retry.judged_of_lasting fun hclass => h ⟨e, hresponse, hclass⟩

/-- A call that fails for a passing reason is remarked on. -/
theorem Stands.noted {e : ε} (h : p.Stands (k + 1) k now w) (hfailed : p.response k = .error e) :
    p.Stands (k + 1) (k + 1) now
      (w.note (.retrying (k + 1) p.retry.maxAttempts (RemoteFailure.message e))) where
  now_eq := h.now_eq
  trace_eq := h.trace_eq
  log_eq := by rw [World.note_log, h.log_eq, p.notices_succ hfailed, List.append_assoc]
  remote_eq := h.remote_eq
  token_eq := h.token_eq

section Steps

variable (hquiet : p.Uncancelled)
include hquiet

theorem Stands.unfired (h : p.Stands calls noticed now w) :
    p.heeds = true → w.token.fired = false := by
  intro hheeds
  rw [h.token_eq hheeds]
  exact hquiet.unfired hheeds

/-- While one sleeps, a token that counts does not fire. -/
theorem Stands.sleep (h : p.Stands calls noticed now w) (duration : Nat) :
    p.Stands calls noticed (now + duration) (w.sleepUntil (w.now + duration)) where
  now_eq := by rw [World.sleepUntil_now (Nat.le_add_right _ _), h.now_eq]
  trace_eq := by rw [World.sleepUntil_trace, h.trace_eq]
  log_eq := by rw [World.sleepUntil_log, h.log_eq]
  remote_eq := by rw [World.sleepUntil_remote, h.remote_eq]
  token_eq hheeds := by
    have htoken := h.token_eq hheeds
    have halarm : w.token.alarm? (w.now + duration) = none := by
      refine Token.alarm?_eq_none fun t hdue => ?_
      rw [htoken] at hdue
      exact absurd hdue (hquiet.not_due hheeds t)
    rw [World.sleepUntil_token halarm, htoken]

/-- Nothing cuts a pause short. -/
theorem Stands.pause (h : p.Stands calls noticed now w) (duration : Nat) :
    w.pause ⟨p.heeds, none⟩ duration = (none, w.sleepUntil (w.now + duration)) := by
  refine World.pause_calm duration (h.unfired hquiet) rfl fun hheeds t hdue => ?_
  rw [h.token_eq hheeds] at hdue
  exact absurd hdue (hquiet.not_due hheeds t)

/-- A call is made, and its answer arrives. -/
theorem Stands.call (h : p.Stands k noticed (p.calledAt k) w) :
    p.Stands (k + 1) noticed (p.answeredAt k) (w.call p.remote p.query).2 ∧
      (w.call p.remote p.query).1 = p.response k := by
  have hanswer : (p.remote.answer p.query.request w.remote).1 = p.answer k := by
    rw [h.remote_eq]
    rfl
  have hasked : p.Stands (k + 1) noticed (p.calledAt k) (w.ask p.remote p.query.request).2 :=
    { now_eq := h.now_eq
      trace_eq := by
        rw [World.ask_trace, h.trace_eq, hanswer, h.now_eq, exchanges_succ, List.append_assoc]
        rfl
      log_eq := h.log_eq
      remote_eq := by
        rw [World.ask_remote, h.remote_eq]
        rfl
      token_eq := h.token_eq }
  -- The answer is on its way before it arrives, and nothing happens to the token until then.
  have hslept := hasked.sleep hquiet (p.answer k).delay
  unfold World.call
  simp only [World.ask_fst, hanswer]
  refine ⟨⟨?_, ?_, ?_, ?_, fun hheeds => ?_⟩, rfl⟩
  · rw [World.deliver_now]
    exact hslept.now_eq
  · rw [World.deliver_trace]
    exact hslept.trace_eq
  · rw [World.deliver_log]
    exact hslept.log_eq
  · rw [World.deliver_remote]
    exact hslept.remote_eq
  · -- Nor does the answer bring a cancellation with it.
    rw [World.deliver_eq_self (hquiet.not_cancels hheeds k)]
    exact hslept.token_eq hheeds

/-- **One attempt makes one call, at once, and waits for its answer.** -/
theorem Stands.attempt (h : p.Stands k k (p.calledAt k) w) :
    ∃ w', p.Stands (k + 1) k (p.answeredAt k) w' ∧
      (p.attempt k).runIn w = (some (p.judged k), w') := by
  obtain ⟨hstands, hresponse⟩ := h.call hquiet
  refine ⟨_, hstands, ?_⟩
  have hgate : w.pause ⟨p.heeds, none⟩ 0 = (none, w) :=
    World.pause_zero (h.unfired hquiet) rfl
  unfold Petition.attempt judged
  rw [Retry.runIn_attempt_of_open hgate, hresponse]

/-- When the delay has passed it is time for the next call. -/
theorem Stands.next {e : ε} (h : p.Stands (k + 1) k (p.answeredAt k) w)
    (hfailed : p.response k = .error e) :
    ∃ w', p.Stands (k + 1) (k + 1) (p.calledAt (k + 1)) w' ∧
      (w.note (.retrying (k + 1) p.retry.maxAttempts (RemoteFailure.message e))).pause
        ⟨p.heeds, none⟩ p.retry.delay = (none, w') := by
  have hnoted := h.noted hfailed
  exact ⟨_, hnoted.sleep hquiet _, hnoted.pause hquiet _⟩

/-- The petition comes to every call up to the last, each at its time. By induction on the calls
before it. -/
theorem reaches {n : Nat} (hlast : p.LastCall n) (hk : k ≤ n) :
    ∃ left w, p.Attempting left k w ∧ p.Stands k k (p.calledAt k) w := by
  induction k with
  | zero => exact ⟨_, _, .first, stands_world⟩
  | succ k ih =>
    obtain ⟨left, w, hattempting, hstands⟩ := ih (by omega)
    obtain ⟨e, hfailed, htransient⟩ := hlast.passes k (by omega)
    have hallowed := hlast.allowed
    have hcount := hattempting.count
    -- The call is not the last, so the limit leaves room for another.
    obtain ⟨left, rfl⟩ : ∃ l, left = l + 1 := ⟨left - 1, by omega⟩
    obtain ⟨w', hanswered, hattempt⟩ := hstands.attempt hquiet
    rw [judged_of_passes hfailed htransient] at hattempt
    obtain ⟨w'', hstands', hpause⟩ := hanswered.next hquiet hfailed
    exact ⟨left, w'', .again hattempting hattempt hpause, hstands'⟩

/-- With the answer to its last call the petition ends. -/
theorem run_of_lastCall {n : Nat} (hlast : p.LastCall n) :
    ∃ w, p.Stands (n + 1) n (p.answeredAt n) w ∧ p.run = (some (p.result n), w) := by
  obtain ⟨left, w, hattempting, hstands⟩ := reaches hquiet hlast (Nat.le_refl n)
  obtain ⟨w', hanswered, hattempt⟩ := hstands.attempt hquiet
  refine ⟨w', hanswered, ?_⟩
  rw [hattempting.run_eq]
  by_cases hpasses : p.Passes n
  · -- A last call that fails for a passing reason leaves no room for another.
    obtain ⟨e, hfailed, htransient⟩ := hpasses
    have hlimit := hlast.spent_of_passes ⟨e, hfailed, htransient⟩
    have hcount := hattempting.count
    obtain rfl : left = 0 := by omega
    rw [judged_of_passes hfailed htransient] at hattempt
    rw [attempts, Retry.runIn_attempts_of_spent hattempt, result, hfailed]
  · rw [judged_of_not_passes hpasses] at hattempt
    exact Retry.runIn_attempts_of_end hattempt

end Steps

end Stands

/-! ## 5. The retry law -/

/-- What the petition gives as a call if call `n` is the last: its value, or the error that its
failure means after so many attempts. -/
def given (n : Nat) : Except Error α := (p.result n).mapError Halt.error

/-- What the petition comes to with call `n` as its last. -/
structure Lawful (n : Nat) : Prop where
  last : p.LastCall n
  unique : ∀ m, p.LastCall m → m = n
  /-- It ends when call `n` is answered, with that answer, and makes the calls up to it. -/
  ends : ∃ w, p.run = (some (p.result n), w) ∧ p.call = (some (p.given n), w) ∧
    w.now = p.answeredAt n ∧
    w.trace.toList = p.world.trace.toList ++ p.exchanges (n + 1) ∧
    w.log.toList = p.world.log.toList ++ p.notices n
  limit_eq : p.retry.maxAttempts = min (p.retry.retries + 1) (2 ^ 32 - 1)
  /-- The number of the next attempt, one more than those made, never passes the limit. -/
  counter_le : ∀ left made w, p.Attempting left made w → made + 1 ≤ p.retry.maxAttempts
  value_iff : ∀ value, p.given n = .ok value ↔ p.response n = .ok value
  /-- It gives up only after all the calls that are allowed, each of which failed for a passing
  reason. -/
  exhausted_iff : ∀ attempts message,
    p.given n = .error (.transientExhausted attempts message) ↔
      n + 1 = p.retry.maxAttempts ∧ (∀ k < p.retry.maxAttempts, p.Passes k) ∧
        attempts = p.retry.maxAttempts ∧
        ∃ e, p.response n = .error e ∧ message = RemoteFailure.message e
  absent_iff : ∀ detail, p.given n = .error (.notFound detail) ↔
    ∃ e, p.response n = .error e ∧ RemoteFailure.classify e = .absent ∧
      detail = RemoteFailure.message e
  fatal_iff : ∀ detail, p.given n = .error (.remote detail) ↔
    ∃ e, p.response n = .error e ∧ RemoteFailure.classify e = .fatal ∧
      detail = RemoteFailure.message e

section Given

variable {p} {n : Nat}

theorem given_eq_ok_iff {value : α} : p.given n = .ok value ↔ p.response n = .ok value := by
  unfold given result
  cases p.response n <;> simp [Except.mapError]

theorem given_eq_error_iff {error : Error} :
    p.given n = .error error ↔
      ∃ e, p.response n = .error e ∧ error = .ofFailure e (n + 1) := by
  unfold given result
  cases p.response n <;> simp [Except.mapError, Halt.error, eq_comm]

/-- The calls of a petition give up exactly if its last call fails for a passing reason. -/
theorem given_eq_exhausted_iff {attempts : Nat} {message : String} :
    p.given n = .error (.transientExhausted attempts message) ↔
      ∃ e, p.response n = .error e ∧ RemoteFailure.classify e = .transient ∧
        attempts = n + 1 ∧ message = RemoteFailure.message e := by
  refine given_eq_error_iff.trans (exists_congr fun e => and_congr_right fun _ => ?_)
  unfold Error.ofFailure
  cases RemoteFailure.classify e <;> simp

theorem given_eq_notFound_iff {detail : String} :
    p.given n = .error (.notFound detail) ↔
      ∃ e, p.response n = .error e ∧ RemoteFailure.classify e = .absent ∧
        detail = RemoteFailure.message e := by
  refine given_eq_error_iff.trans (exists_congr fun e => and_congr_right fun _ => ?_)
  unfold Error.ofFailure
  cases RemoteFailure.classify e <;> simp

theorem given_eq_remote_iff {detail : String} :
    p.given n = .error (.remote detail) ↔
      ∃ e, p.response n = .error e ∧ RemoteFailure.classify e = .fatal ∧
        detail = RemoteFailure.message e := by
  refine given_eq_error_iff.trans (exists_congr fun e => and_congr_right fun _ => ?_)
  unfold Error.ofFailure
  cases RemoteFailure.classify e <;> simp

end Given

/-- **The retry law.** A petition that nobody cancels makes its calls up to the last, each when the
delay has passed since the answer to the one before, and ends with the last answer. -/
theorem retry_law (hquiet : p.Uncancelled) : ∃ n, p.Lawful n := by
  obtain ⟨n, hlast⟩ := p.exists_lastCall
  obtain ⟨w, hstands, hrun⟩ := run_of_lastCall hquiet hlast
  refine ⟨n, ?_⟩
  exact
    { last := hlast
      unique := fun m hm => hm.unique hlast
      ends := ⟨w, hrun, Act.runIn_map_of_some hrun (Except.mapError Halt.error), hstands.now_eq,
        hstands.trace_eq, hstands.log_eq⟩
      limit_eq := rfl
      counter_le := fun left made w h => by
        have hcount := h.count
        omega
      value_iff := fun value => given_eq_ok_iff
      exhausted_iff := fun attempts message => by
        rw [given_eq_exhausted_iff]
        constructor
        · rintro ⟨e, hfailed, htransient, rfl, rfl⟩
          obtain ⟨hlimit, hpassed⟩ := hlast.passes_iff.1 ⟨e, hfailed, htransient⟩
          exact ⟨hlimit, hpassed, hlimit, e, hfailed, rfl⟩
        · rintro ⟨hlimit, hpassed, rfl, e, hfailed, rfl⟩
          obtain ⟨e', hfailed', htransient⟩ := hlast.passes_iff.2 ⟨hlimit, hpassed⟩
          rw [hfailed, Except.error.injEq] at hfailed'
          subst hfailed'
          exact ⟨e, hfailed, htransient, hlimit.symm, rfl⟩
      absent_iff := fun detail => given_eq_notFound_iff
      fatal_iff := fun detail => given_eq_remote_iff }

/-! ## 6. A service that is busy -/

/-- The petition of a retry that begins at `start` and hears the given answers. -/
def ofAnswers (retry : Retry) (start : Nat) (token : Token)
    (answers : Nat → Answer (Except ε α)) : Petition ⟨Unit, fun _ => Except ε α⟩ Nat ε α where
  retry := retry
  heeds := true
  remote := .ofAnswers answers
  query := ⟨(), id⟩
  world := { now := start, token, remote := 0 }

omit [RemoteFailure ε] in
/-- Every sequence of answers is that of a petition. -/
theorem answer_ofAnswers (retry : Retry) (start : Nat) (token : Token)
    (answers : Nat → Answer (Except ε α)) (k : Nat) :
    (ofAnswers retry start token answers).answer k = answers k := by
  unfold answer state
  exact congrArg answers (Remote.after_ofAnswers answers k)

/-- The service is busy twice, and then it does what it is asked to. -/
def busyAnswers : Nat → Answer (Except Rehearsal.Failure String)
  | 0 => { response := .error { message := "busy", transient := true }, delay := 3 }
  | 1 => { response := .error { message := "busy", transient := true }, delay := 7 }
  | _ => { response := .ok "done", delay := 2 }

/-- A request to the busy service at time 50, repeated up to three times after 10 ms. -/
def busy : Petition ⟨Unit, fun _ => Except Rehearsal.Failure String⟩ Nat Rehearsal.Failure String :=
  .ofAnswers ⟨3, 10⟩ 50 {} busyAnswers

theorem uncancelled_busy : busy.Uncancelled := by
  refine ⟨fun _ => rfl, ?_⟩
  rintro t ⟨-, hdue | ⟨k, hcancels, -⟩⟩
  · cases hdue
  · rw [busy, answer_ofAnswers] at hcancels
    rcases k with _ | _ | k <;> cases hcancels

theorem lastCall_busy : busy.LastCall 2 := by
  refine .decided (by decide) ?_ fun k hk => ?_
  · rintro ⟨e, he, -⟩
    cases he
  · rcases k with _ | _ | k
    · exact ⟨_, rfl, by decide⟩
    · exact ⟨_, rfl, by decide⟩
    · omega

theorem retry_law_busy :
    busy.Uncancelled ∧ ∃ w, busy.run.1 = some (.ok "done") ∧ busy.run.2 = w ∧ w.now = 82 ∧
      w.trace.toList.map (·.time) = [50, 63, 80] := by
  obtain ⟨n, hlawful⟩ := retry_law busy uncancelled_busy
  obtain rfl := hlawful.unique 2 lastCall_busy
  obtain ⟨w, hrun, -, hnow, htrace, -⟩ := hlawful.ends
  refine ⟨uncancelled_busy, w, by rw [hrun]; rfl, by rw [hrun], hnow, ?_⟩
  rw [htrace]
  decide

end Petition

end Settle
