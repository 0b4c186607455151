/-
One attempt of a retry, and how a retry comes to nothing.

An attempt is one turn of the loop of a retry's `run`: one call with a look at the token
before it. It is cut off before the call, or it is what is made of the answer:
`Retry.judged`. After it the retry ends, or the pause before the next attempt is cut
short, or there is another attempt.

`Retry.Fails` says what the error of a retry tells: how many calls there were and how
the last one failed, or that a token which counts has fired.
-/
import Settle.Proofs.Calls.Loops

set_option autoImplicit false

namespace Settle

variable {I : Interface} {σ ε α : Type}

/-- Without a deadline only a token that counts cuts a pause short. -/
theorem World.fired_of_pause {w w' : World I σ} {heeds : Bool} {duration : Nat}
    {cause : Interruption} (h : w.pause ⟨heeds, none⟩ duration = (some cause, w')) :
    heeds = true ∧ w'.token.fired = true := by
  cases paused duration h with
  | fired hheeds hfired => exact ⟨hheeds, hfired⟩
  | expired hexpired => exact absurd hexpired Bool.false_ne_true
  | alarmed hheeds _ _ => exact ⟨hheeds, rfl⟩
  | late _ hexpired _ => exact absurd hexpired Bool.false_ne_true

namespace Retry

variable [RemoteFailure ε]

/-! ## 1. One attempt -/

/-- What comes of the attempt after `made` others whose call is answered with this. -/
def judged (made : Nat) : Except ε α → Except (Halt ε) α ⊕ ε
  | .ok value => .inl (.ok value)
  | .error e =>
    match RemoteFailure.classify e with
    | .transient => .inr e
    | _ => .inl (.error (.failed e (made + 1)))

section Attempt

variable {heeds : Bool} {R : Remote I σ} {q : Query I (Except ε α)} {made : Nat}
  {w w' w'' : World I σ} {e : ε}

theorem judged_of_transient (h : RemoteFailure.classify e = .transient) :
    (judged made (.error e) : Except (Halt ε) α ⊕ ε) = .inr e := by
  unfold judged
  simp only [h]

theorem judged_of_lasting (h : RemoteFailure.classify e ≠ .transient) :
    (judged made (.error e) : Except (Halt ε) α ⊕ ε) =
      .inl (.error (.failed e (made + 1))) := by
  unfold judged
  cases hclass : RemoteFailure.classify e with
  | transient => exact absurd hclass h
  | absent => simp only [hclass]
  | fatal => simp only [hclass]

/-- An attempt that is over before its call. -/
theorem runIn_attempt_of_gate {cause : Interruption}
    (hgate : w.pause ⟨heeds, none⟩ 0 = (some cause, w')) :
    (attempt heeds R q made).runIn w = (some (.inl (.error (.cancelled made))), w') := by
  unfold attempt
  rw [Act.runIn_bind, Act.runIn_pause, hgate]
  rfl

/-- An attempt that makes its call. -/
theorem runIn_attempt_of_open (hgate : w.pause ⟨heeds, none⟩ 0 = (none, w)) :
    (attempt heeds R q made).runIn w =
      (some (judged made (w.call R q).1), (w.call R q).2) := by
  unfold attempt judged
  rw [Act.runIn_bind, Act.runIn_pause, hgate]
  simp only
  rw [Act.runIn_bind, Act.runIn_call]
  cases (w.call R q).1 with
  | ok value => rfl
  | error e => cases hclass : RemoteFailure.classify e <;> simp only [hclass] <;> rfl

variable {r : Retry} {left : Nat}

/-- An attempt that ends the retry is the last. -/
theorem runIn_attempts_of_end {result : Except (Halt ε) α}
    (h : (attempt heeds R q made).runIn w = (some (.inl result), w')) :
    (r.attempts heeds R q left made).runIn w = (some result, w') := by
  cases left with
  | zero => exact Act.runIn_bind_of_some h _
  | succ left => exact Act.runIn_bind_of_some h _

/-- So is the last that is allowed. -/
theorem runIn_attempts_of_spent (h : (attempt heeds R q made).runIn w = (some (.inr e), w')) :
    (r.attempts heeds R q 0 made).runIn w = (some (.error (.failed e (made + 1))), w') :=
  Act.runIn_bind_of_some h _

section Again

variable (hattempt : (attempt heeds R q made).runIn w = (some (.inr e), w'))
include hattempt

/-- After any other there is a notice and a pause. -/
theorem runIn_attempts_of_passing :
    (r.attempts heeds R q (left + 1) made).runIn w =
      match (w'.note (.retrying (made + 1) r.maxAttempts (RemoteFailure.message e))).pause
        ⟨heeds, none⟩ r.delay with
      | (some _, w'') => (some (.error (.cancelled (made + 1))), w'')
      | (none, w'') => (r.attempts heeds R q left (made + 1)).runIn w'' := by
  refine (Act.runIn_bind_of_some hattempt _).trans ?_
  simp only
  rw [Act.runIn_bind_of_some (Act.runIn_note _ _), Act.runIn_bind, Act.runIn_pause]
  cases (w'.note (.retrying (made + 1) r.maxAttempts (RemoteFailure.message e))).pause
      ⟨heeds, none⟩ r.delay with
  | mk cause w'' => cases cause <;> rfl

/-- A pause that is cut short ends the retry, -/
theorem runIn_attempts_of_cut {cause : Interruption}
    (hpause : (w'.note (.retrying (made + 1) r.maxAttempts (RemoteFailure.message e))).pause
      ⟨heeds, none⟩ r.delay = (some cause, w'')) :
    (r.attempts heeds R q (left + 1) made).runIn w =
      (some (.error (.cancelled (made + 1))), w'') := by
  rw [runIn_attempts_of_passing hattempt, hpause]

/-- and after a pause that is not there is another attempt. -/
theorem runIn_attempts_of_next
    (hpause : (w'.note (.retrying (made + 1) r.maxAttempts (RemoteFailure.message e))).pause
      ⟨heeds, none⟩ r.delay = (none, w'')) :
    (r.attempts heeds R q (left + 1) made).runIn w =
      (r.attempts heeds R q left (made + 1)).runIn w'' := by
  rw [runIn_attempts_of_passing hattempt, hpause]

end Again

end Attempt

/-! ## 2. How a retry comes to nothing -/

section Halted

variable {heeds : Bool} {R : Remote I σ} {q : Query I (Except ε α)} {made : Nat}
  {w w' : World I σ} {halt : Halt ε}

/-- How attempts after `made` others come to nothing: the last of their calls fails, or a token
that counts has fired. -/
inductive Halted (heeds : Bool) (made : Nat) (calls : List q.Call) (w : World I σ) :
    Halt ε → Prop
  | failed {e : ε} (h : EndsWith calls (.error e)) :
    Halted heeds made calls w (.failed e (made + calls.length))
  | cancelled (hheeds : heeds = true) (hfired : w.token.fired = true) :
    Halted heeds made calls w (.cancelled (made + calls.length))

omit [RemoteFailure ε] in
/-- A call before those that came to nothing counts with them. -/
theorem Halted.cons {c : q.Call} {calls : List q.Call}
    (h : Halted heeds (made + 1) calls w halt) : Halted heeds made (c :: calls) w halt := by
  have hlength : made + 1 + calls.length = made + (c :: calls).length := by
    rw [List.length_cons]
    omega
  cases h with
  | failed h =>
    rw [hlength]
    exact .failed h.cons
  | cancelled hheeds hfired =>
    rw [hlength]
    exact .cancelled hheeds hfired

/-- An attempt is cut off, or it is what is made of the answer to its call. -/
theorem attempt_cases (heeds : Bool) (R : Remote I σ) (q : Query I (Except ε α)) (made : Nat)
    (w : World I σ) :
    (∃ w', heeds = true ∧ w'.token.fired = true ∧ w.Leads [] w' ∧
      (attempt heeds R q made).runIn w = (some (.inl (.error (.cancelled made))), w')) ∨
    (attempt heeds R q made).runIn w =
      (some (judged made (w.callOf R q).result), (w.call R q).2) := by
  have hsame := World.pause_zero_snd w ⟨heeds, none⟩
  have hlead := w.leads_pause ⟨heeds, none⟩ 0
  cases hgate : w.pause ⟨heeds, none⟩ 0 with
  | mk cause w' =>
    rw [hgate] at hsame hlead
    cases cause with
    | some cause =>
      obtain ⟨hheeds, hfired⟩ := World.fired_of_pause hgate
      exact .inl ⟨w', hheeds, hfired, hlead, runIn_attempt_of_gate hgate⟩
    | none =>
      cases hsame
      exact .inr (runIn_attempt_of_open hgate)

theorem attempt_halted
    (h : (attempt heeds R q made).runIn w = (some (.inl (.error halt)), w')) :
    ∃ calls : List q.Call, w.Leads (calls.map Query.Call.exchange) w' ∧
      Halted heeds made calls w' halt := by
  rcases attempt_cases heeds R q made w with ⟨w₁, hheeds, hfired, hlead, hrun⟩ | hrun
  · rw [hrun] at h
    cases h
    exact ⟨[], hlead, .cancelled hheeds hfired⟩
  · rw [hrun] at h
    cases hresult : (w.callOf R q).result with
    | ok value =>
      rw [hresult] at h
      cases h
    | error e =>
      rw [hresult] at h
      by_cases hclass : RemoteFailure.classify e = .transient
      · rw [judged_of_transient hclass] at h
        cases h
      · rw [judged_of_lasting hclass] at h
        cases h
        exact ⟨[w.callOf R q], w.leads_call R q, .failed (.singleton hresult)⟩

/-- An attempt after which there may be another has made a call that failed. -/
theorem attempt_passing {e : ε} (h : (attempt heeds R q made).runIn w = (some (.inr e), w')) :
    ∃ c : q.Call, c.result = .error e ∧ w.Leads [c.exchange] w' := by
  rcases attempt_cases heeds R q made w with ⟨w₁, -, -, -, hrun⟩ | hrun
  · rw [hrun] at h
    cases h
  · rw [hrun] at h
    refine ⟨w.callOf R q, ?_⟩
    cases hresult : (w.callOf R q).result with
    | ok value =>
      rw [hresult] at h
      cases h
    | error e' =>
      rw [hresult] at h
      by_cases hclass : RemoteFailure.classify e' = .transient
      · rw [judged_of_transient hclass] at h
        cases h
        exact ⟨rfl, w.leads_call R q⟩
      · rw [judged_of_lasting hclass] at h
        cases h

/-- Every attempt ends. -/
theorem attempt_ends (heeds : Bool) (R : Remote I σ) (q : Query I (Except ε α)) (made : Nat)
    (w : World I σ) : ∃ result w', (attempt heeds R q made).runIn w = (some result, w') := by
  rcases attempt_cases heeds R q made w with ⟨w', -, -, -, hrun⟩ | hrun
  · exact ⟨_, w', hrun⟩
  · exact ⟨_, _, hrun⟩

/-- An open gate lets the first call through, whatever comes after it. -/
theorem attempts_called (r : Retry) (left : Nat)
    (hgate : w.pause ⟨heeds, none⟩ 0 = (none, w)) :
    ∃ later, w.Leads ((w.callOf R q).exchange :: later)
      ((r.attempts heeds R q left made).runIn w).2 := by
  have hattempt : (attempt heeds R q made).runIn w =
      (some (judged made (w.call R q).1), (w.call R q).2) := runIn_attempt_of_open hgate
  have hfirst := w.leads_call R q
  cases hjudged : (judged made (w.call R q).1 : Except (Halt ε) α ⊕ ε) with
  | inl result =>
    rw [hjudged] at hattempt
    rw [runIn_attempts_of_end hattempt]
    exact ⟨[], hfirst⟩
  | inr e =>
    rw [hjudged] at hattempt
    cases left with
    | zero =>
      rw [runIn_attempts_of_spent hattempt]
      exact ⟨[], hfirst⟩
    | succ left =>
      -- Nothing is called in the pause, and what is called in the attempts after it comes later.
      have hnoted := hfirst.trans ((w.call R q).2.leads_note
        (.retrying (made + 1) r.maxAttempts (RemoteFailure.message e)))
      have hpaused := hnoted.trans (World.leads_pause _ ⟨heeds, none⟩ r.delay)
      rw [runIn_attempts_of_passing hattempt]
      split
      · rename_i cause w₁ hpause
        rw [hpause] at hpaused
        exact ⟨[], hpaused⟩
      · rename_i w₁ hpause
        rw [hpause] at hpaused
        obtain ⟨later, hlater, -⟩ := r.attempts_spec heeds left (made + 1) (R := R) (q := q) w₁
        exact ⟨later, hpaused.trans hlater⟩

/-- **A retry comes to nothing with the failure of its last call, or because the token fires.** By
induction on the repetitions that are left. -/
theorem attempts_halted (r : Retry) (left : Nat)
    (h : (r.attempts heeds R q left made).runIn w = (some (.error halt), w')) :
    ∃ calls : List q.Call, w.Leads (calls.map Query.Call.exchange) w' ∧
      Halted heeds made calls w' halt := by
  induction left generalizing made w with
  | zero =>
    obtain ⟨result, w₁, hattempt⟩ := attempt_ends heeds R q made w
    cases result with
    | inl result =>
      rw [runIn_attempts_of_end hattempt] at h
      cases h
      exact attempt_halted hattempt
    | inr e =>
      rw [runIn_attempts_of_spent hattempt] at h
      cases h
      -- The last attempt that is allowed: a passing failure is the last word on it.
      obtain ⟨c, hfailed, hlead⟩ := attempt_passing hattempt
      exact ⟨[c], hlead, .failed (.singleton hfailed)⟩
  | succ left ih =>
    obtain ⟨result, w₁, hattempt⟩ := attempt_ends heeds R q made w
    cases result with
    | inl result =>
      rw [runIn_attempts_of_end hattempt] at h
      cases h
      exact attempt_halted hattempt
    | inr e =>
      obtain ⟨c, -, hlead⟩ := attempt_passing hattempt
      have hnoted := hlead.trans (w₁.leads_note
        (.retrying (made + 1) r.maxAttempts (RemoteFailure.message e)))
      have hpaused := World.leads_pause (w₁.note
        (.retrying (made + 1) r.maxAttempts (RemoteFailure.message e))) ⟨heeds, none⟩ r.delay
      cases hpause : (w₁.note (.retrying (made + 1) r.maxAttempts
          (RemoteFailure.message e))).pause ⟨heeds, none⟩ r.delay with
      | mk cause w₂ =>
        rw [hpause] at hpaused
        have hlead₂ := hnoted.trans hpaused
        cases cause with
        | some cause =>
          rw [runIn_attempts_of_cut hattempt hpause] at h
          cases h
          obtain ⟨hheeds, hfired⟩ := World.fired_of_pause hpause
          exact ⟨[c], hlead₂, .cancelled hheeds hfired⟩
        | none =>
          -- Another attempt: what it tells of its calls is said again with this one before them.
          rw [runIn_attempts_of_next hattempt hpause] at h
          obtain ⟨calls, hlead', hhalted⟩ := ih h
          exact ⟨c :: calls, hlead₂.trans hlead', hhalted.cons⟩

/-- What the error of a call tells about the calls before it. -/
inductive Fails (heeds : Bool) (calls : List q.Call) (w : World I σ) : Error → Prop
  | failed {e : ε} (h : EndsWith calls (.error e)) :
    Fails heeds calls w (.ofFailure e calls.length)
  | cancelled (hheeds : heeds = true) (hfired : w.token.fired = true) :
    Fails heeds calls w (.timedOut true)

theorem Halted.fails {calls : List q.Call} (h : Halted heeds 0 calls w halt) :
    Fails heeds calls w halt.error := by
  cases h with
  | failed h =>
    rw [Nat.zero_add]
    exact .failed h
  | cancelled hheeds hfired => exact .cancelled hheeds hfired

/-- A call that fails makes the calls of a retry, and its error is that of the last of them unless
the token has fired. -/
theorem call_fails (r : Retry) {error : Error}
    (h : (r.call heeds R q).run.runIn w = (some (.error error), w')) :
    ∃ calls : List q.Call, w.Leads (calls.map Query.Call.exchange) w' ∧
      Tries r.maxAttempts calls ∧ Fails heeds calls w' error := by
  obtain ⟨halt, hrun, rfl⟩ := Act.of_runIn_mapError h
  obtain ⟨calls, hlead, hhalted⟩ := r.attempts_halted _ hrun
  refine ⟨calls, hlead, ?_, hhalted.fails⟩
  -- There are not too many of them, however the retry ends.
  obtain ⟨_, hlead', calls', rfl, htries, -⟩ := r.call_ends heeds (R := R) (q := q) w
  rw [h] at hlead'
  rw [hlead.calls_unique hlead']
  exact htries

/-- A call is made at all unless a token that counts has fired before. -/
theorem call_unasked_iff (r : Retry) {calls : List q.Call}
    (hlead : w.Leads (calls.map Query.Call.exchange) ((r.call heeds R q).run.runIn w).2) :
    calls = [] ↔ heeds = true ∧ w.token.fired = true := by
  have hworld : ((r.call heeds R q).run.runIn w).2 =
      ((r.attempts heeds R q (r.maxAttempts - 1) 0).runIn w).2 :=
    congrArg Prod.snd (Act.runIn_map _ _ w)
  rw [hworld] at hlead
  constructor
  · rintro rfl
    by_cases hopen : heeds = true → w.token.fired = false
    · -- The gate is open, so there has been a call.
      have hgate : w.pause ⟨heeds, none⟩ 0 = (none, w) := World.pause_zero hopen rfl
      obtain ⟨later, hlater⟩ := r.attempts_called (R := R) (q := q) (r.maxAttempts - 1) hgate
      cases hlead.unique hlater
    · rw [Classical.not_imp, Bool.not_eq_false] at hopen
      exact hopen
  · rintro ⟨hheeds, hfired⟩
    have hgate : w.pause ⟨heeds, none⟩ 0 = (some .cancelled, w) :=
      World.pause_of_fired 0 hheeds hfired
    rw [runIn_attempts_of_end (runIn_attempt_of_gate hgate)] at hlead
    exact List.map_eq_nil_iff.1 (hlead.unique (.refl w))

end Halted

end Retry

end Settle
