/-
What an activity notes.

The log of a world only grows. `Act.Notes` says of which kind the notices are that an
activity adds to it, in whatever world it begins, and has one rule for each way to build
an activity. A wait notes how it ends, and before that what there is to remark on looks
that leave it open, one remark after the other: `Wait.run_notes`. So a wait whose policy
knows every status that can be read never remarks on an unrecognized one.
-/
import Settle.Proofs.Calls
import Settle.Wait

set_option autoImplicit false

namespace Settle

variable {I : Interface} {σ ε α β : Type}

/-! ## 1. The log of an activity -/

namespace World

/-- Nothing is noted while time passes. -/
theorem pause_log (w : World I σ) (watch : Watch) (duration : Nat) :
    (w.pause watch duration).2.log = w.log := by
  rcases w.pause_snd_cases watch duration with h | ⟨wake, h⟩ | ⟨t, h⟩
  · rw [h]
  · rw [h, sleepUntil_log]
  · rw [h]

/-- A look is noted by those who look, not by itself. -/
theorem look_log (w : World I σ) (R : Remote I σ) (watch : Watch) (q : Query I α) :
    (w.look R watch q).2.log = w.log := by
  have hlog := pause_log (w.ask R q.request).2 watch (R.answer q.request w.remote).1.delay
  rcases w.look_snd_cases R watch q with h | h
  · rw [h]
    exact hlog
  · rw [h, deliver_log]
    exact hlog

end World

/-- In whatever world the activity begins, the notices that it adds to the log are of this kind. -/
def Act.Notes (a : Act I σ α) (P : Notice → Prop) : Prop :=
  ∀ w, ∃ notices, (a.runIn w).2.log.toList = w.log.toList ++ notices ∧ ∀ n ∈ notices, P n

namespace Act.Notes

variable {a : Act I σ α} {f : α → Act I σ β} {P Q : Notice → Prop} {watch : Watch}

theorem mono (ha : a.Notes P) (h : ∀ n, P n → Q n) : a.Notes Q := by
  intro w
  obtain ⟨notices, hlog, hP⟩ := ha w
  exact ⟨notices, hlog, fun n hn => h n (hP n hn)⟩

theorem pure {x : α} : (Pure.pure x : Act I σ α).Notes P :=
  fun _ => ⟨[], (List.append_nil _).symm, fun _ hn => absurd hn List.not_mem_nil⟩

theorem endless : (Act.endless : Act I σ α).Notes P :=
  fun _ => ⟨[], (List.append_nil _).symm, fun _ hn => absurd hn List.not_mem_nil⟩

/-- Two activities note what both of them do. -/
theorem bind (ha : a.Notes P) (hf : ∀ x, (f x).Notes P) : (a >>= f).Notes P := by
  intro w
  obtain ⟨notices, hlog, hP⟩ := ha w
  rw [runIn_bind]
  cases hrun : a.runIn w with
  | mk o w' =>
    rw [hrun] at hlog
    cases o with
    | none => exact ⟨notices, hlog, hP⟩
    | some x =>
      obtain ⟨later, hlog', hP'⟩ := hf x w'
      refine ⟨notices ++ later, ?_, fun n hn => ?_⟩
      · rw [hlog', hlog, List.append_assoc]
      · rcases List.mem_append.1 hn with hn | hn
        · exact hP n hn
        · exact hP' n hn

/-- An activity that notes nothing is followed by one that may. -/
theorem silent (h : ∀ w, ∃ x w', a.runIn w = (some x, w') ∧ w'.log = w.log ∧ (f x).Notes P) :
    (a >>= f).Notes P := by
  intro w
  obtain ⟨x, w', hrun, hlog, hf⟩ := h w
  rw [runIn_bind_of_some hrun, ← hlog]
  exact hf w'

theorem map {g : α → β} (ha : a.Notes P) : (g <$> a).Notes P := by
  intro w
  rw [runIn_map]
  exact ha w

theorem note {n : Notice} (h : P n) : (Act.note n : Act I σ Unit).Notes P :=
  fun w => ⟨[n], World.note_log w n, fun m hm => by rw [List.mem_singleton.1 hm]; exact h⟩

/-- A remark is noted if there is one. -/
theorem remark {remark : Option Notice} (h : ∀ n, remark = some n → P n) :
    (remark.forM Act.note : Act I σ PUnit).Notes P := by
  cases remark with
  | none => exact pure
  | some n => exact note (h n rfl)

theorem pause_bind {duration : Nat} {f : Option Interruption → Act I σ β}
    (h : ∀ cause, (f cause).Notes P) : (Act.pause watch duration >>= f).Notes P :=
  silent fun w => ⟨_, _, runIn_pause watch duration w, w.pause_log watch duration, h _⟩

/-- A look gives what the answer to its request is read as, unless it is cut off. -/
theorem look_bind {R : Remote I σ} {q : Query I α} {f : Except Interruption α → Act I σ β}
    (hcut : ∀ cause, (f (.error cause)).Notes P)
    (hseen : ∀ answer, (f (.ok (q.read answer))).Notes P) :
    (Act.look R watch q >>= f).Notes P := by
  refine silent fun w => ⟨_, _, runIn_look R watch q w, w.look_log R watch q, ?_⟩
  rcases (w.look_cases R q watch).2 with ⟨cause, hcause⟩ | hresult
  · rw [hcause]
    exact hcut cause
  · rw [hresult]
    exact hseen _

end Act.Notes

/-! ## 2. The log of a wait -/

namespace Wait

variable [RemoteFailure ε] {R : Remote I σ} {operation : Operation}
  {query : Query I (Except ε Reading)} {watch : Watch}

/-- What a wait may note: how it ends, and a remark on what an answer is read as. -/
inductive Notable (p : Policy) (query : Query I (Except ε Reading)) : Notice → Prop
  | finished (looks : UInt32) : Notable p query (.finished looks)
  | gaveUp (looks : UInt32) : Notable p query (.gaveUp looks)
  | remarked {warned : List String} {answer : I.Response query.request} {n : Notice}
    (h : p.remark warned (query.read answer) = some n) : Notable p query n

theorem giveUp_notes (p : Policy) (cause : Interruption) (looks : UInt32) :
    (giveUp cause looks : Act I σ Outcome).Notes (Notable p query) := by
  unfold giveUp
  exact .bind (.note (.gaveUp looks)) fun _ => .pure

theorem round_notes (s : Wait) (looks : UInt32) (warned : List String) :
    (s.round R operation query watch looks warned).Notes (Notable s.policy.toPolicy query) := by
  unfold round
  refine .pause_bind fun cause => ?_
  cases cause with
  | some cause => exact .map (giveUp_notes _ cause looks)
  | none =>
    refine .look_bind (fun cause => .map (giveUp_notes _ cause _)) fun answer => ?_
    simp only
    split
    · exact .bind (.note (.finished _)) fun _ => .pure
    · refine .bind (.remark fun n hn => .remarked hn) fun _ => .pause_bind fun cause => ?_
      cases cause with
      | some cause => exact .map (giveUp_notes _ cause _)
      | none => exact .pure

/-- By induction on the rounds that are left. -/
theorem rounds_notes (s : Wait) (fuel : Nat) (looks : UInt32) (warned : List String) :
    (s.rounds R operation query watch fuel looks warned).Notes
      (Notable s.policy.toPolicy query) := by
  induction fuel generalizing looks warned with
  | zero => exact .endless
  | succ fuel ih =>
    unfold rounds
    refine .bind (s.round_notes looks warned) fun result => ?_
    cases result with
    | inl outcome => exact .pure
    | inr warned' => exact ih (looks + 1) warned'

/-- **A wait notes how it ends and what there is to remark on its looks.** -/
theorem run_notes (s : Wait) :
    (s.run R operation query).Notes (Notable s.policy.toPolicy query) := by
  unfold run
  refine .silent fun w => ⟨w, w, rfl, rfl, .pause_bind fun cause => ?_⟩
  cases cause with
  | some cause => exact giveUp_notes _ cause 0
  | none => exact s.rounds_notes _ 0 []

end Wait

/-! ## 3. Unrecognized statuses -/

namespace Policy

variable [RemoteFailure ε] {p : Policy}

/-- Only a status that the policy does not know is remarked on as unrecognized. -/
theorem not_knows_of_remark {warned : List String} {response : Except ε Reading} {status : String}
    (h : p.remark warned response = some (.unrecognized status)) :
    ∃ fault, response = .ok ⟨some status, fault⟩ ∧ p.knows status = false := by
  rcases response with e | ⟨_ | seen, fault⟩
  · cases h
  · cases h
  · simp only [remark] at h
    split at h
    · cases h
    · rename_i hunknown
      cases h
      exact ⟨fault, rfl, Bool.eq_false_iff.2 fun hknown => hunknown (.inl hknown)⟩

/-- The statuses that a policy knows are those with a meaning. -/
theorem knows_iff {status : String} :
    p.knows status = true ↔ status ∈ p.pending ∨ status ∈ p.target ∨ status ∈ p.fatal := by
  unfold knows
  rw [Bool.or_eq_true, Bool.or_eq_true, decide_eq_true_iff, decide_eq_true_iff,
    decide_eq_true_iff, or_assoc]

end Policy

/-- **A wait whose policy knows every status that can be read recognizes all it sees.** -/
theorem Wait.run_recognizes [RemoteFailure ε] (s : Wait) {R : Remote I σ} {operation : Operation}
    {query : Query I (Except ε Reading)}
    (hknown : ∀ answer status fault, query.read answer = .ok ⟨some status, fault⟩ →
      s.policy.knows status = true) :
    (s.run R operation query).Notes fun n => ∀ status, n ≠ .unrecognized status := by
  refine s.run_notes.mono fun n hn status hstatus => ?_
  cases hn with
  | finished looks => cases hstatus
  | gaveUp looks => cases hstatus
  | remarked h =>
    rw [hstatus] at h
    obtain ⟨fault, hread, hunknown⟩ := Policy.not_knows_of_remark h
    rw [hknown _ _ _ hread] at hunknown
    cases hunknown

end Settle
