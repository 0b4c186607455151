/-
One round of a wait.

A round is one look with what comes before and after. It can go in five ways: it is
over before it looks, its look is cut off, the look settles the matter, the pause
after the look is cut short, or there is another round. `Wait.exists_turn` says so, and
`Wait.rounds_rec` is the induction over the rounds of a wait.
-/
import Settle.Proofs.Clock
import Settle.Wait

set_option autoImplicit false

namespace Settle

variable {I : Interface} {σ ε : Type}

namespace Wait

section Round

variable [RemoteFailure ε] (s : Wait) {R : Remote I σ} {operation : Operation}
  {query : Query I (Except ε Reading)} {watch : Watch} {looks : UInt32} {warned : List String}
  {w w' w'' : World I σ}

/-- A round that is over before it looks. -/
theorem runIn_round_of_gate {cause : Interruption} (hgate : w.pause watch 0 = (some cause, w')) :
    (s.round R operation query watch looks warned).runIn w =
      (some (.inl (.timedOut cause)), w'.note (.gaveUp looks)) := by
  unfold round
  rw [Act.runIn_bind, Act.runIn_pause, hgate]
  rfl

/-- A round whose look is cut off. -/
theorem runIn_round_of_cut {cause : Interruption} (hgate : w.pause watch 0 = (none, w))
    (hlook : w.look R watch query = (.error cause, w')) :
    (s.round R operation query watch looks warned).runIn w =
      (some (.inl (.timedOut cause)), w'.note (.gaveUp (looks + 1))) := by
  unfold round
  rw [Act.runIn_bind, Act.runIn_pause, hgate]
  simp only
  rw [Act.runIn_bind, Act.runIn_look, hlook]
  rfl

/-- A round whose look settles the matter. -/
theorem runIn_round_of_verdict {response : Except ε Reading} {outcome : Outcome}
    (hgate : w.pause watch 0 = (none, w)) (hlook : w.look R watch query = (.ok response, w'))
    (hverdict : s.policy.verdict operation response = some outcome) :
    (s.round R operation query watch looks warned).runIn w =
      (some (.inl outcome), w'.note (.finished (looks + 1))) := by
  unfold round
  rw [Act.runIn_bind, Act.runIn_pause, hgate]
  simp only
  rw [Act.runIn_bind, Act.runIn_look, hlook]
  simp only [hverdict]
  rfl

section Open

variable {response : Except ε Reading} (hgate : w.pause watch 0 = (none, w))
  (hlook : w.look R watch query = (.ok response, w'))
  (hverdict : s.policy.verdict operation response = none)
include hgate hlook hverdict

/-- A round that comes to its pause does what the pause says. -/
theorem runIn_round_of_open :
    (s.round R operation query watch looks warned).runIn w =
      match (w'.remarked (s.policy.remark warned response)).pause watch s.policy.tick with
      | (some cause, w'') => (some (.inl (.timedOut cause)), w''.note (.gaveUp (looks + 1)))
      | (none, w'') =>
        (some (.inr (Policy.warnedAfter warned (s.policy.remark warned response))), w'') := by
  unfold round
  rw [Act.runIn_bind, Act.runIn_pause, hgate]
  simp only
  rw [Act.runIn_bind, Act.runIn_look, hlook]
  simp only [hverdict]
  rw [Act.runIn_bind, Act.runIn_forM_note]
  simp only
  rw [Act.runIn_bind, Act.runIn_pause]
  cases (w'.remarked (s.policy.remark warned response)).pause watch s.policy.tick with
  | mk cause w'' => cases cause <;> rfl

/-- A round whose pause is cut short is the last. -/
theorem runIn_round_of_pause {cause : Interruption}
    (hpause : (w'.remarked (s.policy.remark warned response)).pause watch s.policy.tick =
      (some cause, w'')) :
    (s.round R operation query watch looks warned).runIn w =
      (some (.inl (.timedOut cause)), w''.note (.gaveUp (looks + 1))) := by
  rw [s.runIn_round_of_open hgate hlook hverdict, hpause]

/-- After a round whose pause is not cut short there is another. -/
theorem runIn_round_of_next
    (hpause : (w'.remarked (s.policy.remark warned response)).pause watch s.policy.tick =
      (none, w'')) :
    (s.round R operation query watch looks warned).runIn w =
      (some (.inr (Policy.warnedAfter warned (s.policy.remark warned response))), w'') := by
  rw [s.runIn_round_of_open hgate hlook hverdict, hpause]

end Open

variable (R operation query watch looks warned w) in
/-- How a round turns out, and the world after it. -/
inductive Turn : Outcome ⊕ List String → World I σ → Prop
  /-- It is over before it looks. -/
  | closed {cause : Interruption} (hgate : w.pause watch 0 = (some cause, w)) :
    Turn (.inl (.timedOut cause)) (w.note (.gaveUp looks))
  /-- Its look is cut off. -/
  | cut {cause : Interruption} {w' : World I σ} (hgate : w.pause watch 0 = (none, w))
    (hlook : w.look R watch query = (.error cause, w')) :
    Turn (.inl (.timedOut cause)) (w'.note (.gaveUp (looks + 1)))
  /-- Its look settles the matter. -/
  | settled {response : Except ε Reading} {outcome : Outcome} {w' : World I σ}
    (hgate : w.pause watch 0 = (none, w)) (hlook : w.look R watch query = (.ok response, w'))
    (hverdict : s.policy.verdict operation response = some outcome) :
    Turn (.inl outcome) (w'.note (.finished (looks + 1)))
  /-- The pause after the look is cut short. -/
  | spent {response : Except ε Reading} {cause : Interruption} {w' w'' : World I σ}
    (hgate : w.pause watch 0 = (none, w)) (hlook : w.look R watch query = (.ok response, w'))
    (hverdict : s.policy.verdict operation response = none)
    (hpause : (w'.remarked (s.policy.remark warned response)).pause watch s.policy.tick =
      (some cause, w'')) :
    Turn (.inl (.timedOut cause)) (w''.note (.gaveUp (looks + 1)))
  /-- There is another round. -/
  | next {response : Except ε Reading} {w' w'' : World I σ}
    (hgate : w.pause watch 0 = (none, w)) (hlook : w.look R watch query = (.ok response, w'))
    (hverdict : s.policy.verdict operation response = none)
    (hpause : (w'.remarked (s.policy.remark warned response)).pause watch s.policy.tick =
      (none, w'')) :
    Turn (.inr (Policy.warnedAfter warned (s.policy.remark warned response))) w''

variable (R operation query watch looks warned w) in
/-- **Every round ends, in one of its five ways.** -/
theorem exists_turn :
    ∃ result w', (s.round R operation query watch looks warned).runIn w = (some result, w') ∧
      s.Turn R operation query watch looks warned w result w' := by
  cases hgate : w.pause watch 0 with
  | mk cause w₁ =>
    have hw₁ : w₁ = w := by
      have := w.pause_zero_snd watch
      rwa [hgate] at this
    subst hw₁
    cases cause with
    | some cause => exact ⟨_, _, s.runIn_round_of_gate hgate, .closed hgate⟩
    | none =>
      cases hlook : w₁.look R watch query with
      | mk response w₂ =>
        cases response with
        | error cause => exact ⟨_, _, s.runIn_round_of_cut hgate hlook, .cut hgate hlook⟩
        | ok response =>
          cases hverdict : s.policy.verdict operation response with
          | some outcome =>
            exact ⟨_, _, s.runIn_round_of_verdict hgate hlook hverdict,
              .settled hgate hlook hverdict⟩
          | none =>
            cases hpause : (w₂.remarked (s.policy.remark warned response)).pause watch
                s.policy.tick with
            | mk cause w₃ =>
              cases cause with
              | some cause =>
                exact ⟨_, _, s.runIn_round_of_pause hgate hlook hverdict hpause,
                  .spent hgate hlook hverdict hpause⟩
              | none =>
                exact ⟨_, _, s.runIn_round_of_next hgate hlook hverdict hpause,
                  .next hgate hlook hverdict hpause⟩

variable (R operation query watch) in
/-- What holds of every run of the rounds: when they have run out, when one of them is the
last, and before another one if it holds from there on. -/
theorem rounds_rec
    {motive : UInt32 → List String → World I σ → Option Outcome → World I σ → Prop}
    (endless : ∀ looks warned w, motive looks warned w none w)
    (last : ∀ looks warned w w' outcome,
      s.Turn R operation query watch looks warned w (.inl outcome) w' →
      motive looks warned w (some outcome) w')
    (next : ∀ looks warned w w' warned' outcome w'',
      s.Turn R operation query watch looks warned w (.inr warned') w' →
      motive (looks + 1) warned' w' outcome w'' → motive looks warned w outcome w'')
    (fuel : Nat) (looks : UInt32) (warned : List String) (w : World I σ) :
    motive looks warned w ((s.rounds R operation query watch fuel looks warned).runIn w).1
      ((s.rounds R operation query watch fuel looks warned).runIn w).2 := by
  induction fuel generalizing looks warned w with
  | zero => exact endless looks warned w
  | succ fuel ih =>
    obtain ⟨result, w', hround, hturn⟩ := s.exists_turn R operation query watch looks warned w
    unfold rounds
    rw [Act.runIn_bind_of_some hround]
    cases result with
    | inl outcome => exact last looks warned w w' outcome hturn
    | inr warned' => exact next looks warned w w' warned' _ _ hturn (ih (looks + 1) warned' w')

end Round

section Run

variable [RemoteFailure ε] (s : Wait) {R : Remote I σ} {operation : Operation}
  {query : Query I (Except ε Reading)} {w w' : World I σ}

/-- The watch of a wait that begins at this time. -/
def watchFrom (start : Nat) : Watch := ⟨s.heeds, some (start + s.policy.timeout)⟩

/-- A wait that is cut short before its first look. -/
theorem runIn_run_of_cut {cause : Interruption}
    (hpause : w.pause (s.watchFrom w.now) s.policy.initialDelay = (some cause, w')) :
    (s.run R operation query).runIn w = (some (.timedOut cause), w'.note (.gaveUp 0)) := by
  have hget : (get : Act I σ (World I σ)).runIn w = (some w, w) := rfl
  unfold watchFrom at hpause
  unfold run
  rw [Act.runIn_bind_of_some hget, Act.runIn_bind, Act.runIn_pause, hpause]
  rfl

/-- A wait that comes to its rounds. -/
theorem runIn_run_of_open
    (hpause : w.pause (s.watchFrom w.now) s.policy.initialDelay = (none, w')) :
    (s.run R operation query).runIn w =
      (s.rounds R operation query (s.watchFrom w.now)
        (s.policy.timeout + R.unplayed w.remote + 1) 0 []).runIn w' := by
  have hget : (get : Act I σ (World I σ)).runIn w = (some w, w) := rfl
  unfold watchFrom at hpause ⊢
  unfold run
  rw [Act.runIn_bind_of_some hget, Act.runIn_bind, Act.runIn_pause, hpause]

end Run

end Wait

end Settle
