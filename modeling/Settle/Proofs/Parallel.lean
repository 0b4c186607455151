/-
Two waits side by side.

Two waits that look at the same resource do the same if nothing about them that matters
differs. What may differ is up to a relation between their worlds: if pauses, looks and
notices lead from related worlds to related ones, so do rounds, and by induction whole
waits. The waits may remember different texts, as long as what they say about a look
leaves the worlds related.
-/
import Settle.Proofs.Round

set_option autoImplicit false

namespace Settle

variable {I : Interface} {σ ε : Type}

namespace Wait

variable [RemoteFailure ε]

/-- The waits go on side by side: under their watches, what the first does in a world the second
does in a related one, and the worlds after it are related. -/
structure Parallel (s s' : Wait) (R : Remote I σ) (operation : Operation)
    (query : Query I (Except ε Reading)) (watch watch' : Watch)
    (Related : World I σ → World I σ → Prop) (Same : List String → List String → Prop) : Prop where
  pause : ∀ {w v w₁ : World I σ} {duration : Nat} {cause : Option Interruption}, Related w v →
    w.pause watch duration = (cause, w₁) →
    ∃ v₁, v.pause watch' duration = (cause, v₁) ∧ Related w₁ v₁
  look : ∀ {w v w₁ : World I σ} {result : Except Interruption (Except ε Reading)}, Related w v →
    w.look R watch query = (result, w₁) →
    ∃ v₁, v.look R watch' query = (result, v₁) ∧ Related w₁ v₁
  note : ∀ {w v : World I σ} (n : Notice), Related w v → Related (w.note n) (v.note n)
  tick : s'.policy.tick = s.policy.tick
  verdict : ∀ response : Except ε Reading,
    s'.policy.verdict operation response = s.policy.verdict operation response
  remark : ∀ {w v : World I σ} {warned warned' : List String} (response : Except ε Reading),
    Same warned warned' → Related w v →
    Related (w.remarked (s.policy.remark warned response))
      (v.remarked (s'.policy.remark warned' response))
  remember : ∀ {warned warned' : List String} (response : Except ε Reading), Same warned warned' →
    Same (Policy.warnedAfter warned (s.policy.remark warned response))
      (Policy.warnedAfter warned' (s'.policy.remark warned' response))

/-- Two rounds turn out the same. -/
inductive SameTurn (Same : List String → List String → Prop) :
    Outcome ⊕ List String → Outcome ⊕ List String → Prop
  | last (outcome : Outcome) : SameTurn Same (.inl outcome) (.inl outcome)
  | next {warned warned' : List String} (h : Same warned warned') :
    SameTurn Same (.inr warned) (.inr warned')

namespace Parallel

variable {s s' : Wait} {R : Remote I σ} {operation : Operation}
  {query : Query I (Except ε Reading)} {watch watch' : Watch}
  {Related : World I σ → World I σ → Prop} {Same : List String → List String → Prop}
  {looks : UInt32} {warned warned' : List String} {w v w' : World I σ}

section Rounds

variable (h : s.Parallel s' R operation query watch watch' Related Same)
include h

/-- Where the one may look, the other may. -/
theorem gate (hw : Related w v) (hgate : w.pause watch 0 = (none, w)) :
    v.pause watch' 0 = (none, v) := by
  obtain ⟨v₁, hpause, -⟩ := h.pause hw hgate
  have hv := v.pause_zero_snd watch'
  rw [hpause] at hv
  rw [hpause, ← hv]

/-- A round of the first wait is matched by one of the second. -/
theorem turn {result : Outcome ⊕ List String} (hsame : Same warned warned') (hw : Related w v)
    (hturn : s.Turn R operation query watch looks warned w result w') :
    ∃ result' v', (s'.round R operation query watch' looks warned').runIn v =
        (some result', v') ∧ SameTurn Same result result' ∧ Related w' v' := by
  have hsettled {response : Except ε Reading} {o : Option Outcome}
      (hverdict : s.policy.verdict operation response = o) :
      s'.policy.verdict operation response = o := by
    rw [h.verdict, hverdict]
  have hpaused {response : Except ε Reading} {cause : Option Interruption} {w₁ w₂ v₁ : World I σ}
      (h₁ : Related w₁ v₁)
      (hpause : (w₁.remarked (s.policy.remark warned response)).pause watch s.policy.tick =
        (cause, w₂)) :
      ∃ v₂, (v₁.remarked (s'.policy.remark warned' response)).pause watch' s'.policy.tick =
        (cause, v₂) ∧ Related w₂ v₂ := by
    rw [h.tick]
    exact h.pause (h.remark response hsame h₁) hpause
  cases hturn with
  | closed hgate =>
    obtain ⟨v₁, hgate', h₁⟩ := h.pause hw hgate
    exact ⟨_, _, s'.runIn_round_of_gate hgate', .last _, h.note _ h₁⟩
  | cut hgate hlook =>
    obtain ⟨v₁, hlook', h₁⟩ := h.look hw hlook
    exact ⟨_, _, s'.runIn_round_of_cut (h.gate hw hgate) hlook', .last _, h.note _ h₁⟩
  | settled hgate hlook hverdict =>
    obtain ⟨v₁, hlook', h₁⟩ := h.look hw hlook
    exact ⟨_, _, s'.runIn_round_of_verdict (h.gate hw hgate) hlook' (hsettled hverdict), .last _,
      h.note _ h₁⟩
  | spent hgate hlook hverdict hpause =>
    obtain ⟨v₁, hlook', h₁⟩ := h.look hw hlook
    obtain ⟨v₂, hpause', h₂⟩ := hpaused h₁ hpause
    exact ⟨_, _, s'.runIn_round_of_pause (h.gate hw hgate) hlook' (hsettled hverdict) hpause',
      .last _, h.note _ h₂⟩
  | next hgate hlook hverdict hpause =>
    obtain ⟨v₁, hlook', h₁⟩ := h.look hw hlook
    obtain ⟨v₂, hpause', h₂⟩ := hpaused h₁ hpause
    exact ⟨_, _, s'.runIn_round_of_next (h.gate hw hgate) hlook' (hsettled hverdict) hpause',
      .next (h.remember _ hsame), h₂⟩

/-- By induction on the rounds that are left. -/
theorem rounds {fuel : Nat} (hsame : Same warned warned') (hw : Related w v) :
    ((s'.rounds R operation query watch' fuel looks warned').runIn v).1 =
        ((s.rounds R operation query watch fuel looks warned).runIn w).1 ∧
      Related ((s.rounds R operation query watch fuel looks warned).runIn w).2
        ((s'.rounds R operation query watch' fuel looks warned').runIn v).2 := by
  induction fuel generalizing looks warned warned' w v with
  | zero => exact ⟨rfl, hw⟩
  | succ fuel ih =>
    obtain ⟨result, w₁, hround, hturn⟩ := s.exists_turn R operation query watch looks warned w
    obtain ⟨result', v₁, hround', hresult, h₁⟩ := h.turn hsame hw hturn
    unfold Wait.rounds
    rw [Act.runIn_bind_of_some hround, Act.runIn_bind_of_some hround']
    cases hresult with
    | last outcome => exact ⟨rfl, h₁⟩
    | next hsame₁ => exact ih hsame₁ h₁

end Rounds

/-- **Waits that go on side by side end in the same way, in related worlds.** -/
theorem run (h : s.Parallel s' R operation query (s.watchFrom w.now) (s'.watchFrom v.now) Related
      Same)
    (hsame : Same [] []) (hw : Related w v)
    (htimeout : s'.policy.timeout = s.policy.timeout)
    (hdelay : s'.policy.initialDelay = s.policy.initialDelay)
    (hunplayed : R.unplayed v.remote = R.unplayed w.remote) :
    ((s'.run R operation query).runIn v).1 = ((s.run R operation query).runIn w).1 ∧
      Related ((s.run R operation query).runIn w).2 ((s'.run R operation query).runIn v).2 := by
  cases hpause : w.pause (s.watchFrom w.now) s.policy.initialDelay with
  | mk cause w₁ =>
    obtain ⟨v₁, hpause', h₁⟩ := h.pause hw hpause
    rw [← hdelay] at hpause'
    cases cause with
    | some cause =>
      rw [s.runIn_run_of_cut hpause, s'.runIn_run_of_cut hpause']
      exact ⟨rfl, h.note _ h₁⟩
    | none =>
      rw [s.runIn_run_of_open hpause, s'.runIn_run_of_open hpause', htimeout, hunplayed]
      exact h.rounds hsame h₁

end Parallel

end Wait

end Settle
