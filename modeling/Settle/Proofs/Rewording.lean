/-
Waits do not read what failures say.

A wait goes by the class of a failed look. If every failure is reworded, and keeps its
class, then the wait makes the same looks at the same times and ends at the same time in
the same way; only the texts that it passes on can differ, which are the reason of a
failed outcome and the remarks on passing failures in the log.

The reworded wait reads the answers of the same remote side through the rewording. Round
by round it takes the same turn (`Wait.Turn.reworded`), and the induction over the rounds
that are left makes whole waits of that.
-/
import Mathlib.Data.List.Forall2
import Settle.Proofs.Chronicle

set_option autoImplicit false

namespace Settle

variable {I : Interface} {σ ε α : Type}

/-! ## 1. What may differ -/

/-- Two outcomes with the same meaning: they differ in their reasons at most. -/
inductive Outcome.SameMeaning : Outcome → Outcome → Prop
  | converged (status : String) : SameMeaning (.converged status) (.converged status)
  | failed (reason reason' : String) (fault : Option String) (kind : FailureKind) :
    SameMeaning (.failed reason fault kind) (.failed reason' fault kind)
  | timedOut (cause : Interruption) : SameMeaning (.timedOut cause) (.timedOut cause)

theorem Outcome.SameMeaning.refl (outcome : Outcome) : outcome.SameMeaning outcome := by
  cases outcome with
  | converged status => exact .converged status
  | failed reason fault kind => exact .failed reason reason fault kind
  | timedOut cause => exact .timedOut cause

/-- Two notices that differ at most in what a passing failure says. -/
inductive Notice.SameMeaning : Notice → Notice → Prop
  | same (n : Notice) : SameMeaning n n
  | transientLook (text text' : String) : SameMeaning (.transientLook text) (.transientLook text')

/-- The second world is the first one with a reworded log. -/
def World.Reworded (w v : World I σ) : Prop :=
  ∃ log : Array Notice,
    List.Forall₂ Notice.SameMeaning w.log.toList log.toList ∧ v = w.relog log

theorem Notice.sameMeaning_refl (notes : List Notice) :
    List.Forall₂ Notice.SameMeaning notes notes :=
  List.forall₂_same.2 fun n _ => .same n

namespace World.Reworded

theorem refl (w : World I σ) : w.Reworded w := ⟨w.log, Notice.sameMeaning_refl _, rfl⟩

variable {w v w₁ : World I σ} {watch : Watch} (h : w.Reworded v)
include h

theorem note (n : Notice) : (w.note n).Reworded (v.note n) := by
  obtain ⟨log, hlog, rfl⟩ := h
  refine ⟨log.push n, ?_, rfl⟩
  rw [note_log, Array.toList_push]
  exact List.rel_append hlog (Notice.sameMeaning_refl [n])

theorem remarked {remark remark' : Option Notice}
    (hremark : List.Forall₂ Notice.SameMeaning remark.toList remark'.toList) :
    (w.remarked remark).Reworded (v.remarked remark') := by
  obtain ⟨log, hlog, rfl⟩ := h
  refine ⟨((w.relog log).remarked remark').log, ?_, ?_⟩
  · have hrelog : (w.relog log).log = log := rfl
    rw [remarked_log, remarked_log, hrelog]
    exact List.rel_append hlog hremark
  · cases remark <;> cases remark' <;> rfl

theorem pause {duration : Nat} {cause : Option Interruption}
    (hpause : w.pause watch duration = (cause, w₁)) :
    ∃ v₁, v.pause watch duration = (cause, v₁) ∧ w₁.Reworded v₁ := by
  obtain ⟨log, hlog, rfl⟩ := h
  have hsame := w.pause_log watch duration
  rw [hpause] at hsame
  refine ⟨w₁.relog log, by rw [pause_relog, hpause], log, ?_, rfl⟩
  rw [hsame]
  exact hlog

/-- Where the one may look, the other may. -/
theorem gate (hgate : w.pause watch 0 = (none, w)) : v.pause watch 0 = (none, v) := by
  obtain ⟨v₁, hpause, -⟩ := h.pause hgate
  have hv := v.pause_zero_snd watch
  rw [hpause] at hv
  rw [hpause, ← hv]

end World.Reworded

/-- A look that is read further is the same look. -/
theorem World.look_map {β : Type} (w : World I σ) (R : Remote I σ) (watch : Watch) (q : Query I α)
    (g : α → β) :
    w.look R watch (q.map g) = ((w.look R watch q).1.map g, (w.look R watch q).2) := by
  cases hpause : (w.ask R q.request).2.pause watch (R.answer q.request w.remote).1.delay with
  | mk cause w' =>
    have hpause' : (w.ask R (q.map g).request).2.pause watch
        (R.answer (q.map g).request w.remote).1.delay = (cause, w') := hpause
    cases cause with
    | some cause =>
      rw [look_of_cut hpause', look_of_cut hpause]
      rfl
    | none =>
      rw [look_of_arrival hpause', look_of_arrival hpause]
      rfl

theorem World.Reworded.look {w v w₁ : World I σ} (h : w.Reworded v) {R : Remote I σ}
    {watch : Watch} {q : Query I α} {β : Type} (g : α → β) {result : Except Interruption α}
    (hlook : w.look R watch q = (result, w₁)) :
    ∃ v₁, v.look R watch (q.map g) = (result.map g, v₁) ∧ w₁.Reworded v₁ := by
  obtain ⟨log, hlog, rfl⟩ := h
  have hsame := w.look_log R watch q
  rw [hlook] at hsame
  refine ⟨w₁.relog log, by rw [World.look_map, World.look_relog, hlook], log, ?_, rfl⟩
  rw [hsame]
  exact hlog

/-! ## 2. What a look means -/

variable [RemoteFailure ε]

/-- Failures are reworded without a change to their class. -/
def KeepsClass (reword : ε → ε) : Prop :=
  ∀ e, RemoteFailure.classify (reword e) = RemoteFailure.classify e

namespace Policy

variable {reword : ε → ε} (p : Policy)

/-- A reworded answer settles the matter in the same way, or neither does. -/
theorem verdict_reworded (hkeeps : KeepsClass reword) (operation : Operation)
    (response : Except ε Reading) :
    Option.Rel Outcome.SameMeaning (p.verdict operation response)
      (p.verdict operation (response.mapError reword)) := by
  have hsame (o : Option Outcome) : Option.Rel Outcome.SameMeaning o o := by
    cases o with
    | none => exact .none
    | some outcome => exact .some (.refl outcome)
  cases response with
  | ok reading => exact hsame _
  | error e =>
    change Option.Rel Outcome.SameMeaning _ (p.verdict operation (.error (reword e)))
    simp only [verdict, judgeFailure, hkeeps e]
    cases RemoteFailure.classify e with
    | absent =>
      by_cases hdelete : operation = .delete
      · simp only [if_pos hdelete]
        exact hsame _
      · simp only [if_neg hdelete]
        exact .some (.failed _ _ _ _)
    | transient => exact .none
    | fatal => exact .some (.failed _ _ _ _)

/-- So a wait that goes on does so whatever the failure says, -/
theorem open_reworded (hkeeps : KeepsClass reword) {operation : Operation}
    {response : Except ε Reading} (h : p.verdict operation response = none) :
    p.verdict operation (response.mapError reword) = none := by
  have hrel := p.verdict_reworded hkeeps operation response
  rw [h] at hrel
  generalize p.verdict operation (response.mapError reword) = o at hrel
  cases hrel
  rfl

/-- and one that ends does so with the same meaning. -/
theorem settled_reworded (hkeeps : KeepsClass reword) {operation : Operation}
    {response : Except ε Reading} {outcome : Outcome}
    (h : p.verdict operation response = some outcome) :
    ∃ outcome', p.verdict operation (response.mapError reword) = some outcome' ∧
      outcome.SameMeaning outcome' := by
  have hrel := p.verdict_reworded hkeeps operation response
  rw [h] at hrel
  generalize p.verdict operation (response.mapError reword) = o at hrel
  cases hrel with
  | some hsame => exact ⟨_, rfl, hsame⟩

variable (reword) (warned : List String) (response : Except ε Reading)

/-- Only what a passing failure says is remarked on in other words, -/
theorem remark_reworded :
    List.Forall₂ Notice.SameMeaning (p.remark warned response).toList
      (p.remark warned (response.mapError reword)).toList := by
  cases response with
  | ok reading => exact Notice.sameMeaning_refl _
  | error e => exact .cons (.transientLook _ _) .nil

/-- and the same is remembered. -/
theorem warnedAfter_reworded :
    warnedAfter warned (p.remark warned (response.mapError reword)) =
      warnedAfter warned (p.remark warned response) := by
  cases response with
  | ok reading => rfl
  | error e => rfl

end Policy

/-! ## 3. Rounds and waits -/

namespace Wait

variable {reword : ε → ε} (hkeeps : KeepsClass reword) {s : Wait} {R : Remote I σ}
  {operation : Operation} {query : Query I (Except ε Reading)} {watch : Watch} {looks : UInt32}
  {warned : List String} {w v w' : World I σ}

include hkeeps

/-- **A round in which failures are reworded takes the same turn.** -/
theorem Turn.reworded {result : Outcome ⊕ List String} (hw : w.Reworded v)
    (hturn : s.Turn R operation query watch looks warned w result w') :
    ∃ result' v', (s.round R operation (query.map (Except.mapError reword)) watch looks
        warned).runIn v = (some result', v') ∧
      Sum.LiftRel Outcome.SameMeaning Eq result result' ∧ w'.Reworded v' := by
  -- The pause after a look begins with a remark in other words, and goes the same way.
  have hpaused {response : Except ε Reading} {cause : Option Interruption} {w₁ w₂ v₁ : World I σ}
      (h₁ : w₁.Reworded v₁)
      (hpause : (w₁.remarked (s.policy.remark warned response)).pause watch s.policy.tick =
        (cause, w₂)) :
      ∃ v₂, (v₁.remarked (s.policy.remark warned (response.mapError reword))).pause watch
        s.policy.tick = (cause, v₂) ∧ w₂.Reworded v₂ :=
    (h₁.remarked (s.policy.remark_reworded reword warned response)).pause hpause
  cases hturn with
  | closed hgate =>
    obtain ⟨v₁, hgate', h₁⟩ := hw.pause hgate
    exact ⟨_, _, s.runIn_round_of_gate hgate', .inl (.timedOut _), h₁.note _⟩
  | cut hgate hlook =>
    obtain ⟨v₁, hlook', h₁⟩ := hw.look (Except.mapError reword) hlook
    exact ⟨_, _, s.runIn_round_of_cut (hw.gate hgate) hlook', .inl (.timedOut _), h₁.note _⟩
  | settled hgate hlook hverdict =>
    obtain ⟨v₁, hlook', h₁⟩ := hw.look (Except.mapError reword) hlook
    obtain ⟨outcome', hverdict', hsame⟩ := s.policy.settled_reworded hkeeps hverdict
    exact ⟨_, _, s.runIn_round_of_verdict (hw.gate hgate) hlook' hverdict', .inl hsame,
      h₁.note _⟩
  | spent hgate hlook hverdict hpause =>
    obtain ⟨v₁, hlook', h₁⟩ := hw.look (Except.mapError reword) hlook
    obtain ⟨v₂, hpause', h₂⟩ := hpaused h₁ hpause
    have hopen := s.policy.open_reworded hkeeps hverdict
    exact ⟨_, _, s.runIn_round_of_pause (hw.gate hgate) hlook' hopen hpause',
      .inl (.timedOut _), h₂.note _⟩
  | next hgate hlook hverdict hpause =>
    obtain ⟨v₁, hlook', h₁⟩ := hw.look (Except.mapError reword) hlook
    obtain ⟨v₂, hpause', h₂⟩ := hpaused h₁ hpause
    have hopen := s.policy.open_reworded hkeeps hverdict
    exact ⟨_, _, s.runIn_round_of_next (hw.gate hgate) hlook' hopen hpause',
      .inr (s.policy.warnedAfter_reworded reword warned _).symm, h₂⟩

/-- By induction on the rounds that are left. -/
theorem rounds_reworded {fuel : Nat} (hw : w.Reworded v) :
    Option.Rel Outcome.SameMeaning
        ((s.rounds R operation query watch fuel looks warned).runIn w).1
        ((s.rounds R operation (query.map (Except.mapError reword)) watch fuel looks
          warned).runIn v).1 ∧
      ((s.rounds R operation query watch fuel looks warned).runIn w).2.Reworded
        ((s.rounds R operation (query.map (Except.mapError reword)) watch fuel looks
          warned).runIn v).2 := by
  induction fuel generalizing looks warned w v with
  | zero => exact ⟨.none, hw⟩
  | succ fuel ih =>
    obtain ⟨result, w₁, hround, hturn⟩ := s.exists_turn R operation query watch looks warned w
    obtain ⟨result', v₁, hround', hresult, h₁⟩ := hturn.reworded hkeeps hw
    unfold Wait.rounds
    rw [Act.runIn_bind_of_some hround, Act.runIn_bind_of_some hround']
    cases hresult with
    | inl hsame => exact ⟨.some hsame, h₁⟩
    | inr hwarned =>
      subst hwarned
      exact ih h₁

/-- **A wait in which failures are reworded and keep their class does the same**, and ends with the
same meaning. -/
theorem run_reworded (s : Wait) (R : Remote I σ) (operation : Operation)
    (query : Query I (Except ε Reading)) (w : World I σ) :
    Option.Rel Outcome.SameMeaning ((s.run R operation query).runIn w).1
        ((s.run R operation (query.map (Except.mapError reword))).runIn w).1 ∧
      ((s.run R operation query).runIn w).2.Reworded
        ((s.run R operation (query.map (Except.mapError reword))).runIn w).2 := by
  cases hpause : w.pause (s.watchFrom w.now) s.policy.initialDelay with
  | mk cause w₁ =>
    cases cause with
    | some cause =>
      rw [s.runIn_run_of_cut hpause, s.runIn_run_of_cut hpause]
      exact ⟨.some (.timedOut cause), .refl _⟩
    | none =>
      rw [s.runIn_run_of_open hpause, s.runIn_run_of_open hpause]
      exact rounds_reworded hkeeps (.refl w₁)

end Wait

end Settle
