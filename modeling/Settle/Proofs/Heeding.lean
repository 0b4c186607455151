/-
Heeding the token.

Nothing is to be asked of the remote side once the token has fired. `Act.Heeds` says
that the run of an activity from a world keeps to that. It follows the run through its
steps and the worlds between them, since the trace alone cannot tell: a token that fires
at `t` leaves the clock at `t`, where a request before it and one after it look the same.
What the trace does show is in `Act.Heeds.leads_in_time`.

Nothing here depends on how the remote side answers, or on whether the activity ends.
Retries, waits and waits for jobs are followed one step at a time, by induction on the
attempts or rounds that are left; a step looks at the token before it asks.
-/
import Settle.Job
import Settle.Proofs.Calls.Loops

set_option autoImplicit false

namespace Settle

variable {I : Interface} {σ ε α β : Type}

/-! ## 1. The token in a later world -/

namespace Token

variable {k : Token} {t wake : Nat}

theorem passing_due (k : Token) (wake : Nat) : (k.passing wake).due = k.due := by
  unfold passing
  split <;> rfl

theorem passing_fired (h : k.fired = true) : (k.passing wake).fired = true := by
  unfold passing
  split
  · rfl
  · exact h

/-- A token that has let time pass was not due before the end of it. -/
theorem le_of_passing (hopen : (k.passing wake).fired = false) (hdue : k.due = some t) :
    wake ≤ t := by
  refine Nat.le_of_not_lt fun hlate => ?_
  have hfired : k.fired = false := Bool.eq_false_iff.2 fun hfired => by
    rw [passing_fired hfired] at hopen
    cases hopen
  unfold passing at hopen
  rw [alarm?_eq_some hfired hdue hlate, Option.isSome_some, if_pos rfl] at hopen
  cases hopen

end Token

namespace World

/-- A later world, as the token sees it: the token is due when it was, it stays fired, and until it
fires the clock does not go beyond the moment at which it is due. -/
structure Ages (w w' : World I σ) : Prop where
  due_eq : w'.token.due = w.token.due
  fired : w.token.fired = true → w'.token.fired = true
  in_time : w'.token.fired = false → ∀ t, w.token.due = some t → w'.now ≤ max w.now t

variable {w w' w'' : World I σ}

/-- Whatever leaves the clock and the token alone. -/
theorem Ages.of_eq (hnow : w'.now = w.now) (htoken : w'.token = w.token) : w.Ages w' where
  due_eq := by rw [htoken]
  fired h := by rw [htoken, h]
  in_time _ t _ := by rw [hnow]; exact Nat.le_max_left _ _

theorem Ages.refl (w : World I σ) : w.Ages w := .of_eq rfl rfl

/-- Firing takes no time beyond the moment at which the token is due. -/
theorem Ages.of_fired (hdue : w'.token.due = w.token.due) (hfired : w'.token.fired = true) :
    w.Ages w' where
  due_eq := hdue
  fired _ := hfired
  in_time h := by rw [hfired] at h; cases h

theorem Ages.trans (h : w.Ages w') (h' : w'.Ages w'') : w.Ages w'' where
  due_eq := h'.due_eq.trans h.due_eq
  fired hfired := h'.fired (h.fired hfired)
  in_time hopen t hdue := by
    have hopen' : w'.token.fired = false :=
      Bool.eq_false_iff.2 fun hfired => by rw [h'.fired hfired] at hopen; cases hopen
    have hfirst := h.in_time hopen' t hdue
    have hsecond := h'.in_time hopen t (h.due_eq.trans hdue)
    omega

theorem ages_sleepUntil (w : World I σ) (wake : Nat) : w.Ages (w.sleepUntil wake) := by
  unfold sleepUntil
  split
  · refine ⟨Token.passing_due _ _, Token.passing_fired, fun hopen t hdue => ?_⟩
    exact Nat.le_trans (Token.le_of_passing hopen hdue) (Nat.le_max_right _ _)
  · exact .refl w

theorem ages_deliver (w : World I σ) (a : Answer α) : w.Ages (w.deliver a) := by
  unfold deliver
  split
  · exact .of_fired rfl rfl
  · exact .refl w

theorem ages_pause (w : World I σ) (watch : Watch) (duration : Nat) :
    w.Ages (w.pause watch duration).2 := by
  rcases w.pause_snd_cases watch duration with h | ⟨wake, h⟩ | ⟨t, h⟩
  · rw [h]
    exact .refl w
  · rw [h]
    exact ages_sleepUntil w wake
  · rw [h]
    exact .of_fired rfl rfl

theorem ages_call (w : World I σ) (R : Remote I σ) (q : Query I α) : w.Ages (w.call R q).2 := by
  have hasked : w.Ages (w.ask R q.request).2 := .of_eq rfl rfl
  exact (hasked.trans (ages_sleepUntil _ _)).trans (ages_deliver _ _)

theorem ages_look (w : World I σ) (R : Remote I σ) (watch : Watch) (q : Query I α) :
    w.Ages (w.look R watch q).2 := by
  have hasked : w.Ages (w.ask R q.request).2 := .of_eq rfl rfl
  have hpaused := hasked.trans
    (ages_pause (w.ask R q.request).2 watch (R.answer q.request w.remote).1.delay)
  rcases w.look_snd_cases R watch q with h | h
  · rw [h]
    exact hpaused
  · rw [h]
    exact hpaused.trans (ages_deliver _ _)

/-- A pause that heeds the token and is not cut short ends before the token fires. -/
theorem unfired_of_pause {watch : Watch} {duration : Nat} (hheeds : watch.heeds = true)
    (h : w.pause watch duration = (none, w')) : w'.token.fired = false := by
  have hopen : w.token.fired = false := Bool.eq_false_iff.2 fun hfired => by
    rw [pause_of_fired duration hheeds hfired] at h
    cases h
  unfold pause at h
  rw [if_neg (not_gate fun _ => hopen)] at h
  split at h
  · cases h
  split at h
  · cases h
    exact hopen
  simp only at h
  split at h
  · cases h
  · rename_i halarm
    have hslept : w.sleepUntil (watch.cap (w.now + duration)) = w' := congrArg Prod.snd h
    rw [← hslept, sleepUntil_token halarm, hopen]

/-- A world leads to a later one, and no request on the way is too late for the token: there is none
once it has fired, and none at a time beyond the moment at which it is due. -/
structure LeadsInTime (w : World I σ) (calls : List (Exchange I)) (w' : World I σ) : Prop where
  leads : w.Leads calls w'
  ages : w.Ages w'
  fired : w.token.fired = true → calls = []
  due : ∀ t, w.token.due = some t → ∀ e ∈ calls, e.time ≤ max w.now t

namespace LeadsInTime

variable {calls later : List (Exchange I)}

theorem quiet (hlead : w.Leads [] w') (hages : w.Ages w') : w.LeadsInTime [] w' :=
  ⟨hlead, hages, fun _ => rfl, fun _ _ _ he => absurd he List.not_mem_nil⟩

/-- A request is in time if the token has not fired when it is made. -/
theorem asking {R : Remote I σ} {q : Query I α} (hopen : w.token.fired = false)
    (hlead : w.Leads [(w.callOf R q).exchange] w') (hages : w.Ages w') :
    w.LeadsInTime [(w.callOf R q).exchange] w' := by
  refine ⟨hlead, hages, fun hfired => ?_, fun t _ _ he => ?_⟩
  · rw [hopen] at hfired
    cases hfired
  · rw [List.mem_singleton.1 he]
    exact Nat.le_max_left _ _

theorem trans (h : w.LeadsInTime calls w') (h' : w'.LeadsInTime later w'') :
    w.LeadsInTime (calls ++ later) w'' where
  leads := h.leads.trans h'.leads
  ages := h.ages.trans h'.ages
  fired hfired := by rw [h.fired hfired, h'.fired (h.ages.fired hfired), List.append_nil]
  due t hdue e he := by
    rcases List.mem_append.1 he with he | he
    · exact h.due t hdue e he
    · -- There is a later request, so the token has not fired in between.
      have hopen : w'.token.fired = false := Bool.eq_false_iff.2 fun hfired => by
        rw [h'.fired hfired] at he
        exact absurd he List.not_mem_nil
      have hbetween := h.ages.in_time hopen t hdue
      have hlate := h'.due t (h.ages.due_eq.trans hdue) e he
      omega

end LeadsInTime

end World

/-! ## 2. Activities that heed the token -/

/-- In its run from this world, the activity makes every request before the token fires. What it
reads of the world by itself is no more than the time and the remote side. -/
inductive Act.Heeds (R : Remote I σ) : {α : Type} → Act I σ α → World I σ → Prop
  | pure {α : Type} (x : α) (w : World I σ) : Act.Heeds R (Pure.pure x : Act I σ α) w
  | endless {α : Type} (w : World I σ) : Act.Heeds R (Act.endless : Act I σ α) w
  | note (n : Notice) (w : World I σ) : Act.Heeds R (Act.note n) w
  | pause (watch : Watch) (duration : Nat) (w : World I σ) :
    Act.Heeds R (Act.pause watch duration) w
  | call {α : Type} (q : Query I α) {w : World I σ} (hopen : w.token.fired = false) :
    Act.Heeds R (Act.call R q) w
  | look {α : Type} (watch : Watch) (q : Query I α) {w : World I σ}
    (hopen : w.token.fired = false) : Act.Heeds R (Act.look R watch q) w
  | read {α : Type} {f : World I σ → Act I σ α} {w : World I σ}
    (hblind : ∀ w', w'.now = w.now → w'.remote = w.remote → f w' = f w)
    (hgo : Act.Heeds R (f w) w) : Act.Heeds R (get >>= f) w
  | bind {α β : Type} {a : Act I σ α} {f : α → Act I σ β} {w : World I σ} (ha : Act.Heeds R a w)
    (hgo : ∀ x w', a.runIn w = (some x, w') → Act.Heeds R (f x) w') : Act.Heeds R (a >>= f) w

namespace Act.Heeds

variable {R : Remote I σ} {a : Act I σ α} {w : World I σ}

/-- **What heeding the token comes to on the trace.** -/
theorem leads_in_time (h : a.Heeds R w) : ∃ calls, w.LeadsInTime calls (a.runIn w).2 := by
  induction h with
  | pure x w => exact ⟨_, .quiet (.refl w) (.refl w)⟩
  | endless w => exact ⟨_, .quiet (.refl w) (.refl w)⟩
  | note n w => exact ⟨_, .quiet (w.leads_note n) (.of_eq rfl rfl)⟩
  | pause watch duration w =>
    exact ⟨_, .quiet (w.leads_pause watch duration) (w.ages_pause watch duration)⟩
  | @call _ q w hopen => exact ⟨_, .asking hopen (w.leads_call R q) (w.ages_call R q)⟩
  | @look _ watch q w hopen =>
    exact ⟨_, .asking hopen (w.look_cases R q watch).1 (w.ages_look R watch q)⟩
  | read _ _ ih => exact ih
  | @bind _ _ a f w _ _ ih ih' =>
    obtain ⟨calls, hcalls⟩ := ih
    rw [runIn_bind]
    cases hrun : a.runIn w with
    | mk o w' =>
      rw [hrun] at hcalls
      cases o with
      | none => exact ⟨calls, hcalls⟩
      | some x =>
        obtain ⟨later, hlater⟩ := ih' x w' hrun
        exact ⟨calls ++ later, hcalls.trans hlater⟩

theorem map {g : α → β} (ha : a.Heeds R w) : (g <$> a).Heeds R w := by
  rw [map_eq_pure_bind]
  exact ha.bind fun x w' _ => .pure (g x) w'

theorem note_bind {n : Notice} {f : Unit → Act I σ β} (h : (f ()).Heeds R (w.note n)) :
    (Act.note n >>= f).Heeds R w := by
  refine (Act.Heeds.note n w).bind fun _ w' hrun => ?_
  cases hrun
  exact h

theorem remark_bind {remark : Option Notice} {f : PUnit → Act I σ β}
    (h : (f ()).Heeds R (w.remarked remark)) :
    ((remark.forM Act.note : Act I σ PUnit) >>= f).Heeds R w := by
  cases remark with
  | none => exact h
  | some n => exact note_bind h

/-- What follows a pause that heeds the token may count on a token that has not fired, unless the
pause was cut short. -/
theorem pause_bind {watch : Watch} {duration : Nat} {f : Option Interruption → Act I σ β}
    (hheeds : watch.heeds = true) (hcut : ∀ cause w', (f (some cause)).Heeds R w')
    (hgo : ∀ w', w'.token.fired = false → (f none).Heeds R w') :
    (Act.pause watch duration >>= f).Heeds R w := by
  refine (Act.Heeds.pause watch duration w).bind fun cause w' hrun => ?_
  cases cause with
  | some cause => exact hcut cause w'
  | none =>
    rw [runIn_pause, Prod.mk.injEq, Option.some.injEq] at hrun
    exact hgo w' (World.unfired_of_pause hheeds (Prod.ext hrun.1 hrun.2))

end Act.Heeds

/-- An activity that may fail heeds the token if its first part does, and its second part after a
first part that has succeeded. -/
theorem Task.heeds_bind {R : Remote I σ} {task : Task I σ ε α} {f : α → Task I σ ε β}
    {w : World I σ} (h : task.run.Heeds R w)
    (hgo : ∀ x w', task.run.runIn w = (some (.ok x), w') → (f x).run.Heeds R w') :
    (task >>= f).run.Heeds R w := by
  refine Act.Heeds.bind h fun result w' hrun => ?_
  cases result with
  | ok x => exact hgo x w' hrun
  | error e => exact .pure _ w'

/-- What is worked out beforehand asks for nothing. -/
theorem Task.heeds_lift_bind {R : Remote I σ} {x : Except ε α} {f : α → Task I σ ε β}
    {w : World I σ} (hgo : ∀ a, x = .ok a → (f a).run.Heeds R w) :
    ((liftM x : Task I σ ε α) >>= f).run.Heeds R w := by
  cases x with
  | ok a => exact hgo a rfl
  | error e => exact .pure _ w

/-! ## 3. Retries, waits and jobs -/

section Loops

variable [RemoteFailure ε] {R : Remote I σ}

namespace Retry

variable {query : Query I (Except ε α)}

theorem attempt_heeds (made : Nat) (w : World I σ) : (attempt true R query made).Heeds R w := by
  unfold attempt
  refine .pause_bind rfl (fun _ w' => .pure _ w') fun w' hopen => ?_
  refine (Act.Heeds.call query hopen).bind fun result w'' _ => ?_
  cases result with
  | ok value => exact .pure _ w''
  | error e =>
    simp only
    split <;> exact .pure _ w''

/-- By induction on the repetitions that are left. -/
theorem attempts_heeds (r : Retry) (left made : Nat) (w : World I σ) :
    (r.attempts true R query left made).Heeds R w := by
  induction left generalizing made w with
  | zero =>
    unfold attempts
    refine (attempt_heeds made w).bind fun result w' _ => ?_
    cases result <;> exact .pure _ w'
  | succ left ih =>
    unfold attempts
    refine (attempt_heeds made w).bind fun result w' _ => ?_
    cases result with
    | inl result => exact .pure _ w'
    | inr e =>
      exact .note_bind (.pause_bind rfl (fun _ w'' => .pure _ w'') fun w'' _ => ih (made + 1) w'')

theorem call_heeds (r : Retry) (w : World I σ) : (r.call true R query).run.Heeds R w :=
  .map (r.attempts_heeds (r.maxAttempts - 1) 0 w)

end Retry

namespace Wait

variable {operation : Operation} {query : Query I (Except ε Reading)} {watch : Watch}

theorem giveUp_heeds (cause : Interruption) (looks : UInt32) (w : World I σ) :
    (giveUp cause looks : Act I σ Outcome).Heeds R w :=
  .note_bind (.pure _ _)

theorem round_heeds (s : Wait) (hheeds : watch.heeds = true) (looks : UInt32) (warned : List String)
    (w : World I σ) : (s.round R operation query watch looks warned).Heeds R w := by
  unfold round
  refine .pause_bind hheeds (fun cause w' => .map (giveUp_heeds cause looks w')) fun w' hopen => ?_
  refine (Act.Heeds.look watch query hopen).bind fun response w'' _ => ?_
  cases response with
  | error cause => exact .map (giveUp_heeds cause (looks + 1) w'')
  | ok response =>
    simp only
    split
    · exact .note_bind (.pure _ _)
    · refine .remark_bind (.pause_bind hheeds (fun cause w₃ => ?_) fun w₃ _ => .pure _ w₃)
      exact .map (giveUp_heeds cause (looks + 1) w₃)

/-- By induction on the rounds that are left. -/
theorem rounds_heeds (s : Wait) (hheeds : watch.heeds = true) (fuel : Nat)
    (looks : UInt32) (warned : List String) (w : World I σ) :
    (s.rounds R operation query watch fuel looks warned).Heeds R w := by
  induction fuel generalizing looks warned w with
  | zero => exact .endless w
  | succ fuel ih =>
    unfold rounds
    refine (s.round_heeds hheeds looks warned w).bind fun result w' _ => ?_
    cases result with
    | inl outcome => exact .pure _ w'
    | inr warned' => exact ih (looks + 1) warned' w'

theorem run_heeds (s : Wait) (hheeds : s.heeds = true) (w : World I σ) :
    (s.run R operation query).Heeds R w := by
  unfold run
  refine .read (fun w' hnow hremote => ?_) ?_
  · rw [hnow, hremote]
  · refine .pause_bind hheeds (fun cause w' => giveUp_heeds cause 0 w') fun w' _ => ?_
    exact s.rounds_heeds hheeds _ 0 [] w'

end Wait

theorem JobWait.settle_heeds (j : JobWait) (hheeds : j.heeds = true)
    {job : Query I (Except ε JobReport)} (timeout : Nat) (w : World I σ) :
    (j.settle R job timeout).run.Heeds R w := by
  refine .map ?_
  unfold run
  split
  · exact .pure _ w
  · exact Wait.run_heeds _ hheeds w

end Loops

end Settle
