/-
How time passes in a world.

Only a pause or a call lets time pass, and all of them end in `sleepUntil`. Every
pause goes in one of the ways of `Paused`. Where it is known what will happen, the
four equations of `pause` say which: a token that has fired, a deadline that has
passed, a token that fires during the pause, and a pause that nothing but the
deadline cuts short. They exclude each other as long as a token that is due has not
been due before, which no run breaks.

Asking, sleeping and delivering touch one part of the world each. The simp lemmas
say what they leave alone.
-/
import Settle.World

set_option autoImplicit false

namespace Settle

/-! ## 1. The token -/

namespace Token

/-- A token that is due before the wake-up fires on the way. -/
theorem alarm?_eq_some {k : Token} (hfired : k.fired = false) {t wake : Nat}
    (hdue : k.due = some t) (ht : t < wake) : k.alarm? wake = some t := by
  unfold alarm?
  rw [hfired, hdue, Option.filter_some, if_neg (by simp), decide_eq_true ht, if_pos rfl]

/-- A token that is not due before the wake-up stays as it is. -/
theorem alarm?_eq_none {k : Token} {wake : Nat} (h : ∀ t, k.due = some t → wake ≤ t) :
    k.alarm? wake = none := by
  unfold alarm?
  by_cases hfired : k.fired
  · rw [if_pos hfired]
  · rw [if_neg hfired, Option.filter_eq_none_iff]
    intro t hdue
    have ht := h t hdue
    simpa using ht

/-- A token that does not fire on the way is the same afterwards. -/
theorem passing_eq_self {k : Token} {wake : Nat} (h : k.alarm? wake = none) :
    k.passing wake = k := by
  unfold passing
  rw [h, Option.isSome_none, if_neg Bool.false_ne_true]

end Token

/-! ## 2. What each step leaves alone -/

namespace World

variable {I : Interface} {σ α : Type}

section Ask

variable (w : World I σ) (R : Remote I σ) (q : I.Request)

@[simp] theorem ask_fst : (w.ask R q).1 = (R.answer q w.remote).1 := rfl

@[simp] theorem ask_remote : (w.ask R q).2.remote = (R.answer q w.remote).2 := rfl

@[simp]
theorem ask_trace :
    (w.ask R q).2.trace.toList = w.trace.toList ++ [⟨w.now, q, (R.answer q w.remote).1⟩] := by
  change (w.trace.push _).toList = _
  rw [Array.toList_push]

end Ask

section Deliver

variable (w : World I σ) (a : Answer α)

/-- Delivering an answer does nothing but fire the token, if the answer says so. -/
theorem deliver_eq :
    w.deliver a = { w with token := if a.cancels then w.token.fire else w.token } := by
  unfold deliver
  by_cases h : a.cancels
  · rw [if_pos h, if_pos h]
  · rw [if_neg h, if_neg h]

@[simp] theorem deliver_now : (w.deliver a).now = w.now := by rw [deliver_eq]

@[simp] theorem deliver_trace : (w.deliver a).trace = w.trace := by rw [deliver_eq]

@[simp] theorem deliver_log : (w.deliver a).log = w.log := by rw [deliver_eq]

@[simp] theorem deliver_remote : (w.deliver a).remote = w.remote := by rw [deliver_eq]

/-- An answer that does not cancel is delivered without a trace. -/
theorem deliver_eq_self {w : World I σ} {a : Answer α} (h : a.cancels = false) :
    w.deliver a = w := by
  unfold deliver
  rw [h, if_neg Bool.false_ne_true]

end Deliver

section Note

variable (w : World I σ) (n : Notice)

@[simp] theorem note_log : (w.note n).log.toList = w.log.toList ++ [n] := Array.toList_push

end Note

/-- The world once a remark is made, if there is one. -/
def remarked (w : World I σ) : Option Notice → World I σ
  | none => w
  | some n => w.note n

section Remark

variable (w : World I σ) (remark : Option Notice)

@[simp] theorem remarked_now : (w.remarked remark).now = w.now := by cases remark <;> rfl

@[simp] theorem remarked_token : (w.remarked remark).token = w.token := by cases remark <;> rfl

@[simp] theorem remarked_trace : (w.remarked remark).trace = w.trace := by cases remark <;> rfl

@[simp] theorem remarked_remote : (w.remarked remark).remote = w.remote := by cases remark <;> rfl

@[simp]
theorem remarked_log : (w.remarked remark).log.toList = w.log.toList ++ remark.toList := by
  cases remark with
  | none => exact (List.append_nil _).symm
  | some n => exact note_log w n

end Remark

section Sleep

variable (w : World I σ) (wake : Nat)

@[simp]
theorem sleepUntil_trace : (w.sleepUntil wake).trace = w.trace := by
  unfold sleepUntil
  split <;> rfl

@[simp]
theorem sleepUntil_log : (w.sleepUntil wake).log = w.log := by
  unfold sleepUntil
  split <;> rfl

@[simp]
theorem sleepUntil_remote : (w.sleepUntil wake).remote = w.remote := by
  unfold sleepUntil
  split <;> rfl

variable {w wake}

/-- One sleeps until the wake-up. -/
theorem sleepUntil_now (h : w.now ≤ wake) : (w.sleepUntil wake).now = wake := by
  unfold sleepUntil
  by_cases hlt : w.now < wake
  · rw [if_pos hlt]
  · rw [if_neg hlt]
    omega

/-- A token that is not due before the wake-up does not fire while one sleeps. -/
theorem sleepUntil_token (h : w.token.alarm? wake = none) :
    (w.sleepUntil wake).token = w.token := by
  unfold sleepUntil
  split
  · exact Token.passing_eq_self h
  · rfl

/-- Sleeping with nothing due before the wake-up moves the clock and nothing else. -/
theorem sleepUntil_eq (h : w.now ≤ wake) (halarm : w.token.alarm? wake = none) :
    w.sleepUntil wake = { w with now := wake } := by
  unfold sleepUntil
  by_cases hlt : w.now < wake
  · rw [if_pos hlt, Token.passing_eq_self halarm]
  · have hwake : wake = w.now := by omega
    rw [if_neg hlt, hwake]

end Sleep

/-! ## 3. The ways of a pause -/

/-- What comes of a pause, and the world after it. -/
inductive Paused (w : World I σ) (watch : Watch) (duration : Nat) :
    Option Interruption → World I σ → Prop
  /-- The token had fired before. -/
  | fired (hheeds : watch.heeds = true) (hfired : w.token.fired = true) :
    Paused w watch duration (some .cancelled) w
  /-- The deadline had passed before. -/
  | expired (hexpired : watch.expired w.now = true) : Paused w watch duration (some .deadline) w
  /-- The token fires on the way. -/
  | alarmed {t : Nat} (hheeds : watch.heeds = true) (hduration : 0 < duration)
    (halarm : w.token.alarm? (watch.cap (w.now + duration)) = some t) :
    Paused w watch duration (some .cancelled)
      { w with now := max w.now t, token := w.token.fire }
  /-- The deadline passes on the way. -/
  | late {w' : World I σ} (hopen : watch.expired w.now = false)
    (hexpired : watch.expired (w.now + duration) = true)
    (hslept : w' = w.sleepUntil (watch.cap (w.now + duration))) :
    Paused w watch duration (some .deadline) w'
  /-- Nothing cuts it short. -/
  | ended {w' : World I σ} (hintime : watch.expired (w.now + duration) = false)
    (hslept : w' = w.sleepUntil (w.now + duration)) : Paused w watch duration none w'

section Pause

variable {w : World I σ} {watch : Watch} (duration : Nat)

/-- The gate of a pause: a token that counts has not fired. -/
theorem not_gate (hopen : watch.heeds = true → w.token.fired = false) :
    ¬ (watch.heeds && w.token.fired) = true := by
  rw [Bool.and_eq_true]
  rintro ⟨hheeds, hfired⟩
  rw [hopen hheeds] at hfired
  exact Bool.false_ne_true hfired

/-- A token that has fired ends a pause before it begins. -/
theorem pause_of_fired (hheeds : watch.heeds = true) (hfired : w.token.fired = true) :
    w.pause watch duration = (some .cancelled, w) := by
  unfold pause
  rw [hheeds, hfired, Bool.and_self, if_pos rfl]

/-- So does a deadline that has passed. -/
theorem pause_of_expired (hopen : watch.heeds = true → w.token.fired = false)
    (hexpired : watch.expired w.now = true) :
    w.pause watch duration = (some .deadline, w) := by
  unfold pause
  rw [if_neg (not_gate hopen), if_pos hexpired]

/-- A pause of no length is over at once. -/
theorem pause_zero (hopen : watch.heeds = true → w.token.fired = false)
    (hexpired : watch.expired w.now = false) : w.pause watch 0 = (none, w) := by
  unfold pause
  rw [if_neg (not_gate hopen), hexpired, if_neg Bool.false_ne_true, if_pos rfl]

/-- Until the deadline, the cap on a time is the time itself. -/
theorem cap_of_not_expired {t : Nat} (h : watch.expired t = false) : watch.cap t = t := by
  unfold Watch.expired at h
  unfold Watch.cap
  cases hdeadline : watch.deadline with
  | none => rfl
  | some deadline =>
    rw [hdeadline, Option.any_some, decide_eq_false_iff_not] at h
    rw [Option.elim_some]
    omega

/-- The cap on a time is no earlier than any moment before the deadline up to that
time. -/
theorem le_cap {s t : Nat} (h : watch.expired s = false) (hst : s ≤ t) : s ≤ watch.cap t := by
  unfold Watch.expired at h
  unfold Watch.cap
  cases hdeadline : watch.deadline with
  | none => exact hst
  | some deadline =>
    rw [hdeadline, Option.any_some, decide_eq_false_iff_not] at h
    rw [Option.elim_some]
    omega

/-- A pause goes in one of its ways. -/
theorem paused_pause (w : World I σ) (watch : Watch) (duration : Nat) :
    w.Paused watch duration (w.pause watch duration).1 (w.pause watch duration).2 := by
  unfold pause
  by_cases hgate : (watch.heeds && w.token.fired) = true
  · rw [if_pos hgate]
    rw [Bool.and_eq_true] at hgate
    exact .fired hgate.1 hgate.2
  rw [if_neg hgate]
  by_cases hexpired : watch.expired w.now = true
  · rw [if_pos hexpired]
    exact .expired hexpired
  rw [if_neg hexpired]
  have hopen := Bool.eq_false_iff.2 hexpired
  by_cases hzero : duration = 0
  · -- Nothing is slept through.
    rw [if_pos hzero]
    refine .ended (by rw [hzero]; exact hopen) ?_
    unfold sleepUntil
    rw [if_neg (by omega)]
  rw [if_neg hzero]
  -- Without an alarm that counts, the pause lasts until its end or the deadline.
  have hslept : w.Paused watch duration
      (if watch.expired (w.now + duration) then some .deadline else none)
      (w.sleepUntil (watch.cap (w.now + duration))) := by
    by_cases hlate : watch.expired (w.now + duration) = true
    · rw [if_pos hlate]
      exact .late hopen hlate rfl
    · rw [if_neg hlate, cap_of_not_expired (Bool.eq_false_iff.2 hlate)]
      exact .ended (Bool.eq_false_iff.2 hlate) rfl
  cases halarm : w.token.alarm? (watch.cap (w.now + duration)) with
  | none =>
    simp only [halarm]
    exact hslept
  | some t =>
    by_cases hheeds : watch.heeds = true
    · simp only [halarm, if_pos hheeds]
      exact .alarmed hheeds (Nat.pos_of_ne_zero hzero) halarm
    · simp only [halarm, if_neg hheeds]
      exact hslept

theorem paused {cause : Option Interruption} {w' : World I σ}
    (h : w.pause watch duration = (cause, w')) : w.Paused watch duration cause w' := by
  have hpaused := w.paused_pause watch duration
  rwa [h] at hpaused

/-- After a pause the world is as it was, or has slept, or its token has fired on the way. -/
theorem pause_snd_cases (w : World I σ) (watch : Watch) (duration : Nat) :
    (w.pause watch duration).2 = w ∨
      (∃ wake, (w.pause watch duration).2 = w.sleepUntil wake) ∨
      ∃ t, (w.pause watch duration).2 =
        { w with now := max w.now t, token := w.token.fire } := by
  cases hpause : w.pause watch duration with
  | mk cause w' =>
    cases paused duration hpause with
    | fired _ _ => exact .inl rfl
    | expired _ => exact .inl rfl
    | alarmed _ _ _ => exact .inr (.inr ⟨_, rfl⟩)
    | late _ _ hslept => exact .inr (.inl ⟨_, hslept⟩)
    | ended _ hslept => exact .inr (.inl ⟨_, hslept⟩)

/-- With nothing due before its end, a pause ends at the deadline or after its
duration, whichever comes first, and a deadline at the very end counts as
missed. -/
theorem pause_calm (hopen : watch.heeds = true → w.token.fired = false)
    (hexpired : watch.expired w.now = false)
    (hcalm : watch.heeds = true → ∀ t, w.token.due = some t →
      watch.cap (w.now + duration) ≤ t) :
    w.pause watch duration =
      (if watch.expired (w.now + duration) then some .deadline else none,
        w.sleepUntil (watch.cap (w.now + duration))) := by
  have hlate : ¬ watch.expired w.now = true := by rw [hexpired]; simp
  unfold pause
  rw [if_neg (not_gate hopen), if_neg hlate]
  by_cases hzero : duration = 0
  · rw [if_pos hzero, hzero, Nat.add_zero, if_neg hlate, cap_of_not_expired hexpired]
    unfold sleepUntil
    rw [if_neg (Nat.lt_irrefl _)]
  · rw [if_neg hzero]
    cases hheeds : watch.heeds with
    | false =>
      -- A token that does not count may fire on the way; `sleepUntil` sees to that.
      simp only [Bool.false_eq_true, if_false]
      split <;> rfl
    | true => simp only [Token.alarm?_eq_none (hcalm hheeds)]

/-- A token that fires before the end of a pause ends it there and then. -/
theorem pause_alarm (hheeds : watch.heeds = true) (hfired : w.token.fired = false)
    (hexpired : watch.expired w.now = false) {t : Nat} (hdue : w.token.due = some t)
    (hnow : w.now ≤ t) (ht : t < watch.cap (w.now + duration)) :
    w.pause watch duration = (some .cancelled, { w with now := t, token := w.token.fire }) := by
  have hlate : ¬ watch.expired w.now = true := by rw [hexpired]; simp
  have hzero : duration ≠ 0 := by
    rintro rfl
    rw [Nat.add_zero, cap_of_not_expired hexpired] at ht
    omega
  unfold pause
  rw [if_neg (not_gate fun _ => hfired), if_neg hlate, if_neg hzero]
  simp only [Token.alarm?_eq_some hfired hdue ht, if_pos hheeds, Nat.max_eq_right hnow]

/-- A pause that is not cut short takes its time, and the deadline is still to come. -/
theorem pause_eq_none {w' : World I σ} (h : w.pause watch duration = (none, w')) :
    w'.now = w.now + duration ∧ watch.expired w'.now = false := by
  cases paused duration h with
  | ended hintime hslept =>
    rw [hslept, sleepUntil_now (Nat.le_add_right _ _)]
    exact ⟨rfl, hintime⟩

/-- A pause of no length leaves the world as it is. -/
theorem pause_zero_snd (w : World I σ) (watch : Watch) : (w.pause watch 0).2 = w := by
  unfold pause
  split
  · rfl
  · split <;> rfl

end Pause

/-! ## 4. Looking -/

section Look

variable {w w' : World I σ} {R : Remote I σ} {watch : Watch} {q : Query I α}

/-- A look whose answer the watch cuts off. -/
theorem look_of_cut {cause : Interruption}
    (h : (w.ask R q.request).2.pause watch (R.answer q.request w.remote).1.delay =
      (some cause, w')) :
    w.look R watch q = (.error cause, w') := by
  unfold look
  simp only [ask_fst, h]

/-- A look whose answer arrives. -/
theorem look_of_arrival
    (h : (w.ask R q.request).2.pause watch (R.answer q.request w.remote).1.delay = (none, w')) :
    w.look R watch q =
      (.ok (q.read (R.answer q.request w.remote).1.response),
        w'.deliver (R.answer q.request w.remote).1) := by
  unfold look
  simp only [ask_fst, h]

/-- After a look the world is as after the pause for its answer, or the answer has arrived there. -/
theorem look_snd_cases (w : World I σ) (R : Remote I σ) (watch : Watch) (q : Query I α) :
    let answer := (R.answer q.request w.remote).1
    let paused := ((w.ask R q.request).2.pause watch answer.delay).2
    (w.look R watch q).2 = paused ∨ (w.look R watch q).2 = paused.deliver answer := by
  intro answer paused
  cases hpause : (w.ask R q.request).2.pause watch answer.delay with
  | mk cause w' =>
    have hpaused : paused = w' := congrArg Prod.snd hpause
    rw [hpaused]
    cases cause with
    | some cause =>
      rw [look_of_cut hpause]
      exact .inl rfl
    | none =>
      rw [look_of_arrival hpause]
      exact .inr rfl

end Look

end World

theorem Act.runIn_forM_note {I : Interface} {σ : Type} (remark : Option Notice) (w : World I σ) :
    (remark.forM Act.note : Act I σ PUnit).runIn w = (some (), w.remarked remark) := by
  cases remark <;> rfl

end Settle
