/-
The pace of a wait.

A wait looks, and before it looks again it lets a tick pass (`tick_interval`); so its
looks are apart, and since all of them begin before the deadline there are only so many:
`Policy.mostLooks`, which needs a tick of some length. With a tick of no length the
clock stands still between looks that are answered at once, and nothing bounds them.

Section 1 says when a pause ends, and what has happened if it is cut short
(`Interrupted`); section 2 says what this means for a look and a round. The run lemmas of
section 4 are by induction over the rounds: `run_paced` about the looks, whatever the
tick, and `run_ends` about the wait, which ends by its deadline if the tick has some
length. Section 5 is about a tick that has none: from a state on in which the remote side
is `Stalled`, the wait never ends.
-/
import Mathlib.Algebra.Order.Floor.Div
import Settle.Proofs.Calls.Loops
import Settle.Proofs.Round
import Settle.Proofs.Vigil

set_option autoImplicit false

namespace Settle

variable {I : Interface} {σ ε α : Type}

/-! ## 1. When a pause ends -/

/-- An alarm goes off before the wake-up. -/
theorem Token.lt_of_alarm? {k : Token} {t wake : Nat} (h : k.alarm? wake = some t) : t < wake := by
  unfold alarm? at h
  split at h
  · cases h
  · simpa using (Option.filter_eq_some_iff.1 h).2

namespace World

variable {w w' : World I σ} {watch : Watch} {duration : Nat}

/-- The cap on a time is no later than the time, -/
theorem cap_le (watch : Watch) (t : Nat) : watch.cap t ≤ t := by
  unfold Watch.cap
  cases watch.deadline with
  | none => exact Nat.le_refl t
  | some deadline => exact Nat.min_le_left _ _

/-- and no later than the deadline. -/
theorem cap_le_deadline {deadline : Nat} (h : watch.deadline = some deadline) (t : Nat) :
    watch.cap t ≤ deadline := by
  unfold Watch.cap
  rw [h]
  exact Nat.min_le_right _ _

/-- A pause that could begin was not cancelled, and its time was not over. -/
theorem open_of_gate (h : w.pause watch 0 = (none, w)) :
    (watch.heeds = true → w.token.fired = false) ∧ watch.expired w.now = false := by
  constructor
  · intro hheeds
    refine Bool.eq_false_iff.2 fun hfired => ?_
    rw [pause_of_fired 0 hheeds hfired] at h
    cases h
  · exact (pause_eq_none 0 h).2

variable {cause : Option Interruption}

/-- A pause that goes on at all goes on to the cap on its end at most. -/
theorem pause_now_le_max (h : w.pause watch duration = (cause, w')) :
    w'.now ≤ max w.now (watch.cap (w.now + duration)) := by
  cases paused duration h with
  | fired _ _ => exact Nat.le_max_left _ _
  | expired _ => exact Nat.le_max_left _ _
  | alarmed _ _ halarm =>
    have ht := Token.lt_of_alarm? halarm
    exact Nat.max_le.2 ⟨Nat.le_max_left _ _, by omega⟩
  | late hopen _ hslept =>
    rw [hslept, sleepUntil_now (le_cap hopen (Nat.le_add_right _ _))]
    exact Nat.le_max_right _ _
  | ended hintime hslept =>
    rw [hslept, sleepUntil_now (Nat.le_add_right _ _), cap_of_not_expired hintime]
    exact Nat.le_max_right _ _

/-- So no pause goes on beyond its duration, -/
theorem pause_now_le (h : w.pause watch duration = (cause, w')) : w'.now ≤ w.now + duration := by
  have hle := pause_now_le_max h
  have hcap := cap_le watch (w.now + duration)
  omega

/-- and none that begins by the deadline goes on beyond that. -/
theorem pause_now_le_deadline {deadline : Nat} (hdeadline : watch.deadline = some deadline)
    (hnow : w.now ≤ deadline) (h : w.pause watch duration = (cause, w')) : w'.now ≤ deadline := by
  have hle := pause_now_le_max h
  have hcap := cap_le_deadline hdeadline (w.now + duration)
  omega

/-- What ends an activity under this watch has happened: the token counts and has fired, or this is
the time of the deadline. -/
def Interrupted (w : World I σ) (watch : Watch) : Interruption → Prop
  | .cancelled => watch.heeds = true ∧ w.token.fired = true
  | .deadline => watch.deadline = some w.now

/-- Before the time is over, no deadline has passed. -/
theorem le_deadline_of_open {t : Nat} (h : watch.expired t = false) :
    ∀ deadline, watch.deadline = some deadline → t ≤ deadline := by
  intro deadline hdeadline
  rw [Watch.expired, hdeadline, Option.any_some, decide_eq_false_iff_not] at h
  omega

/-- A pause that begins by the deadline is cut short only by what has happened then. -/
theorem interrupted_of_pause {cause : Interruption}
    (hnow : ∀ deadline, watch.deadline = some deadline → w.now ≤ deadline)
    (h : w.pause watch duration = (some cause, w')) : w'.Interrupted watch cause := by
  cases paused duration h with
  | fired hheeds hfired => exact ⟨hheeds, hfired⟩
  | expired hexpired =>
    -- The time is over, but not for longer than a moment.
    unfold Watch.expired at hexpired
    unfold Interrupted
    cases hdeadline : watch.deadline with
    | none =>
      rw [hdeadline] at hexpired
      cases hexpired
    | some deadline =>
      have hle := hnow deadline hdeadline
      rw [hdeadline, Option.any_some, decide_eq_true_iff] at hexpired
      rw [Nat.le_antisymm hle hexpired]
  | alarmed hheeds _ _ => exact ⟨hheeds, rfl⟩
  | late hopen hexpired hslept =>
    unfold Interrupted
    rw [hslept, sleepUntil_now (le_cap hopen (Nat.le_add_right _ _))]
    unfold Watch.expired at hexpired
    unfold Watch.cap
    cases hdeadline : watch.deadline with
    | none =>
      rw [hdeadline] at hexpired
      cases hexpired
    | some deadline =>
      rw [hdeadline, Option.any_some, decide_eq_true_iff] at hexpired
      rw [Option.elim_some, Nat.min_eq_right hexpired]

/-- The token cuts a pause short that could begin before the pause would have been over. -/
theorem now_lt_of_pause_cancelled (hopen : watch.heeds = true → w.token.fired = false)
    (h : w.pause watch duration = (some .cancelled, w')) : w'.now < w.now + duration := by
  cases paused duration h with
  | fired hheeds hfired =>
    rw [hopen hheeds] at hfired
    cases hfired
  | alarmed _ hduration halarm =>
    -- A token that was overdue fires at once, and one that was not before the wake-up.
    have ht := Token.lt_of_alarm? halarm
    have hcap := cap_le watch (w.now + duration)
    exact Nat.max_lt.2 ⟨by omega, by omega⟩

/-- A pause leads on without an exchange. -/
theorem leads_of_pause (h : w.pause watch duration = (cause, w')) : w.Leads [] w' := by
  have hleads := w.leads_pause watch duration
  rwa [h] at hleads

theorem leads_of_remarked_pause {remark : Option Notice}
    (h : (w.remarked remark).pause watch duration = (cause, w')) : w.Leads [] w' :=
  (w.leads_remarked remark).trans (leads_of_pause h)

/-! ## 2. Looks and rounds -/

section Look

variable {R : Remote I σ} {q : Query I α} {result : Except Interruption α}

/-- A look leads on by its call. -/
theorem leads_of_look (h : w.look R watch q = (result, w')) :
    w.Leads [(w.callOf R q).exchange] w' := by
  have hleads := (w.look_cases R q watch).1
  rwa [h] at hleads

/-- A look that is not cut off gives what its call does, when the answer arrives. -/
theorem look_arrives {response : α} (h : w.look R watch q = (.ok response, w')) :
    response = (w.callOf R q).result ∧ w'.now = (w.callOf R q).arrival ∧
      watch.expired w'.now = false := by
  cases hpause : (w.ask R q.request).2.pause watch (R.answer q.request w.remote).1.delay with
  | mk cause w₁ =>
    cases cause with
    | some cause =>
      rw [look_of_cut hpause] at h
      cases h
    | none =>
      rw [look_of_arrival hpause, Prod.mk.injEq] at h
      obtain ⟨hresponse, rfl⟩ := h
      obtain ⟨hnow, hintime⟩ := pause_eq_none _ hpause
      rw [deliver_now]
      exact ⟨(Except.ok.inj hresponse).symm, hnow, hintime⟩

/-- A look that is cut off is so by what has happened then: by the token before its answer arrives,
and by the deadline at the latest when it does. -/
theorem look_cut {cause : Interruption} (hgate : w.pause watch 0 = (none, w))
    (h : w.look R watch q = (.error cause, w')) :
    w'.Interrupted watch cause ∧ w'.now ≤ (w.callOf R q).arrival ∧
      (cause = .cancelled → w'.now < (w.callOf R q).arrival) := by
  cases hpause : (w.ask R q.request).2.pause watch (R.answer q.request w.remote).1.delay with
  | mk cause' w₁ =>
    cases cause' with
    | none =>
      rw [look_of_arrival hpause] at h
      cases h
    | some cause' =>
      rw [look_of_cut hpause, Prod.mk.injEq] at h
      obtain ⟨hcause, rfl⟩ := h
      cases hcause
      obtain ⟨hopen, hintime⟩ := open_of_gate hgate
      have hinterrupted := interrupted_of_pause (w := (w.ask R q.request).2)
        (le_deadline_of_open hintime) hpause
      have hle := pause_now_le hpause
      refine ⟨hinterrupted, hle, ?_⟩
      rintro rfl
      exact now_lt_of_pause_cancelled (w := (w.ask R q.request).2) hopen hpause

/-- A look that begins by the deadline is over by then. -/
theorem look_now_le_deadline {deadline : Nat} (hdeadline : watch.deadline = some deadline)
    (hnow : w.now ≤ deadline) (h : w.look R watch q = (result, w')) : w'.now ≤ deadline := by
  have hasked : (w.ask R q.request).2.now ≤ deadline := hnow
  have hle : ((w.ask R q.request).2.pause watch
      (R.answer q.request w.remote).1.delay).2.now ≤ deadline :=
    pause_now_le_deadline hdeadline hasked rfl
  have hw' : w' = (w.look R watch q).2 := (congrArg Prod.snd h).symm
  rcases w.look_snd_cases R watch q with hlooked | hlooked
  · rw [hw', hlooked]
    exact hle
  · rw [hw', hlooked, deliver_now]
    exact hle

end Look

end World

namespace Wait

variable [RemoteFailure ε] {s : Wait} {R : Remote I σ} {operation : Operation}
  {query : Query I (Except ε Reading)} {watch : Watch} {looks : UInt32}
  {warned warned' : List String}
  {w w' : World I σ} {result : Outcome ⊕ List String}

/-- A round that looks does so once, at its very beginning and in time. -/
theorem Turn.leads (h : s.Turn R operation query watch looks warned w result w') :
    w.Leads [] w' ∨
      watch.expired w.now = false ∧ w.Leads [(w.callOf R query).exchange] w' := by
  cases h with
  | closed _ => exact .inl (w.leads_note _)
  | cut hgate hlook =>
    exact .inr ⟨(World.open_of_gate hgate).2,
      (World.leads_of_look hlook).trans (World.leads_note _ _)⟩
  | settled hgate hlook _ =>
    exact .inr ⟨(World.open_of_gate hgate).2,
      (World.leads_of_look hlook).trans (World.leads_note _ _)⟩
  | spent hgate hlook _ hpause =>
    have hpaused := (World.leads_of_look hlook).trans (World.leads_of_remarked_pause hpause)
    exact .inr ⟨(World.open_of_gate hgate).2, hpaused.trans (World.leads_note _ _)⟩
  | next hgate hlook _ hpause =>
    exact .inr ⟨(World.open_of_gate hgate).2,
      (World.leads_of_look hlook).trans (World.leads_of_remarked_pause hpause)⟩

/-- The next round begins a tick after the answer arrived, and in time. -/
theorem Turn.next_now (h : s.Turn R operation query watch looks warned w (.inr warned') w') :
    w.Leads [(w.callOf R query).exchange] w' ∧ watch.expired w.now = false ∧
      w'.now = (w.callOf R query).arrival + s.policy.tick ∧ watch.expired w'.now = false := by
  cases h with
  | next hgate hlook _ hpause =>
    have hleads := (World.leads_of_look hlook).trans (World.leads_of_remarked_pause hpause)
    obtain ⟨-, harrival, -⟩ := World.look_arrives hlook
    obtain ⟨hnow, hintime⟩ := World.pause_eq_none _ hpause
    rw [World.remarked_now, harrival] at hnow
    exact ⟨hleads, (World.open_of_gate hgate).2, hnow, hintime⟩

/-- A round that begins by the deadline is over by then. -/
theorem Turn.now_le_deadline {deadline : Nat} (hdeadline : watch.deadline = some deadline)
    (hnow : w.now ≤ deadline) (h : s.Turn R operation query watch looks warned w result w') :
    w'.now ≤ deadline := by
  have hremarked {remark : Option Notice} {w₁ : World I σ} (hle : w₁.now ≤ deadline) :
      (w₁.remarked remark).now ≤ deadline := by
    rwa [World.remarked_now]
  cases h with
  | closed _ => exact hnow
  | cut _ hlook =>
    have hlooked := World.look_now_le_deadline hdeadline hnow hlook
    exact hlooked
  | settled _ hlook _ =>
    have hlooked := World.look_now_le_deadline hdeadline hnow hlook
    exact hlooked
  | spent _ hlook _ hpause =>
    have hlooked := World.look_now_le_deadline hdeadline hnow hlook
    have hpaused := World.pause_now_le_deadline hdeadline (hremarked hlooked) hpause
    exact hpaused
  | next _ hlook _ hpause =>
    have hlooked := World.look_now_le_deadline hdeadline hnow hlook
    exact World.pause_now_le_deadline hdeadline (hremarked hlooked) hpause

end Wait

/-! ## 3. Calls that are apart -/

/-- Between the answer to each call and the next call there is this much time. -/
def Apart {q : Query I α} (gap : Nat) (calls : List q.Call) : Prop :=
  calls.Pairwise fun c c' => c.arrival + gap ≤ c'.time

namespace Apart

variable {q : Query I α} {gap : Nat} {c : q.Call} {calls : List q.Call}

/-- The calls that are apart and begin before a given time take the gaps between them. -/
theorem add_length_mul_lt {finish : Nat} (h : Apart gap (c :: calls))
    (hbefore : ∀ d ∈ c :: calls, d.time < finish) : c.time + calls.length * gap < finish := by
  induction calls generalizing c with
  | nil =>
    rw [List.length_nil, Nat.zero_mul, Nat.add_zero]
    exact hbefore c List.mem_cons_self
  | cons d rest ih =>
    obtain ⟨hfirst, hrest⟩ := List.pairwise_cons.1 h
    have hgap : c.time + gap ≤ d.time := by
      have := hfirst d List.mem_cons_self
      unfold Query.Call.arrival at this
      omega
    have hlater := ih hrest fun d hd => hbefore d (List.mem_cons_of_mem c hd)
    rw [List.length_cons, Nat.succ_mul]
    omega

/-- **With some time between them, there are no more calls than there is time.** -/
theorem length_le {start duration : Nat} (h : Apart gap calls) (hgap : 1 ≤ gap)
    (hin : ∀ d ∈ calls, start ≤ d.time ∧ d.time < start + duration) :
    calls.length ≤ duration := by
  cases calls with
  | nil => exact Nat.zero_le duration
  | cons c rest =>
    have hlt := h.add_length_mul_lt fun d hd => (hin d hd).2
    have hstart := (hin c List.mem_cons_self).1
    have hmul := Nat.le_mul_of_pos_right rest.length hgap
    rw [List.length_cons]
    omega

end Apart

namespace Policy

/-- The number of ticks, begun or whole, from the first look to the deadline. -/
def mostLooks (p : Policy) : Nat := (p.timeout - p.initialDelay) ⌈/⌉ p.tick

variable {p : Policy}

/-- There is time for look `k` if it begins before the deadline when those before it take no
time. -/
theorem lt_mostLooks_iff (htick : 1 ≤ p.tick) {k : Nat} :
    k < p.mostLooks ↔ p.initialDelay + k * p.tick < p.timeout := by
  have hceil : p.mostLooks ≤ k ↔ p.timeout - p.initialDelay ≤ p.tick * k :=
    ceilDiv_le_iff_le_smul htick
  rw [← Nat.not_le, hceil, Nat.mul_comm]
  omega

theorem mostLooks_eq_zero (htick : 1 ≤ p.tick) (h : p.timeout ≤ p.initialDelay) :
    p.mostLooks = 0 := by
  refine Nat.eq_zero_of_not_pos fun hpos => ?_
  have hfirst := (lt_mostLooks_iff htick).1 hpos
  omega

theorem mostLooks_le (htick : 1 ≤ p.tick) {n : Nat} (h : p.timeout ≤ n * p.tick) :
    p.mostLooks ≤ n := by
  refine Nat.le_of_not_lt fun hlt => ?_
  have hlate := (lt_mostLooks_iff htick).1 hlt
  omega

end Policy

/-! ## 4. Whole waits -/

namespace Wait

variable [RemoteFailure ε] (s : Wait) (R : Remote I σ) (operation : Operation)
  (query : Query I (Except ε Reading)) (watch : Watch)

/-- Looks on the way from one world to another, a tick apart and in time. -/
def PacedOver (w w' : World I σ) (looks : List query.Call) : Prop :=
  w.Leads (looks.map Query.Call.exchange) w' ∧ Apart s.policy.tick looks ∧
    ∀ c ∈ looks, watch.expired c.time = false

theorem rounds_paced (fuel : Nat) (looks : UInt32) (warned : List String) (w : World I σ) :
    ∃ made, s.PacedOver query watch w
      ((s.rounds R operation query watch fuel looks warned).runIn w).2 made := by
  refine s.rounds_rec (motive := fun _ _ w _ w' => ∃ made, s.PacedOver query watch w w' made) R
    operation query watch ?_ ?_ ?_ fuel looks warned w
  · intro _ _ w
    exact ⟨[], .refl w, .nil, fun c hc => absurd hc List.not_mem_nil⟩
  · intro _ _ w w' _ hturn
    rcases hturn.leads with hleads | ⟨hopen, hleads⟩
    · exact ⟨[], hleads, .nil, fun c hc => absurd hc List.not_mem_nil⟩
    · refine ⟨[w.callOf R query], hleads, List.pairwise_singleton _ _, fun c hc => ?_⟩
      rw [List.mem_singleton.1 hc]
      exact hopen
  · rintro _ _ w w₁ _ _ w' hturn ⟨made, hleads, hapart, hintime⟩
    obtain ⟨hfirst, hopen, hnow, -⟩ := hturn.next_now
    refine ⟨w.callOf R query :: made, hfirst.trans hleads, List.pairwise_cons.2 ⟨?_, hapart⟩, ?_⟩
    · -- The later looks come after the pause.
      intro c hc
      have hbetween := hleads.between c.exchange (List.mem_map_of_mem hc)
      rw [← hnow]
      exact hbetween.1
    · intro c hc
      rcases List.mem_cons.1 hc with rfl | hc
      · exact hopen
      · exact hintime c hc

variable {watch}

/-- By induction on the rounds that are left, of which each takes a tick. -/
theorem rounds_end (htick : 1 ≤ s.policy.tick) {deadline : Nat}
    (hdeadline : watch.deadline = some deadline) {fuel : Nat} {looks : UInt32}
    {warned : List String} {w : World I σ} (hnow : w.now ≤ deadline)
    (hfuel : deadline < w.now + fuel) :
    ∃ outcome w', (s.rounds R operation query watch fuel looks warned).runIn w =
        (some outcome, w') ∧ w'.now ≤ deadline := by
  induction fuel generalizing looks warned w with
  | zero => omega
  | succ fuel ih =>
    obtain ⟨result, w₁, hround, hturn⟩ := s.exists_turn R operation query watch looks warned w
    have hle := hturn.now_le_deadline hdeadline hnow
    unfold rounds
    rw [Act.runIn_bind_of_some hround]
    cases result with
    | inl outcome => exact ⟨outcome, w₁, rfl, hle⟩
    | inr warned₁ =>
      -- The tick pays for the fuel that the round used.
      obtain ⟨-, -, hnext, -⟩ := hturn.next_now
      have harrival : w.now ≤ (w.callOf R query).arrival := Nat.le_add_right _ _
      exact ih hle (by omega)

/-- **The looks of a wait are a tick apart, and none begins before the initial delay is
over or after the time is.** -/
theorem run_paced (w : World I σ) :
    ∃ looks : List query.Call,
      w.Leads (looks.map Query.Call.exchange) ((s.run R operation query).runIn w).2 ∧
      Apart s.policy.tick looks ∧
      ∀ c ∈ looks, w.now + s.policy.initialDelay ≤ c.time ∧ c.time < w.now + s.policy.timeout := by
  cases hpause : w.pause (s.watchFrom w.now) s.policy.initialDelay with
  | mk cause w₁ =>
    have hfirst := World.leads_of_pause hpause
    cases cause with
    | some cause =>
      rw [s.runIn_run_of_cut hpause]
      exact ⟨[], hfirst.trans (World.leads_note _ _), .nil, fun c hc => absurd hc List.not_mem_nil⟩
    | none =>
      rw [s.runIn_run_of_open hpause]
      obtain ⟨made, hleads, hapart, hintime⟩ := s.rounds_paced R operation query
        (s.watchFrom w.now) (s.policy.timeout + R.unplayed w.remote + 1) 0 [] w₁
      refine ⟨made, hfirst.trans hleads, hapart, fun c hc => ?_⟩
      have hstart := (World.pause_eq_none _ hpause).1
      have hbetween := hleads.between c.exchange (List.mem_map_of_mem hc)
      have hopen := hintime c hc
      rw [Watch.expired, watchFrom, Option.any_some, decide_eq_false_iff_not] at hopen
      exact ⟨by rw [← hstart]; exact hbetween.1, by omega⟩

omit [RemoteFailure ε] in
/-- Looks that are a tick apart and in time are no more than the ticks there is time for. -/
theorem length_le_mostLooks (htick : 1 ≤ s.policy.tick) {looks : List query.Call} {start : Nat}
    (hapart : Apart s.policy.tick looks)
    (hin : ∀ c ∈ looks,
      start + s.policy.initialDelay ≤ c.time ∧ c.time < start + s.policy.timeout) :
    looks.length ≤ s.policy.mostLooks := by
  cases looks with
  | nil => exact Nat.zero_le _
  | cons c rest =>
    have hlast := hapart.add_length_mul_lt fun d hd => (hin d hd).2
    have hfirst := (hin c List.mem_cons_self).1
    rw [List.length_cons, Nat.succ_le_iff, Policy.lt_mostLooks_iff htick]
    omega

variable {s R operation query} in
/-- So the looks of a wait are no more than that. -/
theorem run_length_le (htick : 1 ≤ s.policy.tick) {w w' : World I σ} {o : Option Outcome}
    (h : (s.run R operation query).runIn w = (o, w')) {looks : List query.Call}
    (hleads : w.Leads (looks.map Query.Call.exchange) w') :
    looks.length ≤ s.policy.mostLooks := by
  obtain ⟨made, hmade, hapart, hin⟩ := s.run_paced R operation query w
  rw [h] at hmade
  rw [hleads.calls_unique hmade]
  exact s.length_le_mostLooks query htick hapart hin

/-- **With a tick of some length, every wait ends, and by its deadline.** -/
theorem run_ends (htick : 1 ≤ s.policy.tick) (w : World I σ) :
    ∃ outcome w', (s.run R operation query).runIn w = (some outcome, w') ∧
      w'.now ≤ w.now + s.policy.timeout := by
  cases hpause : w.pause (s.watchFrom w.now) s.policy.initialDelay with
  | mk cause w₁ =>
    have hle := World.pause_now_le_deadline rfl (Nat.le_add_right _ _) hpause
    have hfirst := (World.leads_of_pause hpause).now_le
    cases cause with
    | some cause => exact ⟨.timedOut cause, w₁.note (.gaveUp 0), s.runIn_run_of_cut hpause, hle⟩
    | none =>
      rw [s.runIn_run_of_open hpause]
      have hfuel : w.now + s.policy.timeout <
          w₁.now + (s.policy.timeout + R.unplayed w.remote + 1) := by omega
      exact s.rounds_end R operation query htick rfl hle hfuel

/-! ## 5. A tick of no length -/

variable {s R operation query}

variable (s R operation query watch) in
/-- From a state on, the remote side answers at once, and no answer settles the matter or
cancels. -/
structure Stalled (state : σ) : Prop where
  delay : ∀ k, (R.answer query.request (R.after query.request state k)).1.delay = 0
  cancels : watch.heeds = true →
    ∀ k, (R.answer query.request (R.after query.request state k)).1.cancels = false
  verdict : ∀ k, s.policy.verdict operation
    (query.read (R.answer query.request (R.after query.request state k)).1.response) = none

/-- It is stalled after the next answer too. -/
theorem Stalled.next {state : σ} (h : s.Stalled R operation query watch state) :
    s.Stalled R operation query watch (R.answer query.request state).2 := by
  have hlater (k : Nat) : R.after query.request (R.answer query.request state).2 k =
      R.after query.request state (1 + k) :=
    R.after_add query.request state 1 k
  constructor
  · intro k
    rw [hlater]
    exact h.delay _
  · intro hheeds k
    rw [hlater]
    exact h.cancels hheeds _
  · intro k
    rw [hlater]
    exact h.verdict _

/-- By induction on the rounds that are left: none of them moves the clock or fires the token, so
the next one is as free to look as the one before it. -/
theorem rounds_endless {fuel : Nat} {looks : UInt32} {warned : List String} {w : World I σ}
    (hstalled : s.Stalled R operation query watch w.remote) (htick : s.policy.tick = 0)
    (hopen : watch.heeds = true → w.token.fired = false) (hintime : watch.expired w.now = false) :
    ((s.rounds R operation query watch fuel looks warned).runIn w).1 = none := by
  induction fuel generalizing looks warned w with
  | zero => rfl
  | succ fuel ih =>
    let answer := (R.answer query.request w.remote).1
    let looked := (w.ask R query.request).2.deliver answer
    have hlook : w.look R watch query = (.ok (query.read answer.response), looked) := by
      have harrives : (w.ask R query.request).2.pause watch answer.delay =
          (none, (w.ask R query.request).2) := by
        rw [show answer.delay = 0 from hstalled.delay 0]
        exact World.pause_zero hopen hintime
      exact World.look_of_arrival harrives
    have hunfired (hheeds : watch.heeds = true) : looked.token.fired = false := by
      rw [show looked = _ from World.deliver_eq_self (hstalled.cancels hheeds 0)]
      exact hopen hheeds
    have hpause (remark : Option Notice) :
        (looked.remarked remark).pause watch s.policy.tick = (none, looked.remarked remark) := by
      rw [htick]
      refine World.pause_zero (fun hheeds => ?_) ?_
      · rw [World.remarked_token]
        exact hunfired hheeds
      · rw [World.remarked_now, World.deliver_now]
        exact hintime
    have hround : (s.round R operation query watch looks warned).runIn w = (some (.inr _), _) :=
      s.runIn_round_of_next (World.pause_zero hopen hintime) hlook (hstalled.verdict 0)
        (hpause _)
    unfold rounds
    rw [Act.runIn_bind_of_some hround]
    refine ih ?_ (fun hheeds => ?_) ?_
    · rw [World.remarked_remote, World.deliver_remote]
      exact hstalled.next
    · rw [World.remarked_token]
      exact hunfired hheeds
    · rw [World.remarked_now, World.deliver_now]
      exact hintime

/-- **With a tick of no length, a wait on a resource that answers at once and never settles does
not end**, however little time it has. -/
theorem run_endless {w : World I σ}
    (hstalled : s.Stalled R operation query (s.watchFrom w.now) w.remote)
    (htick : s.policy.tick = 0) (hdelay : s.policy.initialDelay < s.policy.timeout)
    (hcalm : s.heeds = true → w.token.fired = false ∧ w.token.due = none) :
    ((s.run R operation query).runIn w).1 = none := by
  have hopen (t : Nat) (ht : t < s.policy.timeout) :
      (s.watchFrom w.now).expired (w.now + t) = false := by
    rw [Watch.expired, watchFrom, Option.any_some, decide_eq_false_iff_not]
    omega
  have hpause : w.pause (s.watchFrom w.now) s.policy.initialDelay = _ :=
    World.pause_calm s.policy.initialDelay (fun hheeds => (hcalm hheeds).1)
      (hopen 0 (Nat.zero_lt_of_lt hdelay))
      (fun hheeds t hdue => by rw [(hcalm hheeds).2] at hdue; cases hdue)
  rw [hopen _ hdelay, if_neg Bool.false_ne_true, World.cap_of_not_expired (hopen _ hdelay)]
    at hpause
  rw [s.runIn_run_of_open hpause]
  refine rounds_endless ?_ htick (fun hheeds => ?_) ?_
  · rw [World.sleepUntil_remote]
    exact hstalled
  · have hquiet : w.token.alarm? (w.now + s.policy.initialDelay) = none :=
      Token.alarm?_eq_none fun t hdue => by rw [(hcalm hheeds).2] at hdue; cases hdue
    rw [World.sleepUntil_token hquiet]
    exact (hcalm hheeds).1
  · rw [World.sleepUntil_now (Nat.le_add_right _ _)]
    exact hopen _ hdelay

end Wait

end Settle
