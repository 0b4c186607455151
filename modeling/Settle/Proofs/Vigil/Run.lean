/-
A wait keeps to its course.

Section 1 says in what world a vigil goes on, and sections 2 and 3 take a look and
a round from such a world to the next. Section 4 puts the rounds together:
`run_of_course`.

The induction is on the number of looks still to come. It carries `Awake`, the
world at the beginning of look `k`, and needs of the fuel only that it covers the
looks: `Wait.run` gives more than the time there is, and looks are apart.
-/
import Settle.Proofs.Round
import Settle.Proofs.Vigil

set_option autoImplicit false

namespace Settle

variable {I : Interface} {σ ε : Type}

namespace Vigil

variable [RemoteFailure ε] (v : Vigil I σ ε)

/-! ## 1. Where a vigil stands -/

/-- Runs the vigil to its end. -/
def run : Option Outcome × World I σ :=
  (v.wait.run v.remote v.operation v.query).runIn v.world

/-- What a world shows of the vigil at a time: its looks and the remarks on them, each
in order after what was there before. -/
structure Shows (looks remarked now : Nat) (w : World I σ) : Prop where
  now_eq : w.now = now
  trace_eq : w.trace.toList = v.world.trace.toList ++ v.exchanges looks
  log_eq : w.log.toList = v.world.log.toList ++ v.remarks remarked
  remote_eq : w.remote = v.state looks

/-- A world in which the vigil goes on: it is before the deadline, and a token that
counts is as it was at first. -/
structure Awake (looks remarked now : Nat) (w : World I σ) : Prop
    extends v.Shows looks remarked now w where
  intime : now < v.deadline
  token_eq : v.wait.heeds = true → w.token = v.world.token

/-- The notice with which a vigil ends. -/
def closing (outcome : Outcome) (looks : UInt32) : Notice :=
  match outcome with
  | .timedOut _ => .gaveUp looks
  | _ => .finished looks

/-- The round of look `k`, whose number is counted in 32 bits. -/
def round (k : Nat) : Act I σ (Outcome ⊕ List String) :=
  v.wait.round v.remote v.operation v.query v.watch (.ofNat k) (v.warned k)

section Steps

variable {v} {k : Nat} {w w' : World I σ}

/-- A verdict is noted as the end of the vigil. -/
theorem closing_of_verdict {outcome : Outcome} (h : v.verdict k = some outcome)
    (looks : UInt32) :
    closing outcome looks = .finished looks := by
  cases outcome with
  | timedOut cause => exact absurd h (Policy.verdict_ne_timedOut _ _ _ _)
  | converged status => rfl
  | failed reason fault kind => rfl

/-- Time passes in a world and changes nothing else that the vigil shows. -/
theorem Shows.at {looks remarked now wake : Nat} (h : v.Shows looks remarked now w)
    (hnow : w'.now = wake) (htrace : w'.trace = w.trace) (hlog : w'.log = w.log)
    (hremote : w'.remote = w.remote) : v.Shows looks remarked wake w' :=
  ⟨hnow, by rw [htrace, h.trace_eq], by rw [hlog, h.log_eq], by rw [hremote, h.remote_eq]⟩

/-- A vigil begins awake: a policy that makes sense gives it some time. -/
theorem awake_world : v.Awake 0 0 v.world.now v.world where
  now_eq := rfl
  trace_eq := (List.append_nil _).symm
  log_eq := (List.append_nil _).symm
  remote_eq := rfl
  intime := Nat.lt_add_of_pos_right (Policy.timeout_pos v.wait.policy.valid)
  token_eq _ := rfl

section Awake

variable {looks remarked now duration : Nat} (h : v.Awake looks remarked now w)
include h

theorem Awake.unfired (hunfired : v.wait.heeds = true → v.world.token.fired = false) :
    v.watch.heeds = true → w.token.fired = false := by
  intro hheeds
  rw [h.token_eq hheeds]
  exact hunfired hheeds

theorem Awake.not_expired : v.watch.expired w.now = false := by
  have := h.intime
  rw [watch_expired, h.now_eq, decide_eq_false_iff_not]
  omega

/-- A pause that the deadline cuts short ends there. -/
theorem Awake.pause_late (hcalm : v.CalmUntil v.deadline) (hlate : v.deadline ≤ now + duration) :
    ∃ w', v.Shows looks remarked v.deadline w' ∧
      w.pause v.watch duration = (some .deadline, w') := by
  have hcap : v.watch.cap (w.now + duration) = v.deadline := by
    rw [watch_cap, h.now_eq]
    omega
  have hexpired : v.watch.expired (w.now + duration) = true := by
    rw [watch_expired, h.now_eq, decide_eq_true hlate]
  have hdue : v.wait.heeds = true → ∀ t, w.token.due = some t → v.deadline ≤ t := by
    intro hheeds t hdue
    rw [h.token_eq hheeds] at hdue
    exact hcalm.le_due hheeds hdue
  -- A token due at the deadline itself leaves it to the deadline.
  have hpause := World.pause_calm duration (h.unfired hcalm.unfired) h.not_expired
    (by rw [hcap]; exact hdue)
  rw [hcap, hexpired, if_pos rfl] at hpause
  have hintime := h.intime
  refine ⟨_, h.toShows.at (World.sleepUntil_now ?_) ?_ ?_ ?_, hpause⟩
  · rw [h.now_eq]
    omega
  · exact World.sleepUntil_trace _ _
  · exact World.sleepUntil_log _ _
  · exact World.sleepUntil_remote _ _

/-- A pause that nothing cuts short ends after its duration. -/
theorem Awake.pause_over (hcalm : v.CalmUntil (now + duration))
    (hintime : now + duration < v.deadline) :
    ∃ w', v.Awake looks remarked (now + duration) w' ∧
      w.pause v.watch duration = (none, w') := by
  have hcap : v.watch.cap (w.now + duration) = now + duration := by
    rw [watch_cap, h.now_eq]
    omega
  have hexpired : v.watch.expired (w.now + duration) = false := by
    rw [watch_expired, h.now_eq, decide_eq_false_iff_not]
    omega
  have hdue : v.wait.heeds = true → ∀ t, w.token.due = some t → now + duration ≤ t := by
    intro hheeds t hdue
    rw [h.token_eq hheeds] at hdue
    exact hcalm.le_due hheeds hdue
  have hpause := World.pause_calm duration (h.unfired hcalm.unfired) h.not_expired
    (by rw [hcap]; exact hdue)
  rw [hcap, hexpired, if_neg Bool.false_ne_true] at hpause
  refine ⟨_, ⟨h.toShows.at (World.sleepUntil_now ?_) ?_ ?_ ?_, hintime, ?_⟩, hpause⟩
  · rw [h.now_eq]
    omega
  · exact World.sleepUntil_trace _ _
  · exact World.sleepUntil_log _ _
  · exact World.sleepUntil_remote _ _
  · intro hheeds
    rw [World.sleepUntil_token (Token.alarm?_eq_none (hdue hheeds)), h.token_eq hheeds]

/-- A pause in which the token fires ends there and then. -/
theorem Awake.pause_fires (hheeds : v.wait.heeds = true)
    (hunfired : v.world.token.fired = false) {t : Nat} (hdue : v.world.token.due = some t)
    (hnow : now ≤ t) (hover : t < now + duration) (hintime : t < v.deadline) :
    ∃ w', v.Shows looks remarked t w' ∧ w.pause v.watch duration = (some .cancelled, w') := by
  have hcap : t < v.watch.cap (w.now + duration) := by
    rw [watch_cap, h.now_eq]
    omega
  rw [← h.token_eq hheeds] at hunfired hdue
  rw [← h.now_eq] at hnow
  refine ⟨_, ?_, World.pause_alarm duration hheeds hunfired h.not_expired hdue hnow hcap⟩
  exact h.toShows.at rfl rfl rfl rfl

end Awake

/-! ## 2. A look -/

section Look

variable (h : v.Awake k k (v.askedAt k) w)
include h

/-- Asking is the first thing a look does. -/
theorem Awake.ask :
    v.Awake (k + 1) k (v.askedAt k) (w.ask v.remote v.query.request).2 where
  now_eq := h.now_eq
  trace_eq := by
    rw [World.ask_trace, h.trace_eq, h.remote_eq, h.now_eq, exchanges_succ, List.append_assoc]
    rfl
  log_eq := h.log_eq
  remote_eq := by
    rw [World.ask_remote, h.remote_eq]
    rfl
  intime := h.intime
  token_eq := h.token_eq

/-- The answer to the question is the one that is expected. -/
theorem Awake.answer_eq : (v.remote.answer v.query.request w.remote).1 = v.answer k := by
  rw [h.remote_eq]
  rfl

/-- A look whose answer comes too late is cut off at the deadline. -/
theorem Awake.look_late (hcalm : v.CalmUntil v.deadline) (hlate : v.deadline ≤ v.arrivesAt k) :
    ∃ w', v.Shows (k + 1) k v.deadline w' ∧
      w.look v.remote v.watch v.query = (.error .deadline, w') := by
  obtain ⟨w', hshows, hpause⟩ := h.ask.pause_late hcalm hlate
  rw [← h.answer_eq] at hpause
  exact ⟨w', hshows, World.look_of_cut hpause⟩

/-- A look whose answer arrives in time gives what was asked for. -/
theorem Awake.look_arrives (hcalm : v.CalmUntil (v.arrivesAt k))
    (hintime : v.arrivesAt k < v.deadline) :
    ∃ w', v.Awake (k + 1) k (v.arrivesAt k) w' ∧
      w.look v.remote v.watch v.query = (.ok (v.response k), w'.deliver (v.answer k)) := by
  obtain ⟨w', hawake, hpause⟩ := h.ask.pause_over hcalm hintime
  rw [← h.answer_eq] at hpause
  have hlook := World.look_of_arrival hpause
  rw [h.answer_eq] at hlook
  exact ⟨w', hawake, hlook⟩

/-- A look during which the token fires is cut off there and then. -/
theorem Awake.look_fires (hheeds : v.wait.heeds = true)
    (hunfired : v.world.token.fired = false) {t : Nat} (hdue : v.world.token.due = some t)
    (hasked : v.askedAt k ≤ t) (harrives : t < v.arrivesAt k) (hintime : t < v.deadline) :
    ∃ w', v.Shows (k + 1) k t w' ∧ w.look v.remote v.watch v.query = (.error .cancelled, w') := by
  obtain ⟨w', hshows, hpause⟩ := h.ask.pause_fires hheeds hunfired hdue hasked harrives hintime
  rw [← h.answer_eq] at hpause
  exact ⟨w', hshows, World.look_of_cut hpause⟩

end Look

/-- Delivering an answer shows nowhere but in the token. -/
theorem Shows.deliver {looks remarked now : Nat} (h : v.Shows looks remarked now w) {α : Type}
    (a : Answer α) : v.Shows looks remarked now (w.deliver a) := by
  refine h.at ?_ (World.deliver_trace w a) (World.deliver_log w a) (World.deliver_remote w a)
  rw [World.deliver_now, h.now_eq]

theorem Awake.deliver {looks remarked now : Nat} (h : v.Awake looks remarked now w) {α : Type}
    {a : Answer α} (hquiet : v.wait.heeds = true → a.cancels = false) :
    v.Awake looks remarked now (w.deliver a) where
  toShows := h.toShows.deliver a
  intime := h.intime
  token_eq hheeds := by rw [World.deliver_eq_self (hquiet hheeds), h.token_eq hheeds]

/-- A remark on the latest look is added to the remarks on those before. -/
theorem Shows.remarked {looks now : Nat} (h : v.Shows looks k now w) :
    v.Shows looks (k + 1) now (w.remarked (v.remark k)) where
  now_eq := by rw [World.remarked_now, h.now_eq]
  trace_eq := by rw [World.remarked_trace, h.trace_eq]
  log_eq := by rw [World.remarked_log, h.log_eq, remarks_succ, List.append_assoc]
  remote_eq := by rw [World.remarked_remote, h.remote_eq]

theorem Awake.remarked {looks now : Nat} (h : v.Awake looks k now w) :
    v.Awake looks (k + 1) now (w.remarked (v.remark k)) where
  toShows := h.toShows.remarked
  intime := h.intime
  token_eq hheeds := by rw [World.remarked_token, h.token_eq hheeds]

/-! ## 3. A round -/

section Round

variable (h : v.Awake k k (v.askedAt k) w)
include h

/-- There is time for a look where one begins, and the token lets it. -/
theorem Awake.gate (hunfired : v.wait.heeds = true → v.world.token.fired = false) :
    w.pause v.watch 0 = (none, w) :=
  World.pause_zero (h.unfired hunfired) h.not_expired

/-- A round with which the vigil closes ends it. -/
theorem Awake.round_closes {outcome : Outcome} {remarked ending : Nat}
    (hcloses : v.Closes k outcome remarked ending) (hcalm : v.CalmUntil ending) :
    ∃ w', v.Shows (k + 1) remarked ending w' ∧
      (v.round k).runIn w = (some (.inl outcome), w'.note (closing outcome (.ofNat (k + 1)))) := by
  have hgate := h.gate hcalm.unfired
  rw [UInt32.ofNat_add]
  cases hcloses with
  | late hlate =>
    obtain ⟨w', hshows, hlook⟩ := h.look_late hcalm hlate
    exact ⟨w', hshows, v.wait.runIn_round_of_cut hgate hlook⟩
  | settled hintime hverdict =>
    obtain ⟨w', hawake, hlook⟩ := h.look_arrives hcalm hintime
    refine ⟨w'.deliver (v.answer k), hawake.toShows.deliver _, ?_⟩
    rw [closing_of_verdict hverdict]
    exact v.wait.runIn_round_of_verdict hgate hlook hverdict
  | spent hintime hverdict hnext =>
    obtain ⟨w', hawake, hlook⟩ := h.look_arrives (hcalm.mono (by omega)) hintime
    -- The pause begins awake only because this answer has not fired the token.
    have hquiet := hcalm.not_cancels (k := k) (by omega)
    obtain ⟨w'', hshows, hpause⟩ := (hawake.deliver hquiet).remarked.pause_late hcalm hnext
    exact ⟨w'', hshows, v.wait.runIn_round_of_pause hgate hlook hverdict hpause⟩

/-- A round with which the vigil continues leads to the next look. -/
theorem Awake.round_continues (htick : 1 ≤ v.wait.policy.tick) (hcontinues : v.Continues k)
    (hcalm : v.CalmUntil (v.askedAt (k + 1))) :
    ∃ w', v.Awake (k + 1) (k + 1) (v.askedAt (k + 1)) w' ∧
      (v.round k).runIn w = (some (.inr (v.warned (k + 1))), w') := by
  have hgate := h.gate hcalm.unfired
  have hlt := arrivesAt_lt_askedAt htick (show k < k + 1 by omega)
  obtain ⟨w', hawake, hlook⟩ := h.look_arrives (hcalm.mono (by omega)) hcontinues.arrives
  have hquiet := hcalm.not_cancels (k := k) hlt
  obtain ⟨w'', hawake', hpause⟩ :=
    (hawake.deliver hquiet).remarked.pause_over hcalm hcontinues.another
  exact ⟨w'', hawake', v.wait.runIn_round_of_next hgate hlook hcontinues.open_ hpause⟩

end Round

end Steps

/-! ## 4. A vigil without cancellation -/

/-- The rounds from look `k` on. -/
def rounds (fuel k : Nat) : Act I σ Outcome :=
  v.wait.rounds v.remote v.operation v.query v.watch fuel (.ofNat k) (v.warned k)

section Rounds

variable {v} {k : Nat} {w w' : World I σ} (fuel : Nat)

theorem runIn_rounds_of_end {outcome : Outcome}
    (h : (v.round k).runIn w = (some (.inl outcome), w')) :
    (v.rounds (fuel + 1) k).runIn w = (some outcome, w') :=
  Act.runIn_bind_of_some h _

theorem runIn_rounds_of_next (h : (v.round k).runIn w = (some (.inr (v.warned (k + 1))), w')) :
    (v.rounds (fuel + 1) k).runIn w = (v.rounds fuel (k + 1)).runIn w' := by
  unfold rounds
  rw [UInt32.ofNat_add k 1]
  exact Act.runIn_bind_of_some h _

/-- A look that closes a vigil does not close it before it begins. -/
theorem Closes.askedAt_le {outcome : Outcome} {remarked ending : Nat}
    (h : v.Closes k outcome remarked ending) (hk : v.askedAt k < v.deadline) :
    v.askedAt k ≤ ending := by
  cases h with
  | late _ => exact Nat.le_of_lt hk
  | settled _ _ => exact v.askedAt_le_arrivesAt _
  | spent _ _ _ => exact Nat.le_of_lt hk

/-- From look `k` on the rounds come to look `m`, if no look in between closes the
vigil and the token stays quiet. The induction is on the looks in between. -/
theorem Awake.rounds_reach (htick : 1 ≤ v.wait.policy.tick) {m : Nat}
    (hbefore : ∀ j < m, v.Continues j) (hcalm : v.CalmUntil (v.askedAt m)) {left : Nat}
    (hleft : k + left = m) (h : v.Awake k k (v.askedAt k) w) :
    ∃ w', v.Awake m m (v.askedAt m) w' ∧
      (v.rounds (left + fuel) k).runIn w = (v.rounds fuel m).runIn w' := by
  induction left generalizing k w with
  | zero =>
    rw [Nat.add_zero] at hleft
    subst hleft
    exact ⟨w, h, by rw [Nat.zero_add]⟩
  | succ left ih =>
    have hmono := askedAt_mono htick (show k + 1 ≤ m by omega)
    obtain ⟨w', hawake, hround⟩ :=
      h.round_continues htick (hbefore k (by omega)) (hcalm.mono hmono)
    obtain ⟨w'', hawake', hrounds⟩ := ih (by omega) hawake
    refine ⟨w'', hawake', ?_⟩
    rw [show left + 1 + fuel = left + fuel + 1 by omega, runIn_rounds_of_next _ hround, hrounds]

end Rounds

/-- A vigil looks at its deadline, lets the initial delay pass, and begins its rounds
with more of them than there is time for. -/
theorem run_eq :
    v.run =
      match v.world.pause v.watch v.wait.policy.initialDelay with
      | (some cause, w) => (some (.timedOut cause), w.note (.gaveUp 0))
      | (none, w) =>
        (v.rounds (v.wait.policy.timeout + v.remote.unplayed v.world.remote + 1) 0).runIn w := by
  unfold run Wait.run
  have hget : (get : Act I σ (World I σ)).runIn v.world = (some v.world, v.world) := rfl
  rw [Act.runIn_bind_of_some hget]
  simp only
  rw [Act.runIn_bind, Act.runIn_pause,
    show (⟨v.wait.heeds, some (v.world.now + v.wait.policy.timeout)⟩ : Watch) = v.watch from rfl]
  cases v.world.pause v.watch v.wait.policy.initialDelay with
  | mk cause w => cases cause <;> rfl

/-- A vigil comes to look `c` if no look before closes it and the token stays quiet so
long. Looks are apart, so they are fewer than the rounds there are. -/
theorem run_reach (htick : 1 ≤ v.wait.policy.tick) {c : Nat} (hfirst : v.askedAt 0 < v.deadline)
    (hbefore : ∀ j < c, v.Continues j) (hcalm : v.CalmUntil (v.askedAt c)) :
    ∃ fuel w, v.Awake c c (v.askedAt c) w ∧ v.run = (v.rounds (fuel + 1) c).runIn w := by
  -- Looks are at least 1 apart, and look `c` begins before the deadline.
  have hfuel : c < v.wait.policy.timeout := by
    have hle := add_le_askedAt htick c
    have hlt := askedAt_lt_deadline hfirst hbefore (Nat.le_refl c)
    have hasked : v.askedAt 0 = v.world.now + v.wait.policy.initialDelay := rfl
    have hdeadline : v.deadline = v.world.now + v.wait.policy.timeout := rfl
    omega
  obtain ⟨spare, hfuel⟩ := Nat.exists_eq_add_of_lt hfuel
  obtain ⟨w, hawake, hpause⟩ := v.awake_world.pause_over
    (hcalm.mono (askedAt_mono htick (Nat.zero_le c))) hfirst
  obtain ⟨w', hawake', hrounds⟩ := hawake.rounds_reach
    (spare + v.remote.unplayed v.world.remote + 1 + 1) htick hbefore hcalm (Nat.zero_add c)
  refine ⟨spare + v.remote.unplayed v.world.remote + 1, w', hawake', ?_⟩
  rw [run_eq, hpause]
  simp only
  rw [hfuel, show c + spare + 1 + v.remote.unplayed v.world.remote + 1 =
    c + (spare + v.remote.unplayed v.world.remote + 1 + 1) by omega, hrounds]

/-- **A vigil that nobody cancels keeps to its course.** -/
theorem run_of_course (htick : 1 ≤ v.wait.policy.tick) {looks remarked ending : Nat}
    {outcome : Outcome} (hcourse : v.Course looks remarked outcome ending)
    (hcalm : v.CalmUntil ending) :
    ∃ w, v.Shows looks remarked ending w ∧
      v.run = (some outcome, w.note (closing outcome (.ofNat looks))) := by
  cases hcourse with
  | idle hidle =>
    obtain ⟨w, hshows, hpause⟩ := v.awake_world.pause_late hcalm hidle
    exact ⟨w, hshows, by rw [run_eq, hpause]; rfl⟩
  | @looked m _ _ _ hfirst hbefore hlast =>
    have hm : v.askedAt m < v.deadline := askedAt_lt_deadline hfirst hbefore (Nat.le_refl m)
    obtain ⟨fuel, w, hawake, hrun⟩ :=
      v.run_reach htick hfirst hbefore (hcalm.mono (hlast.askedAt_le hm))
    obtain ⟨w', hshows, hround⟩ := hawake.round_closes hlast hcalm
    exact ⟨w', hshows, by rw [hrun, runIn_rounds_of_end fuel hround]⟩

end Vigil

end Settle
