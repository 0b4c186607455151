/-
Cancelling a petition.

A petition that nobody cancels is compared with the same petition under a token that
is due at `t`. Both run in step for as long as the calls begin by `t`: the worlds they
come to differ in the token alone, which has fired if and only if the clock is past
`t`. That is `World.clocked`, and calling and sleeping commute with it, because
nothing interrupts them. Only a pause notices the difference, and it comes after every
answer, so a call that is on its way when the token fires is still waited for.
-/
import Settle.Proofs.Petition
import Settle.Proofs.Truncation

set_option autoImplicit false

namespace Settle

variable {I : Interface} {σ ε α : Type}

/-! ## 1. Worlds with a clock set -/

namespace World

/-- The world with a token that is due at `t` and has fired if that is past. -/
def clocked (w : World I σ) (t : Nat) : World I σ :=
  { w with token := { fired := decide (t < w.now), due := some t } }

section Clocked

variable {w : World I σ} {t : Nat}

/-- A token that is not yet due is armed. -/
theorem clocked_eq_armed (h : w.now ≤ t) : w.clocked t = w.armed t := by
  have hunfired : decide (t < w.now) = false := decide_eq_false (by omega)
  unfold clocked armed
  rw [hunfired]

theorem clocked_unfired (h : w.now ≤ t) : (w.clocked t).token.fired = false :=
  decide_eq_false (by omega)

theorem clocked_fired (h : t < w.now) : (w.clocked t).token.fired = true := decide_eq_true h

/-- Time that passes makes a token fire exactly if its moment comes to be past. -/
theorem passing_clocked {wake : Nat} (h : w.now ≤ wake) :
    (w.clocked t).token.passing wake = { fired := decide (t < wake), due := some t } := by
  -- A token whose moment is past has fired already; another fires if that comes before `wake`.
  by_cases hpast : t < w.now
  · have hwake : decide (t < wake) = true := decide_eq_true (by omega)
    rw [hwake, Token.passing, Token.alarm?, if_pos (clocked_fired hpast)]
    exact congrArg (Token.mk · (some t)) (clocked_fired hpast)
  · have hunfired := clocked_unfired (Nat.le_of_not_lt hpast)
    by_cases hwake : t < wake
    · rw [decide_eq_true hwake, Token.passing, Token.alarm?_eq_some hunfired rfl hwake]
      rfl
    · have halarm : (w.clocked t).token.alarm? wake = none :=
        Token.alarm?_eq_none fun s hdue => by
          cases hdue
          omega
      rw [decide_eq_false hwake, Token.passing_eq_self halarm]
      exact congrArg (Token.mk · (some t)) hunfired

/-- The token does not interrupt a sleep. -/
theorem sleepUntil_clocked {wake : Nat} (h : w.now ≤ wake) :
    (w.clocked t).sleepUntil wake = (w.sleepUntil wake).clocked t := by
  have hpassing := passing_clocked (t := t) h
  unfold sleepUntil
  by_cases hlt : w.now < wake
  · have hlt' : (w.clocked t).now < wake := hlt
    rw [if_pos hlt, if_pos hlt', hpassing]
    rfl
  · have hlt' : ¬ (w.clocked t).now < wake := hlt
    rw [if_neg hlt, if_neg hlt']

/-- Nor a call. -/
theorem call_clocked {R : Remote I σ} {q : Query I α}
    (hsteady : (R.answer q.request w.remote).1.cancels = false) :
    (w.clocked t).call R q = ((w.call R q).1, (w.call R q).2.clocked t) := by
  have hwake : (w.ask R q.request).2.now ≤ w.now + (R.answer q.request w.remote).1.delay :=
    Nat.le_add_right _ _
  have hslept := sleepUntil_clocked (t := t) hwake
  unfold call
  simp only [ask_fst]
  -- The answer does not cancel, so what is left of a call is to sleep until it arrives.
  rw [deliver_eq_self hsteady]
  refine Prod.ext rfl ?_
  exact (deliver_eq_self hsteady).trans hslept

/-- A pause that is over by the moment at which the token is due goes as it would. -/
theorem pause_clocked {duration : Nat} (h : w.now + duration ≤ t) :
    (w.clocked t).pause ⟨true, none⟩ duration =
      (none, (w.sleepUntil (w.now + duration)).clocked t) := by
  have hunfired := clocked_unfired (show w.now ≤ t by omega)
  rw [pause_calm duration (fun _ => hunfired) rfl fun _ s hdue => by
    cases hdue
    exact h]
  exact congrArg (Prod.mk none) (sleepUntil_clocked (Nat.le_add_right _ _))

/-- A longer one is cut short at that moment, or at once if it is past. -/
theorem pause_clocked_of_lt {duration : Nat} (h : t < w.now + duration) :
    ∃ cut, (w.clocked t).pause ⟨true, none⟩ duration = (some .cancelled, cut) ∧
      cut.now = max t w.now ∧ cut.trace = w.trace ∧ cut.log = w.log := by
  by_cases hpast : t < w.now
  · have hmax : w.now = max t w.now := by omega
    exact ⟨_, pause_of_fired duration rfl (clocked_fired hpast), hmax, rfl, rfl⟩
  · have hnow : w.now ≤ t := Nat.le_of_not_lt hpast
    have hmax : t = max t w.now := by omega
    have hpause : (w.clocked t).pause ⟨true, none⟩ duration =
        (some .cancelled, { w.clocked t with now := t, token := (w.clocked t).token.fire }) :=
      pause_alarm duration rfl (clocked_unfired hnow) rfl rfl hnow h
    exact ⟨_, hpause, hmax, rfl, rfl⟩

end Clocked

end World

namespace Petition

/-! ## 2. The petition under a token -/

/-- The petition under another token. -/
def under (p : Petition I σ ε α) (token : Token) : Petition I σ ε α :=
  { p with world := { p.world with token } }

variable {p : Petition I σ ε α} {k n t : Nat} {w w' : World I σ}

variable (p) in
theorem calledAt_le_answeredAt (k : Nat) : p.calledAt k ≤ p.answeredAt k := Nat.le_add_right _ _

variable (p) in
/-- Every answer arrives before a later call is made. -/
theorem answeredAt_le_calledAt {j k : Nat} (h : j < k) : p.answeredAt j ≤ p.calledAt k := by
  induction k with
  | zero => omega
  | succ k ih =>
    have hnext : p.answeredAt k ≤ p.calledAt (k + 1) := Nat.le_add_right _ _
    have hle := p.calledAt_le_answeredAt k
    by_cases hjk : j = k
    · rw [hjk]
      exact hnext
    · have := ih (by omega)
      omega

theorem calledAt_mono {j k : Nat} (h : j ≤ k) : p.calledAt j ≤ p.calledAt k := by
  by_cases hjk : j = k
  · rw [hjk]
  · have hlt := p.answeredAt_le_calledAt (show j < k by omega)
    have hle := p.calledAt_le_answeredAt j
    omega

/-- Answers arrive in order. -/
theorem answeredAt_mono {j k : Nat} (h : j ≤ k) : p.answeredAt j ≤ p.answeredAt k := by
  by_cases hjk : j = k
  · rw [hjk]
  · have hlt := p.answeredAt_le_calledAt (show j < k by omega)
    have hle := p.calledAt_le_answeredAt k
    omega

/-- The calls of a petition that begin by `t` are those up to the last that does. -/
theorem upTo_exchanges (hk : k ≤ n) (hbegun : p.calledAt k ≤ t)
    (hafter : ∀ j, k < j → j ≤ n → t < p.calledAt j) :
    upTo t (p.exchanges (n + 1)) = p.exchanges (k + 1) := by
  refine upTo_map_range (by omega) (fun j hj => ?_) fun j hkj hj => hafter j (by omega) (by omega)
  exact Nat.le_trans (calledAt_mono (Nat.le_of_lt_succ hj)) hbegun

theorem length_exchanges (count : Nat) : (p.exchanges count).length = count := by
  rw [exchanges, List.length_map, List.length_range]

variable [RemoteFailure ε]

variable (p) in
/-- What the petition shows of itself: so many calls and notices, and the time. -/
structure Shows (calls noticed now : Nat) (w : World I σ) : Prop where
  now_eq : w.now = now
  trace_eq : w.trace.toList = p.world.trace.toList ++ p.exchanges calls
  log_eq : w.log.toList = p.world.log.toList ++ p.notices noticed

theorem Stands.shows {calls noticed now : Nat} (h : p.Stands calls noticed now w) :
    p.Shows calls noticed now w := ⟨h.now_eq, h.trace_eq, h.log_eq⟩

section Steps

variable (hheeds : p.heeds = true) (hquiet : p.Uncancelled)
include hheeds hquiet

/-! ## 3. In step with the petition that nobody cancels -/

/-- An attempt that begins by `t` is made whenever the token fires. -/
theorem Stands.attempt_clocked (h : p.Stands k k (p.calledAt k) w) (hbegun : p.calledAt k ≤ t) :
    ∃ w', p.Stands (k + 1) k (p.answeredAt k) w' ∧
      (p.attempt k).runIn (w.clocked t) = (some (p.judged k), w'.clocked t) := by
  obtain ⟨hstands, hresponse⟩ := h.call hquiet
  refine ⟨_, hstands, ?_⟩
  have hunfired : (w.clocked t).token.fired = false := World.clocked_unfired (by rwa [h.now_eq])
  have hgate : (w.clocked t).pause ⟨p.heeds, none⟩ 0 = (none, w.clocked t) :=
    World.pause_zero (fun _ => hunfired) rfl
  have hsteady : (p.remote.answer p.query.request w.remote).1.cancels = false := by
    rw [h.remote_eq]
    exact hquiet.not_cancels hheeds k
  unfold Petition.attempt judged
  rw [Retry.runIn_attempt_of_open hgate, World.call_clocked hsteady, hresponse]

section Passing

variable {e : ε} (h : p.Stands (k + 1) k (p.answeredAt k) w) (hfailed : p.response k = .error e)
include h hfailed

/-- After a call that fails for a passing reason there is time for the next if that would begin by
`t`. -/
theorem Stands.next_clocked (hnext : p.calledAt (k + 1) ≤ t) :
    ∃ w', p.Stands (k + 1) (k + 1) (p.calledAt (k + 1)) w' ∧
      ((w.clocked t).note (.retrying (k + 1) p.retry.maxAttempts (RemoteFailure.message e))).pause
        ⟨p.heeds, none⟩ p.retry.delay = (none, w'.clocked t) := by
  have hnoted := h.noted hfailed
  refine ⟨_, hnoted.sleep hquiet p.retry.delay, ?_⟩
  rw [hheeds]
  have hover : (w.note (.retrying (k + 1) p.retry.maxAttempts (RemoteFailure.message e))).now +
      p.retry.delay ≤ t := by
    rw [hnoted.now_eq]
    exact hnext
  exact World.pause_clocked hover

omit hquiet in
/-- Otherwise the pause before it is cut short. -/
theorem Stands.cut_clocked (hnext : t < p.calledAt (k + 1)) :
    ∃ w', p.Shows (k + 1) (k + 1) (max t (p.answeredAt k)) w' ∧
      ((w.clocked t).note (.retrying (k + 1) p.retry.maxAttempts (RemoteFailure.message e))).pause
        ⟨p.heeds, none⟩ p.retry.delay = (some .cancelled, w') := by
  have hnoted := h.noted hfailed
  rw [hheeds]
  have hlate : t < (w.note (.retrying (k + 1) p.retry.maxAttempts (RemoteFailure.message e))).now +
      p.retry.delay := by
    rw [hnoted.now_eq]
    exact hnext
  obtain ⟨cut, hpause, hnow, htrace, hlog⟩ := World.pause_clocked_of_lt hlate
  refine ⟨cut, ⟨?_, ?_, ?_⟩, hpause⟩
  · rw [hnow, hnoted.now_eq]
  · rw [htrace, hnoted.trace_eq]
  · rw [hlog, hnoted.log_eq]

end Passing

/-- The petition comes to every call that begins by `t` as it would without the token. By
induction on the calls before it. -/
theorem reaches_clocked (hlast : p.LastCall n) (hstart : p.world.now ≤ t) (hk : k ≤ n)
    (hbegun : p.calledAt k ≤ t) :
    ∃ left w, (p.under { due := some t }).Attempting left k (w.clocked t) ∧
      p.Stands k k (p.calledAt k) w := by
  induction k with
  | zero =>
    have hworld : (p.under { due := some t }).world = p.world.clocked t :=
      (World.clocked_eq_armed hstart).symm
    refine ⟨p.retry.maxAttempts - 1, p.world, ?_, stands_world⟩
    rw [← hworld]
    exact .first
  | succ k ih =>
    have hbefore : p.calledAt k ≤ t := Nat.le_trans (calledAt_mono (Nat.le_succ k)) hbegun
    obtain ⟨left, w, hattempting, hstands⟩ := ih (by omega) hbefore
    obtain ⟨e, hfailed, htransient⟩ := hlast.passes k (by omega)
    have hallowed := hlast.allowed
    have hcount : k + 1 + left = p.retry.maxAttempts := hattempting.count
    -- A call that is not the last one leaves at least one to come.
    obtain ⟨left, rfl⟩ : ∃ l, left = l + 1 := ⟨left - 1, by omega⟩
    obtain ⟨w', hanswered, hattempt⟩ := hstands.attempt_clocked hheeds hquiet hbefore
    rw [judged_of_passes hfailed htransient] at hattempt
    obtain ⟨w'', hstands', hpause⟩ := hanswered.next_clocked hheeds hquiet hfailed hbegun
    exact ⟨left, w'', .again hattempting hattempt hpause, hstands'⟩

/-! ## 4. How the petition ends -/

/-- A petition whose last call begins by `t` ends with its answer, whenever the token fires. -/
theorem run_of_begun (hlast : p.LastCall n) (hstart : p.world.now ≤ t) (hbegun : p.calledAt n ≤ t) :
    ∃ w, p.Shows (n + 1) n (p.answeredAt n) w ∧
      (p.under { due := some t }).run = (some (p.result n), w) := by
  obtain ⟨left, w, hattempting, hstands⟩ :=
    reaches_clocked hheeds hquiet hlast hstart (Nat.le_refl n) hbegun
  obtain ⟨w', hanswered, hattempt⟩ := hstands.attempt_clocked hheeds hquiet hbegun
  refine ⟨w'.clocked t, ⟨hanswered.now_eq, hanswered.trace_eq, hanswered.log_eq⟩, ?_⟩
  rw [hattempting.run_eq]
  -- The last call may fail for a passing reason, too: then no call is left to follow it.
  by_cases hpasses : p.Passes n
  · obtain ⟨e, hfailed, htransient⟩ := hpasses
    have hlimit := hlast.spent_of_passes ⟨e, hfailed, htransient⟩
    have hcount : n + 1 + left = p.retry.maxAttempts := hattempting.count
    obtain rfl : left = 0 := by omega
    rw [judged_of_passes hfailed htransient] at hattempt
    rw [result, hfailed]
    exact Retry.runIn_attempts_of_spent hattempt
  · rw [judged_of_not_passes hpasses] at hattempt
    exact Retry.runIn_attempts_of_end hattempt

/-- A petition one of whose calls but the last is the last to begin by `t` is over once the token
has fired and the call is answered. -/
theorem run_of_cut (hlast : p.LastCall n) (hstart : p.world.now ≤ t) (hk : k < n)
    (hbegun : p.calledAt k ≤ t) (hnext : t < p.calledAt (k + 1)) :
    ∃ w, p.Shows (k + 1) (k + 1) (max t (p.answeredAt k)) w ∧
      (p.under { due := some t }).run = (some (.error (.cancelled (k + 1))), w) := by
  obtain ⟨left, w, hattempting, hstands⟩ :=
    reaches_clocked hheeds hquiet hlast hstart (Nat.le_of_lt hk) hbegun
  obtain ⟨e, hfailed, htransient⟩ := hlast.passes k hk
  have hallowed := hlast.allowed
  have hcount : k + 1 + left = p.retry.maxAttempts := hattempting.count
  -- There is another call to come, so the retry pauses for it.
  obtain ⟨left, rfl⟩ : ∃ l, left = l + 1 := ⟨left - 1, by omega⟩
  obtain ⟨w', hanswered, hattempt⟩ := hstands.attempt_clocked hheeds hquiet hbegun
  rw [judged_of_passes hfailed htransient] at hattempt
  obtain ⟨w'', hshows, hpause⟩ := hanswered.cut_clocked hheeds hfailed hnext
  refine ⟨w'', hshows, ?_⟩
  rw [hattempting.run_eq]
  exact Retry.runIn_attempts_of_cut hattempt hpause

end Steps

/-- A token that has fired lets no call begin. -/
theorem run_of_fired (hheeds : p.heeds = true) (hfired : p.world.token.fired = true) :
    p.run = (some (.error (.cancelled 0)), p.world) := by
  have hgate : p.world.pause ⟨p.heeds, none⟩ 0 = (some .cancelled, p.world) :=
    World.pause_of_fired 0 hheeds hfired
  exact Retry.runIn_attempts_of_end (Retry.runIn_attempt_of_gate hgate)

/-! ## 5. Truncation -/

variable (p) in
/-- What cancelling does to a petition whose last call would be `n`, if the token is due at `t` and
`made` calls begin by then. -/
structure CutAt (t n made : Nat) : Prop where
  made_pos : 0 < made
  made_le : made ≤ n + 1
  /-- They are the first calls of the petition that nobody cancels. -/
  begun_eq : upTo t (p.exchanges (n + 1)) = p.exchanges made
  /-- The petition makes exactly these calls and waits for all their answers. -/
  calls_made : ∃ result w, (p.under { due := some t }).run = (some result, w) ∧
    w.trace.toList = p.world.trace.toList ++ p.exchanges made ∧
    ∀ k < made, p.calledAt k ≤ t ∧ p.answeredAt k ≤ w.now
  /-- If they are all, it ends with the last answer, although the token may have fired before. -/
  whole : made = n + 1 → ∃ w, p.Shows (n + 1) n (p.answeredAt n) w ∧
    (p.under { due := some t }).run = (some (p.result n), w) ∧
    (p.under { due := some t }).call = (some (p.given n), w)
  /-- If there would be more, it is over once the token has fired and the last of them is
  answered. -/
  cut : made ≤ n → ∃ w, p.Shows made made (max t (p.answeredAt (made - 1))) w ∧
    (p.under { due := some t }).run = (some (.error (.cancelled made)), w) ∧
    (p.under { due := some t }).call = (some (.error (.timedOut true)), w)

/-- A petition is cut at every moment from its beginning on. -/
theorem cutAt_upTo (hheeds : p.heeds = true) (hquiet : p.Uncancelled) (hlast : p.LastCall n)
    (hstart : p.world.now ≤ t) : p.CutAt t n (upTo t (p.exchanges (n + 1))).length := by
  -- The last call to begin by `t`: the first one does.
  obtain ⟨k, hk, hbegun, hafter⟩ : ∃ k ≤ n, p.calledAt k ≤ t ∧
      ∀ j, k < j → j ≤ n → t < p.calledAt j := exists_last_by n hstart
  have hbefore (j : Nat) (hj : j < k + 1) : p.calledAt j ≤ t ∧ p.answeredAt j ≤ p.answeredAt k :=
    ⟨Nat.le_trans (calledAt_mono (Nat.le_of_lt_succ hj)) hbegun,
      answeredAt_mono (Nat.le_of_lt_succ hj)⟩
  have hbegun_eq : upTo t (p.exchanges (n + 1)) = p.exchanges (k + 1) :=
    upTo_exchanges hk hbegun hafter
  rw [hbegun_eq, length_exchanges]
  rcases Nat.eq_or_lt_of_le hk with rfl | hkn
  · obtain ⟨w, hshows, hrun⟩ := run_of_begun hheeds hquiet hlast hstart hbegun
    exact
      { made_pos := Nat.succ_pos k
        made_le := Nat.le_refl _
        begun_eq := hbegun_eq
        calls_made := by
          refine ⟨_, w, hrun, hshows.trace_eq, fun j hj => ?_⟩
          rw [hshows.now_eq]
          exact hbefore j hj
        whole := fun _ => ⟨w, hshows, hrun, Act.runIn_map_of_some hrun _⟩
        cut := fun hle => absurd hle (Nat.not_succ_le_self k) }
  · have hnext := hafter (k + 1) (by omega) hkn
    obtain ⟨w, hshows, hrun⟩ := run_of_cut hheeds hquiet hlast hstart hkn hbegun hnext
    exact
      { made_pos := Nat.succ_pos k
        made_le := by omega
        begun_eq := hbegun_eq
        calls_made := by
          refine ⟨_, w, hrun, hshows.trace_eq, fun j hj => ?_⟩
          have hanswered := (hbefore j hj).2
          rw [hshows.now_eq]
          exact ⟨(hbefore j hj).1, by omega⟩
        whole := fun heq => by omega
        cut := fun _ => ⟨w, hshows, hrun, Act.runIn_map_of_some hrun _⟩ }

variable (p) in
/-- **Cancelling a retry.** A petition under a token makes the calls of the one that nobody cancels
that begin by the time the token fires, and none if it has fired before. It interrupts none of
them, and unless they are all, it ends with the cancellation and says how many they were. -/
theorem retry_cancelled (hheeds : p.heeds = true) (hquiet : p.Uncancelled) :
    ∃ n, p.LastCall n ∧
      (∃ w, p.run = (some (p.result n), w) ∧ p.Shows (n + 1) n (p.answeredAt n) w) ∧
      (∀ t, p.world.now ≤ t → p.CutAt t n (upTo t (p.exchanges (n + 1))).length) ∧
      ∀ token : Token, token.fired = true →
        (p.under token).run = (some (.error (.cancelled 0)), (p.under token).world) ∧
        (p.under token).call = (some (.error (.timedOut true)), (p.under token).world) := by
  obtain ⟨n, hlast⟩ := p.exists_lastCall
  obtain ⟨w, hstands, hrun⟩ := run_of_lastCall hquiet hlast
  refine ⟨n, hlast, ⟨w, hrun, hstands.shows⟩, fun t hstart => ?_, fun token hfired => ?_⟩
  · exact cutAt_upTo hheeds hquiet hlast hstart
  · have hrun' : (p.under token).run = _ := run_of_fired hheeds hfired
    exact ⟨hrun', Act.runIn_map_of_some hrun' _⟩

/-- The service that is busy twice, with the token due while the second call is on its way. -/
theorem retry_cancelled_busy :
    busy.heeds = true ∧ busy.Uncancelled ∧
      ∃ w, (busy.under { due := some 65 }).run = (some (.error (.cancelled 2)), w) ∧ w.now = 70 ∧
        w.trace.toList.map (·.time) = [50, 63] := by
  refine ⟨rfl, uncancelled_busy, ?_⟩
  obtain ⟨n, hlast, -, hcut, -⟩ := busy.retry_cancelled rfl uncancelled_busy
  obtain rfl := hlast.unique lastCall_busy
  -- The third call would be made at 80.
  have hmade : (upTo 65 (busy.exchanges 3)).length = 2 := by decide
  obtain ⟨w, hshows, hrun, -⟩ := (hcut 65 (by decide)).cut (by rw [hmade])
  rw [hmade] at hshows hrun
  refine ⟨w, hrun, hshows.now_eq, ?_⟩
  rw [hshows.trace_eq]
  decide

end Petition

end Settle
