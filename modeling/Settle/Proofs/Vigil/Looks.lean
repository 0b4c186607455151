/-
How many looks a vigil makes.

Look `k` begins no earlier than `k` ticks after the first one may, and it begins before the
deadline: a look that would begin at the deadline is not made. So there are no more looks
than ticks, begun or whole, between the initial delay and the timeout, `Policy.mostLooks`;
`Policy.lt_mostLooks_iff` says this of one look. A vigil whose looks are answered at once
and settle nothing makes all of them.

A vigil counts its looks in 32 bits as it makes them. `Wait.Comes` says how far it has come
at the beginning of a round, and `Comes.onPace` what holds there: the count is that of the
looks so far, and the clock has advanced by a tick for each. As there is still time, one
more look is within the bound, and so is the count after it.
-/
import Settle.Proofs.Chronicle
import Settle.Proofs.Vigil.ClosedForm

set_option autoImplicit false

namespace Settle

variable {I : Interface} {σ ε : Type}

/-! ## 1. The count -/

namespace Wait

variable {s : Wait} {query : Query I (Except ε Reading)}

variable [RemoteFailure ε]

/-- A wait that begins in `w₀` comes to a round with this count of looks, these unknown values
remarked on, and this world. -/
inductive Comes (s : Wait) (R : Remote I σ) (operation : Operation)
    (query : Query I (Except ε Reading)) (w₀ : World I σ) :
    UInt32 → List String → World I σ → Prop
  /-- The initial delay is over. -/
  | first {w : World I σ}
    (hpause : w₀.pause (s.watchFrom w₀.now) s.policy.initialDelay = (none, w)) :
    Comes s R operation query w₀ 0 [] w
  /-- The round before it has led on. -/
  | next {count : UInt32} {warned warned' : List String} {w w' : World I σ}
    (h : Comes s R operation query w₀ count warned w)
    (hround : (s.round R operation query (s.watchFrom w₀.now) count warned).runIn w =
      (some (.inr warned'), w')) :
    Comes s R operation query w₀ (count + 1) warned' w'

variable {R : Remote I σ} {operation : Operation} {w₀ w : World I σ} {count : UInt32}
  {warned : List String}

/-- A wait goes on from the rounds it comes to. It ends, so it does not run out of rounds. -/
theorem Comes.run_eq (htick : 1 ≤ s.policy.tick)
    (h : s.Comes R operation query w₀ count warned w) :
    ∃ fuel, (s.run R operation query).runIn w₀ =
      (s.rounds R operation query (s.watchFrom w₀.now) fuel count warned).runIn w := by
  induction h with
  | first hpause => exact ⟨_, s.runIn_run_of_open hpause⟩
  | next h hround ih =>
    obtain ⟨fuel, hrun⟩ := ih
    cases fuel with
    | zero =>
      obtain ⟨outcome, w', hends, -⟩ := s.run_ends R operation query htick w₀
      rw [hends] at hrun
      cases hrun
    | succ fuel =>
      refine ⟨fuel, ?_⟩
      rw [hrun, rounds, Act.runIn_bind_of_some hround]

/-- What holds at the beginning of each round, after so many looks. -/
structure OnPace (s : Wait) (query : Query I (Except ε Reading)) (w₀ : World I σ) (count : UInt32)
    (w : World I σ) (looks : List query.Call) : Prop where
  made : w₀.Leads (looks.map Query.Call.exchange) w
  count_eq : count = .ofNat looks.length
  /-- A tick has passed for each of them. -/
  clock : w₀.now + s.policy.initialDelay + looks.length * s.policy.tick ≤ w.now
  intime : w.now < w₀.now + s.policy.timeout

omit [RemoteFailure ε] in
theorem lt_of_not_expired {start t : Nat} (h : (s.watchFrom start).expired t = false) :
    t < start + s.policy.timeout := by
  rw [Watch.expired, watchFrom, Option.any_some, decide_eq_false_iff_not] at h
  omega

/-- By induction on the rounds: each makes one look, counts it, and lets a tick pass after it. -/
theorem Comes.onPace (h : s.Comes R operation query w₀ count warned w) :
    ∃ looks, s.OnPace query w₀ count w looks := by
  induction h with
  | first hpause =>
    obtain ⟨hnow, hintime⟩ := World.pause_eq_none _ hpause
    refine ⟨[], World.leads_of_pause hpause, rfl, ?_, lt_of_not_expired hintime⟩
    rw [List.length_nil]
    omega
  | @next count warned warned' w w' _ hround ih =>
    obtain ⟨result, w₁, hround', hturn⟩ :=
      s.exists_turn R operation query (s.watchFrom w₀.now) count warned w
    rw [hround] at hround'
    cases hround'
    obtain ⟨hleads, -, hnow, hintime⟩ := hturn.next_now
    obtain ⟨looks, hpace⟩ := ih
    have hlength : (looks ++ [w.callOf R query]).length = looks.length + 1 := by
      rw [List.length_append, List.length_singleton]
    refine ⟨looks ++ [w.callOf R query], ?_, ?_, ?_, lt_of_not_expired hintime⟩
    · rw [List.map_append]
      exact hpace.made.trans hleads
    · rw [hlength, hpace.count_eq, UInt32.ofNat_add]
      rfl
    · have hclock := hpace.clock
      have harrival : w.now ≤ (w.callOf R query).arrival := Nat.le_add_right _ _
      rw [hlength, Nat.succ_mul]
      omega

omit [RemoteFailure ε] in
/-- One more look is within the bound. -/
theorem OnPace.length_lt {looks : List query.Call} (htick : 1 ≤ s.policy.tick)
    (h : s.OnPace query w₀ count w looks) : looks.length < s.policy.mostLooks := by
  have hclock := h.clock
  have hintime := h.intime
  rw [Policy.lt_mostLooks_iff htick]
  omega

end Wait

/-! ## 2. Vigils that make all their looks -/

namespace Vigil

variable [RemoteFailure ε] (v : Vigil I σ ε)

/-- The looks there is time for are answered at once and settle nothing, and nothing cancels the
vigil before its time is over. -/
structure Unbroken : Prop where
  delay : ∀ k < v.wait.policy.mostLooks, (v.answer k).delay = 0
  unsettled : ∀ k < v.wait.policy.mostLooks, ∀ outcome, ¬ v.SettledBy k outcome
  calm : v.CalmUntil v.deadline

variable {v}

/-- Its looks are exactly a tick apart. -/
theorem Unbroken.askedAt_eq (h : v.Unbroken) {k : Nat} (hk : k ≤ v.wait.policy.mostLooks) :
    v.askedAt k = v.world.now + v.wait.policy.initialDelay + k * v.wait.policy.tick := by
  induction k with
  | zero =>
    rw [Nat.zero_mul]
    rfl
  | succ k ih =>
    have hdelay := h.delay k hk
    have hbefore := ih (Nat.le_of_succ_le hk)
    have hsucc := v.askedAt_succ k
    unfold arrivesAt at hsucc
    rw [Nat.succ_mul]
    omega

/-- The looks that would begin in time are those that there is time for: the first of the others is
already too late. -/
theorem Unbroken.askedAt_lt_deadline_iff (htick : 1 ≤ v.wait.policy.tick) (h : v.Unbroken)
    {k : Nat} : v.askedAt k < v.deadline ↔ k < v.wait.policy.mostLooks := by
  have hdeadline : v.deadline = v.world.now + v.wait.policy.timeout := rfl
  constructor
  · intro hintime
    refine Nat.lt_of_not_le fun hk => ?_
    have hmono := askedAt_mono htick hk
    have heq := h.askedAt_eq (Nat.le_refl _)
    have hbound := (Policy.lt_mostLooks_iff htick).not.1 (Nat.lt_irrefl v.wait.policy.mostLooks)
    omega
  · intro hk
    have heq := h.askedAt_eq (Nat.le_of_lt hk)
    have hbound := (Policy.lt_mostLooks_iff htick).1 hk
    omega

/-- Its course takes it through all the looks there is time for, to the deadline. -/
theorem Unbroken.course (htick : 1 ≤ v.wait.policy.tick) (h : v.Unbroken) :
    ∃ remarked, v.Course v.wait.policy.mostLooks remarked (.timedOut .deadline) v.deadline := by
  have hintime (k : Nat) := h.askedAt_lt_deadline_iff htick (k := k)
  have hopen (k : Nat) (hk : k < v.wait.policy.mostLooks) : v.verdict k = none :=
    not_settledBy_iff.1 (h.unsettled k hk)
  have hlate (n : Nat) (outcome : Outcome) (hverdict : v.verdict n = some outcome) :
      v.deadline ≤ v.arrivesAt n := by
    refine Nat.le_trans (Nat.le_of_not_lt fun hasked => ?_) (v.askedAt_le_arrivesAt n)
    rw [hopen n ((hintime n).1 hasked)] at hverdict
    cases hverdict
  obtain ⟨looks, remarked, hcourse, hlooks⟩ :=
    course_of_unsettled htick fun n outcome _ => hlate n outcome
  have hcount : looks = v.wait.policy.mostLooks := by
    refine eq_of_forall_lt_iff fun k => ?_
    rw [hlooks, hintime]
    exact and_iff_left_of_imp fun hk j hj => hopen j (Nat.lt_trans hj hk)
  rw [hcount] at hcourse
  exact ⟨remarked, hcourse⟩

/-- So these are all its looks, whatever it ends with. -/
theorem Unbroken.times_eq (htick : 1 ≤ v.wait.policy.tick) (h : v.Unbroken)
    {outcome : Option Outcome} {w : World I σ} (hrun : v.run = (outcome, w))
    {looks : List v.query.Call} (hleads : v.world.Leads (looks.map Query.Call.exchange) w) :
    looks.map Query.Call.time = (List.range v.wait.policy.mostLooks).map fun k =>
      v.world.now + v.wait.policy.initialDelay + k * v.wait.policy.tick := by
  obtain ⟨remarked, hcourse⟩ := h.course htick
  obtain ⟨w', hshows, hrun'⟩ := v.run_of_course htick hcourse h.calm
  rw [hrun] at hrun'
  cases hrun'
  have htrace := hleads.trace_eq
  have hexchanges : looks.map Query.Call.exchange = v.exchanges v.wait.policy.mostLooks :=
    (List.append_cancel_left (hshows.trace_eq.symm.trans htrace)).symm
  have htimes := congrArg (List.map Exchange.time) hexchanges
  unfold exchanges at htimes
  rw [List.map_map, List.map_map] at htimes
  refine htimes.trans (List.map_congr_left fun k hk => ?_)
  exact h.askedAt_eq (Nat.le_of_lt (List.mem_range.1 hk))

/-! ## 3. The looks of a vigil -/

variable (v)

/-- What there is to say about the number of looks of a vigil, when these are all. -/
structure LooksCounted (outcome : Outcome) (w : World I σ) (looks : List v.query.Call) : Prop where
  leads : v.world.Leads (looks.map Query.Call.exchange) w
  /-- The last notice tells how many they are, in 32 bits. -/
  noted : w.log.toList.getLast? = some (closing outcome (.ofNat looks.length))
  /-- There is none if the initial delay takes all the time, -/
  idle : v.wait.policy.timeout ≤ v.wait.policy.initialDelay → looks = []
  /-- else at most one for each tick, begun or whole, of the time that is left; -/
  at_most : looks.length ≤ v.wait.policy.mostLooks
  /-- and so many if they are answered at once, settle nothing and nothing cancels the vigil. -/
  every : v.Unbroken → looks.map Query.Call.time =
    (List.range v.wait.policy.mostLooks).map fun k =>
      v.world.now + v.wait.policy.initialDelay + k * v.wait.policy.tick
  /-- At the beginning of each round the vigil has made as many looks as it has counted, -/
  counts : ∀ count warned w',
    v.wait.Comes v.remote v.operation v.query v.world count warned w' →
      (∃ fuel, v.run =
        (v.wait.rounds v.remote v.operation v.query v.watch fuel count warned).runIn w') ∧
      ∃ made : List v.query.Call,
        v.world.Leads (made.map Query.Call.exchange) w' ∧ count = .ofNat made.length
  /-- and if there is no time for more ticks than 2 ^ 32 - 1, then the count is exact there, to
  count one more does not overflow, -/
  fits : v.wait.policy.timeout ≤ (2 ^ 32 - 1) * v.wait.policy.tick → ∀ count warned w',
    v.wait.Comes v.remote v.operation v.query v.world count warned w' →
      ∀ made : List v.query.Call, v.world.Leads (made.map Query.Call.exchange) w' →
        count.toNat = made.length ∧ count.toNat + 1 < 2 ^ 32
  /-- and the count in the last notice is exact as well. -/
  fits_last : v.wait.policy.timeout ≤ (2 ^ 32 - 1) * v.wait.policy.tick →
    (UInt32.ofNat looks.length).toNat = looks.length

/-- **The looks of a vigil are counted, and bounded by the ticks there is time for.** -/
theorem looks_counted (htick : 1 ≤ v.wait.policy.tick) :
    ∃ outcome w looks, v.run = (some outcome, w) ∧ v.LooksCounted outcome w looks := by
  obtain ⟨outcome, w, hrun, -⟩ := v.wait.run_ends v.remote v.operation v.query htick v.world
  obtain ⟨looks, hleads, -⟩ := v.wait.run_paced v.remote v.operation v.query v.world
  rw [hrun] at hleads
  have hbound := Wait.run_length_le htick hrun hleads
  refine ⟨outcome, w, looks, hrun, hleads, Wait.last_counts hrun hleads, ?_, hbound, ?_, ?_, ?_, ?_⟩
  · intro hlate
    rw [Policy.mostLooks_eq_zero htick hlate] at hbound
    exact List.eq_nil_of_length_eq_zero (Nat.le_zero.1 hbound)
  · intro hunbroken
    exact hunbroken.times_eq htick hrun hleads
  · intro count warned w' hcomes
    obtain ⟨made, hpace⟩ := hcomes.onPace
    exact ⟨hcomes.run_eq htick, made, hpace.made, hpace.count_eq⟩
  · intro htimeout count warned w' hcomes made hmade
    obtain ⟨made', hpace⟩ := hcomes.onPace
    rw [hmade.calls_unique hpace.made, hpace.count_eq]
    have hmost := Policy.mostLooks_le htick htimeout
    have hlength := hpace.length_lt htick
    have hexact : (UInt32.ofNat made'.length).toNat = made'.length :=
      UInt32.toNat_ofNat_of_lt' (by rw [UInt32.size]; omega)
    rw [hexact]
    exact ⟨rfl, by omega⟩
  · intro htimeout
    exact UInt32.toNat_ofNat_of_lt' (Wait.length_lt_of_timeout_le hrun hleads htimeout)

/-- A wait of 35 ms for a volume that is being built and stays so, with a look every 10 ms after
5 ms: the fourth would begin at the deadline. -/
def building : Vigil ⟨Unit, fun _ => Except Rehearsal.Failure Reading⟩ Nat Rehearsal.Failure :=
  .ofAnswers
    { volumeWait with policy := { volumeWait.policy with timeout := 35, valid := by decide } }
    .create 50 {} fun _ => { response := .ok (.of "BUILD") }

theorem answer_building (k : Nat) : building.answer k = { response := .ok (.of "BUILD") } :=
  answer_ofAnswers _ _ _ _ _ k

theorem unbroken_building : building.Unbroken where
  delay k _ := by rw [answer_building]
  unsettled k _ := by
    have hopen : building.verdict k = none := by
      unfold verdict response
      rw [answer_building]
      decide
    exact not_settledBy_iff.2 hopen
  calm := by
    refine ⟨fun _ => rfl, ?_⟩
    rintro t ⟨-, hdue | ⟨k, hcancels, -⟩⟩
    · cases hdue
    · rw [answer_building] at hcancels
      cases hcancels

theorem looks_counted_building :
    1 ≤ building.wait.policy.tick ∧ building.Unbroken ∧
      building.wait.policy.timeout ≤ (2 ^ 32 - 1) * building.wait.policy.tick ∧
      ∃ outcome w, building.run = (some outcome, w) ∧ ∃ looks : List building.query.Call,
        building.world.Leads (looks.map Query.Call.exchange) w ∧
        looks.map Query.Call.time = [55, 65, 75] ∧
        w.log.toList.getLast? = some (closing outcome 3) := by
  have htick : 1 ≤ building.wait.policy.tick := by decide
  have htimeout : building.wait.policy.timeout ≤ (2 ^ 32 - 1) * building.wait.policy.tick := by
    decide
  obtain ⟨outcome, w, looks, hrun, hcounted⟩ := looks_counted building htick
  have htimes : looks.map Query.Call.time = [55, 65, 75] := hcounted.every unbroken_building
  have hlength : looks.length = 3 := by
    have hlengths := congrArg List.length htimes
    rwa [List.length_map] at hlengths
  have hnoted := hcounted.noted
  rw [hlength] at hnoted
  exact ⟨htick, unbroken_building, htimeout, outcome, w, hrun, looks, hcounted.leads, htimes,
    hnoted⟩

end Vigil

end Settle
