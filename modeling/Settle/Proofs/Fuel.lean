/-
The bound on the rounds of a wait.

`poll` goes round until an answer, the deadline or the caller ends it, and nothing
counts its rounds. `Wait.run` gives up as endless after as many rounds as there is time,
and as many more as `Remote.unplayed` says. This module shows that the bound ends no
wait that would have ended without it: `Wait.run_eq_some_iff`.

With a tick of some length the clock sees to that (`Wait.rounds_end`). With none it may
stand still, and then `unplayed` has to be adequate: no request puts an answer back, and
one that uses none up gets the same answer ever after. That is `Remote.RunsDown`.

Section 2 is about one round: a round that moves nothing and will hear the same answer
again is repeated for ever. Section 3 puts the rounds together, by induction on a fuel
that covers the time and the answers that are left. Sections 4 and 5 show that a
rehearsal and a cloud in memory run down.
-/
import Settle.Proofs.Cloud.Sandbox
import Settle.Proofs.Heeding
import Settle.Proofs.Pace
import Settle.Rehearsal

set_option autoImplicit false

namespace Settle

variable {I : Interface} {σ ε α : Type}

/-! ## 1. Remote sides that run down -/

namespace Remote

/-- From this state on a request gets the same answer every time. -/
def Repeats (R : Remote I σ) (q : I.Request) (state : σ) : Prop :=
  ∀ k, (R.answer q (R.after q state k)).1 = (R.answer q state).1

/-- Answers are used up and never put back, and a request that uses none up repeats. -/
structure RunsDown (R : Remote I σ) : Prop where
  unplayed_le : ∀ q state, R.unplayed (R.answer q state).2 ≤ R.unplayed state
  repeats : ∀ q state, R.unplayed (R.answer q state).2 = R.unplayed state → R.Repeats q state

variable {R : Remote I σ} {q : I.Request}

/-- A request repeats if something that fixes its answer is kept by it. -/
theorem repeats_of_kept {P : σ → Prop} {state : σ} (answer : Answer (I.Response q))
    (hstate : P state) (hkept : ∀ state, P state → P (R.answer q state).2)
    (hanswer : ∀ state, P state → (R.answer q state).1 = answer) : R.Repeats q state := by
  have hafter (k : Nat) : P (R.after q state k) := by
    induction k with
    | zero => exact hstate
    | succ k ih => exact hkept _ ih
  intro k
  rw [hanswer _ (hafter k), hanswer _ hstate]

end Remote

/-! ## 2. Rounds that repeat -/

namespace World

variable {w w' : World I σ} {watch : Watch}

theorem pause_remote (w : World I σ) (watch : Watch) (duration : Nat) :
    (w.pause watch duration).2.remote = w.remote := by
  rcases w.pause_snd_cases watch duration with h | ⟨wake, h⟩ | ⟨t, h⟩
  · rw [h]
  · rw [h, sleepUntil_remote]
  · rw [h]

theorem look_remote (w : World I σ) (R : Remote I σ) (watch : Watch) (q : Query I α) :
    (w.look R watch q).2.remote = (R.answer q.request w.remote).2 := by
  have hpaused := (w.ask R q.request).2.pause_remote watch
    (R.answer q.request w.remote).1.delay
  rcases w.look_snd_cases R watch q with h | h
  · rw [h, hpaused, ask_remote]
  · rw [h, deliver_remote, hpaused, ask_remote]

/-- An answer after which the token has not fired does not cancel. -/
theorem spared_of_look {R : Remote I σ} {q : Query I α} {response : α}
    (h : w.look R watch q = (.ok response, w')) (hunfired : w'.token.fired = false) :
    (R.answer q.request w.remote).1.cancels = false := by
  refine Bool.eq_false_iff.2 fun hcancels => ?_
  cases hpause : (w.ask R q.request).2.pause watch (R.answer q.request w.remote).1.delay with
  | mk cause w₁ =>
    cases cause with
    | some cause =>
      rw [look_of_cut hpause] at h
      cases h
    | none =>
      rw [look_of_arrival hpause] at h
      have hdelivered : w₁.deliver (R.answer q.request w.remote).1 = w' := congrArg Prod.snd h
      rw [← hdelivered, deliver_eq, if_pos hcancels] at hunfired
      cases hunfired

end World

namespace Wait

variable [RemoteFailure ε] {s : Wait} {R : Remote I σ} {operation : Operation}
  {query : Query I (Except ε Reading)} {watch : Watch} {looks : UInt32}
  {warned warned' : List String} {w w' : World I σ} {outcome : Outcome}

/-- Between two rounds the remote side has answered one look. -/
theorem Turn.next_remote
    (h : s.Turn R operation query watch looks warned w (.inr warned') w') :
    w'.remote = (R.answer query.request w.remote).2 := by
  cases h with
  | @next response w₁ _ _ hlook _ hpause =>
    have hpaused := (w₁.remarked (s.policy.remark warned response)).pause_remote watch
      s.policy.tick
    rw [hpause, World.remarked_remote] at hpaused
    have hlooked := w.look_remote R watch query
    rw [hlook] at hlooked
    exact hpaused.trans hlooked

/-- A round that took no time, and whose answer repeats, finds the remote side stalled. -/
theorem Turn.stalled (h : s.Turn R operation query watch looks warned w (.inr warned') w')
    (hnow : w'.now = w.now) (hrepeats : R.Repeats query.request w.remote) :
    s.Stalled R operation query watch w.remote ∧ s.policy.tick = 0 := by
  have htime : w.now = w.now + (R.answer query.request w.remote).1.delay + s.policy.tick :=
    hnow.symm.trans h.next_now.2.2.1
  refine ⟨?_, by omega⟩
  cases h with
  | next _ hlook hverdict hpause =>
    constructor
    · intro k
      rw [hrepeats k]
      omega
    · intro hheeds k
      rw [hrepeats k]
      refine World.spared_of_look hlook (Bool.eq_false_iff.2 fun hfired => ?_)
      -- The pause after the look would not have begun.
      rw [World.pause_of_fired _ hheeds (by rw [World.remarked_token]; exact hfired)] at hpause
      cases hpause
    · intro k
      rw [hrepeats k]
      rwa [(World.look_arrives hlook).1] at hverdict

/-! ## 3. The bound is adequate -/

/-- Once some rounds have ended a wait, more of them change nothing. -/
theorem rounds_add {fuel : Nat}
    (h : (s.rounds R operation query watch fuel looks warned).runIn w = (some outcome, w'))
    (more : Nat) :
    (s.rounds R operation query watch (fuel + more) looks warned).runIn w =
      (some outcome, w') := by
  induction fuel generalizing looks warned w with
  | zero => cases h
  | succ fuel ih =>
    obtain ⟨result, w₁, hround, -⟩ := s.exists_turn R operation query watch looks warned w
    rw [show fuel + 1 + more = fuel + more + 1 by omega]
    unfold rounds at h ⊢
    rw [Act.runIn_bind_of_some hround] at h ⊢
    cases result with
    | inl outcome => exact h
    | inr warned' => exact ih h

/-- By induction on the rounds that are left, which cover the time and the answers that are: a round
uses up one of the two, or from then on all rounds are the same. -/
theorem rounds_none_of_fuel (hdown : R.RunsDown) {deadline : Nat}
    (hdeadline : watch.deadline = some deadline) {fuel : Nat} (hnow : w.now ≤ deadline)
    (hfuel : deadline + R.unplayed w.remote < w.now + fuel)
    (h : ((s.rounds R operation query watch fuel looks warned).runIn w).1 = none) (other : Nat) :
    ((s.rounds R operation query watch other looks warned).runIn w).1 = none := by
  induction fuel generalizing looks warned w other with
  | zero => omega
  | succ fuel ih =>
    obtain ⟨result, w₁, hround, hturn⟩ := s.exists_turn R operation query watch looks warned w
    unfold rounds at h
    rw [Act.runIn_bind_of_some hround] at h
    cases result with
    | inl outcome => cases h
    | inr warned₁ =>
      have hle := hdown.unplayed_le query.request w.remote
      by_cases hstays : w₁.now = w.now ∧
          R.unplayed (R.answer query.request w.remote).2 = R.unplayed w.remote
      · obtain ⟨hstalled, htick⟩ := hturn.stalled hstays.1 (hdown.repeats _ _ hstays.2)
        cases hturn with
        | next hgate _ _ _ =>
          obtain ⟨hopen, hintime⟩ := World.open_of_gate hgate
          exact rounds_endless hstalled htick hopen hintime
      · cases other with
        | zero => rfl
        | succ other =>
          have hpasses : w.now ≤ w₁.now := hturn.next_now.1.now_le
          have hbefore := hturn.now_le_deadline hdeadline hnow
          unfold rounds
          rw [Act.runIn_bind_of_some hround]
          refine ih hbefore ?_ h other
          rw [hturn.next_remote]
          omega

/-- **The bound on its rounds ends no wait.** A wait that comes to its rounds ends as some number of
them ends it, and if it does not end, no number of them ends it. -/
theorem run_eq_some_iff (hdown : 1 ≤ s.policy.tick ∨ R.RunsDown)
    (hpause : w.pause (s.watchFrom w.now) s.policy.initialDelay = (none, w')) {w'' : World I σ} :
    (s.run R operation query).runIn w = (some outcome, w'') ↔
      ∃ fuel, (s.rounds R operation query (s.watchFrom w.now) fuel 0 []).runIn w' =
        (some outcome, w'') := by
  rw [s.runIn_run_of_open hpause]
  constructor
  · intro h
    exact ⟨_, h⟩
  rintro ⟨fuel, h⟩
  have hnow : w'.now = w.now + s.policy.initialDelay := (World.pause_eq_none _ hpause).1
  have hle : w'.now ≤ w.now + s.policy.timeout :=
    World.pause_now_le_deadline rfl (Nat.le_add_right _ _) hpause
  have hremote : w'.remote = w.remote := by
    have hpaused := w.pause_remote (s.watchFrom w.now) s.policy.initialDelay
    rwa [hpause] at hpaused
  generalize hbound : s.policy.timeout + R.unplayed w.remote + 1 = bound
  cases hrun : (s.rounds R operation query (s.watchFrom w.now) bound 0 []).runIn w' with
  | mk result w₁ =>
    cases result with
    | some outcome' =>
      -- Both are what the two numbers of rounds give together.
      rw [← rounds_add hrun fuel, Nat.add_comm bound fuel]
      exact rounds_add h bound
    | none =>
      exfalso
      rcases hdown with htick | hdown
      · have hended : ∃ outcome w₂,
            (s.rounds R operation query (s.watchFrom w.now) bound 0 []).runIn w' =
              (some outcome, w₂) ∧ w₂.now ≤ w.now + s.policy.timeout :=
          s.rounds_end R operation query htick rfl hle (by omega)
        obtain ⟨outcome', w₂, hended, -⟩ := hended
        rw [hended] at hrun
        cases hrun
      · have hfuel : w.now + s.policy.timeout + R.unplayed w'.remote < w'.now + bound := by
          rw [hremote]
          omega
        have hnone := rounds_none_of_fuel hdown rfl hle hfuel (by rw [hrun]) fuel
        rw [h] at hnone
        cases hnone

end Wait

/-! ## 4. Rehearsals -/

/-- Using a script makes it shorter, or leaves it as it is. -/
theorem Script.rest_cases (script : Script α) :
    rest script = script ∨ (rest script).length < script.length := by
  match script with
  | [] => exact .inl rfl
  | [_] => exact .inl rfl
  | _ :: _ :: answers => exact .inr (Nat.lt_succ_self _)

namespace Table

theorem size_set (t : Table α) (key : String) (entries : List α) :
    (t.set key entries).size + (t.get key).length = t.size + entries.length := by
  induction t with
  | nil => simp [set, get, size]
  | cons entry rest ih =>
    obtain ⟨k, old⟩ := entry
    by_cases hk : k = key
    · simp only [set, get, size, if_pos hk]
      omega
    · simp only [set, get, size, if_neg hk]
      omega

/-- Giving a key the list that it has is no change. -/
theorem set_get_self {t : Table α} {key : String} (h : t.get key ≠ []) :
    t.set key (t.get key) = t := by
  induction t with
  | nil => exact absurd rfl h
  | cons entry rest ih =>
    obtain ⟨k, old⟩ := entry
    by_cases hk : k = key
    · simp only [set, get, if_pos hk]
    · simp only [get, if_neg hk] at h
      simp only [set, get, if_neg hk, ih h]

/-- Using the script of a key makes the table smaller, or leaves it as it is. -/
theorem skip_cases (t : Table α) (key : String) :
    t.skip key = t ∨ (t.skip key).size < t.size := by
  by_cases hnone : t.get key = []
  · exact .inl (skip_eq_self hnone)
  · rw [skip_eq, if_neg hnone]
    rcases Script.rest_cases (t.get key) with hrest | hrest
    · rw [hrest]
      exact .inl (set_get_self hnone)
    · have hsize := t.size_set key (Script.rest (t.get key))
      exact .inr (by omega)

end Table

namespace Rehearsal

/-- The next answer is used up unless it is the last. -/
theorem play_snd (q : Request) (script : Script (Cue α)) :
    (play q script).2 = Script.rest script := by
  unfold play
  rw [Script.next?_eq]
  match script with
  | [] => rfl
  | _ :: _ => rfl

theorem playAck_snd (q : Request) (script : Option (Script (Cue Ack))) :
    (playAck q script).2 = script.map Script.rest := by
  match script with
  | none => rfl
  | some script => exact congrArg some (play_snd q script)

/-- A script of acknowledgements that is used gets shorter, or stays as it is. -/
theorem rest_ack_cases (script : Option (Script (Cue Ack))) :
    script.map Script.rest = script ∨
      ((script.map Script.rest).getD []).length < (script.getD []).length := by
  match script with
  | none => exact .inl rfl
  | some script =>
    rcases Script.rest_cases script with hrest | hrest
    · exact .inl (congrArg some hrest)
    · exact .inr hrest

/-- The scripts once a request has been answered. -/
def used (r : Rehearsal) : Request → Rehearsal
  | .fetch | .status _ => { r with readings := Script.rest r.readings }
  | .call => { r with calls := Script.rest r.calls }
  | .job id => { r with jobs := r.jobs.skip id }
  | .stop _ => { r with stops := r.stops.map Script.rest }
  | .start _ => { r with starts := r.starts.map Script.rest }
  | .update _ _ => { r with updates := r.updates.map Script.rest }

theorem answer_snd (q : Request) (r : Rehearsal) : (answer q r).2 = r.used q := by
  cases q with
  | fetch | status => exact congrArg (fun readings => { r with readings }) (play_snd _ _)
  | call => exact congrArg (fun calls => { r with calls }) (play_snd _ _)
  | stop => exact congrArg (fun stops => { r with stops }) (playAck_snd _ _)
  | start => exact congrArg (fun starts => { r with starts }) (playAck_snd _ _)
  | update => exact congrArg (fun updates => { r with updates }) (playAck_snd _ _)
  | job id =>
    rw [answer, used, Table.next?_eq]
    by_cases hnone : r.jobs.get id = []
    · rw [hnone, Table.skip_eq_self hnone]
      rfl
    · obtain ⟨cue, cues, hcues⟩ := List.exists_cons_of_ne_nil hnone
      rw [hcues]
      rfl

/-- A request uses an answer up, or leaves the scripts as they are. -/
theorem used_cases (q : Request) (r : Rehearsal) :
    r.used q = r ∨ remote.unplayed (r.used q) < remote.unplayed r := by
  obtain ⟨⟩ := r
  cases q
  all_goals dsimp only [remote, used]
  -- The request uses one of the scripts, and the others count the same before and after.
  all_goals grind [Script.rest_cases, Table.skip_cases, rest_ack_cases]

/-- **A rehearsal runs down.** -/
theorem remote_runsDown : remote.RunsDown where
  unplayed_le q r := by
    rw [show (remote.answer q r).2 = r.used q from answer_snd q r]
    rcases r.used_cases q with hused | hused
    · rw [hused]
    · exact Nat.le_of_lt hused
  repeats q r hsame := by
    rw [show (remote.answer q r).2 = r.used q from answer_snd q r] at hsame
    have hused : r.used q = r := by
      rcases r.used_cases q with hused | hused
      · exact hused
      · omega
    apply Remote.repeats_of_kept (P := (· = r)) (remote.answer q r).1 rfl
    · intro state hstate
      rw [hstate]
      exact (answer_snd q r).trans hused
    · intro state hstate
      rw [hstate]

end Rehearsal

/-! ## 5. The cloud in memory -/

namespace Cloud.Sandbox

/-- A request uses an answer of its script up, or leaves the scripts as they are. -/
theorem used_cases (q : Request) (s : Sandbox) :
    s.used q = s ∨ remote.unplayed (s.used q) < remote.unplayed s := by
  obtain ⟨⟩ := s
  cases q
  all_goals dsimp only [remote, used]
  all_goals grind [Script.rest_cases, Table.skip_cases]

/-- A failure that turns a request away is used up. -/
theorem unplayed_answer_of_cons {s : Sandbox} {q : Request} {e : ApiFailure}
    {es : List ApiFailure} (h : s.waiting q = e :: es) :
    remote.unplayed (s.answer q).2 < remote.unplayed s := by
  rw [answer_of_cons h]
  rw [waiting_of_heeds (heeds_of_waiting h)] at h
  have hsize := s.failures.size_set q.operation es
  rw [h, List.length_cons] at hsize
  dsimp only [remote]
  omega

/-- A request that no failure turns away takes what it does from the scripts. -/
theorem unplayed_answer_of_nil {s : Sandbox} {q : Request} (h : s.waiting q = []) :
    remote.unplayed (s.answer q).2 = remote.unplayed (s.used q) := by
  rw [answer_of_nil h]
  cases q <;> rfl

/-- Nothing waits for a request for which nothing did before. -/
theorem waiting_answer_of_nil {s : Sandbox} {q : Request} (h : s.waiting q = []) :
    (s.answer q).2.waiting q = [] := by
  rw [answer_of_nil h]
  cases q <;> exact h

/-- **A cloud in memory runs down.** -/
theorem remote_runsDown : remote.RunsDown where
  unplayed_le q s := by
    show remote.unplayed (s.answer q).2 ≤ remote.unplayed s
    match h : s.waiting q with
    | _ :: _ => exact Nat.le_of_lt (unplayed_answer_of_cons h)
    | [] =>
      rw [unplayed_answer_of_nil h]
      rcases used_cases q s with hused | hused
      · rw [hused]
      · exact Nat.le_of_lt hused
  repeats q s hsame := by
    change remote.unplayed (s.answer q).2 = remote.unplayed s at hsame
    have hwaiting : s.waiting q = [] := by
      match h : s.waiting q with
      | [] => rfl
      | _ :: _ =>
        have hless := unplayed_answer_of_cons h
        omega
    rw [unplayed_answer_of_nil hwaiting] at hsame
    have hused : s.used q = s := by
      rcases used_cases q s with hused | hused
      · exact hused
      · omega
    have hrest : Script.rest (s.prepared q) = s.prepared q := by
      have hprepared : (s.used q).prepared q = Script.rest (s.prepared q) :=
        prepared_used_of_eq rfl
      rw [hused] at hprepared
      exact hprepared.symm
    -- The log grows, so it is not the cloud that is kept but what the answer depends on.
    apply Remote.repeats_of_kept (P := fun t => t.waiting q = [] ∧ t.prepared q = s.prepared q)
      ⟨(s.prepared q).head?.getD q.otherwise, 0, false⟩ ⟨hwaiting, rfl⟩
    · rintro t ⟨hnone, hprepared⟩
      refine ⟨waiting_answer_of_nil hnone, ?_⟩
      show (t.answer q).2.prepared q = s.prepared q
      rw [prepared_answer_of_eq hnone rfl, hprepared, hrest]
    · rintro t ⟨hnone, hprepared⟩
      have hanswer : (t.answer q).1 = (s.prepared q).head?.getD q.otherwise := by
        rw [answer_of_nil hnone, hprepared]
      exact congrArg (Answer.mk · 0 false) hanswer

end Cloud.Sandbox

end Settle
