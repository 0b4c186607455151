/-
Waits one after the other.

A wait keeps nothing for the next one. What it counts from is the time at which it
begins, what it remembers it forgets, and the remote side goes on where it was. So each
wait of a series does what a first wait would do on the rest of the answers, only later.

Section 1 sets a world that begins at time zero beside one in which time has passed:
`World.Resumes`. Pauses and looks lead from such a pair to another, so the two waits go
on side by side, and section 3 says what this makes of a series of waits. Section 4 is
about scripts, where the rest of the answers can be named.
-/
import Settle.Proofs.Fuel
import Settle.Proofs.Parallel
import Settle.Proofs.Notes
import Settle.Proofs.Vigil.ClosedForm

set_option autoImplicit false

namespace Settle

variable {I : Interface} {σ ε α : Type}

/-! ## 1. A world beside a later one -/

/-- The same exchange at a later time. -/
def Exchange.later (delay : Nat) (e : Exchange I) : Exchange I := { e with time := delay + e.time }

/-- The same watch with a later deadline. -/
def Watch.later (delay : Nat) (watch : Watch) : Watch :=
  { watch with deadline := watch.deadline.map (delay + ·) }

theorem Watch.later_expired (delay t : Nat) (watch : Watch) :
    (watch.later delay).expired (delay + t) = watch.expired t := by
  unfold later expired
  cases watch.deadline with
  | none => rfl
  | some deadline =>
    rw [Option.map_some, Option.any_some, Option.any_some]
    exact decide_eq_decide.2 (Nat.add_le_add_iff_left ..)

theorem Watch.later_cap (delay t : Nat) (watch : Watch) :
    (watch.later delay).cap (delay + t) = delay + watch.cap t := by
  unfold later cap
  cases watch.deadline with
  | none => rfl
  | some deadline =>
    rw [Option.map_some, Option.elim_some, Option.elim_some, Nat.add_min_add_left]

/-- A token that has not fired and is not due. -/
structure Token.Quiet (k : Token) : Prop where
  unfired : k.fired = false
  not_due : k.due = none

theorem Token.Quiet.alarm? {k : Token} (h : k.Quiet) (wake : Nat) : k.alarm? wake = none :=
  alarm?_eq_none fun t hdue => by rw [h.not_due] at hdue; cases hdue

/-- No answer to come cancels. -/
def Remote.Spares (R : Remote I σ) (q : I.Request) (state : σ) : Prop :=
  ∀ k, (R.answer q (R.after q state k)).1.cancels = false

namespace World

/-- What the second world shows is what was there at the start, followed by what the first one
shows, and nothing cancels in either. -/
structure Resumes (R : Remote I σ) (q : I.Request) (heeds : Bool) (start w v : World I σ) :
    Prop where
  now_eq : v.now = start.now + w.now
  trace_eq : v.trace.toList = start.trace.toList ++ w.trace.toList.map (Exchange.later start.now)
  log_eq : v.log.toList = start.log.toList ++ w.log.toList
  remote_eq : v.remote = w.remote
  played : w.remote = R.after q start.remote w.trace.size
  quiet : heeds = true → w.token.Quiet ∧ v.token.Quiet

namespace Resumes

variable {R : Remote I σ} {heeds : Bool} {start w v w' : World I σ}

/-- A world that begins with the same answers to come. -/
theorem refl (R : Remote I σ) (q : I.Request) (hquiet : heeds = true → start.token.Quiet) :
    Resumes R q heeds start { remote := start.remote } start where
  now_eq := rfl
  trace_eq := (List.append_nil _).symm
  log_eq := (List.append_nil _).symm
  remote_eq := rfl
  played := rfl
  quiet h := ⟨⟨rfl, rfl⟩, hquiet h⟩

section Steps

variable {q : I.Request} (h : Resumes R q heeds start w v)
include h

theorem note (n : Notice) : Resumes R q heeds start (w.note n) (v.note n) where
  now_eq := h.now_eq
  trace_eq := h.trace_eq
  log_eq := by rw [note_log, note_log, h.log_eq, List.append_assoc]
  remote_eq := h.remote_eq
  played := h.played
  quiet := h.quiet

theorem remarked (remark : Option Notice) :
    Resumes R q heeds start (w.remarked remark) (v.remarked remark) := by
  cases remark with
  | none => exact h
  | some n => exact h.note n

/-- Both sleep, the second one until later. -/
theorem sleepUntil {wake : Nat} (hwake : w.now ≤ wake) :
    Resumes R q heeds start (w.sleepUntil wake) (v.sleepUntil (start.now + wake)) := by
  have hnow := h.now_eq
  refine ⟨?_, ?_, ?_, ?_, ?_, fun hheeds => ?_⟩
  · rw [sleepUntil_now hwake, sleepUntil_now (by omega)]
  · rw [sleepUntil_trace, sleepUntil_trace, h.trace_eq]
  · rw [sleepUntil_log, sleepUntil_log, h.log_eq]
  · rw [sleepUntil_remote, sleepUntil_remote, h.remote_eq]
  · rw [sleepUntil_remote, sleepUntil_trace, h.played]
  · obtain ⟨hw, hv⟩ := h.quiet hheeds
    rw [sleepUntil_token (hw.alarm? _), sleepUntil_token (hv.alarm? _)]
    exact ⟨hw, hv⟩

/-- A pause ends for the same reason in both worlds. -/
theorem pause {watch : Watch} (hwatch : watch.heeds = heeds) {duration : Nat}
    {cause : Option Interruption} (hpause : w.pause watch duration = (cause, w')) :
    ∃ v', v.pause (watch.later start.now) duration = (cause, v') ∧
      Resumes R q heeds start w' v' := by
  have hopen : watch.heeds = true → w.token.fired = false ∧ v.token.fired = false :=
    fun hheeds => ⟨(h.quiet (hwatch ▸ hheeds)).1.unfired, (h.quiet (hwatch ▸ hheeds)).2.unfired⟩
  have hcalm {k : Token} (hk : watch.heeds = true → k.Quiet) {wake : Nat} :
      watch.heeds = true → ∀ t, k.due = some t → wake ≤ t := fun hheeds t hdue => by
    rw [(hk hheeds).not_due] at hdue
    cases hdue
  have hexpired : (watch.later start.now).expired v.now = watch.expired w.now := by
    rw [h.now_eq, Watch.later_expired]
  by_cases hover : watch.expired w.now = true
  · rw [pause_of_expired duration (fun hheeds => (hopen hheeds).1) hover] at hpause
    cases hpause
    exact ⟨v, pause_of_expired duration (fun hheeds => (hopen hheeds).2) (hexpired.trans hover), h⟩
  · have hintime := Bool.eq_false_iff.2 hover
    -- Nothing is due in either world, so both pauses go on to their end or the deadline.
    rw [pause_calm duration (fun hheeds => (hopen hheeds).1) hintime
      (hcalm fun hheeds => (h.quiet (hwatch ▸ hheeds)).1)] at hpause
    cases hpause
    have hlater : v.pause (watch.later start.now) duration = _ :=
      pause_calm duration (fun hheeds => (hopen hheeds).2) (hexpired.trans hintime)
        (hcalm fun hheeds => (h.quiet (hwatch ▸ hheeds)).2)
    rw [h.now_eq, Nat.add_assoc, Watch.later_expired, Watch.later_cap] at hlater
    exact ⟨_, hlater, h.sleepUntil (le_cap hintime (Nat.le_add_right _ _))⟩

/-- The same request is answered in the same way. -/
theorem ask : Resumes R q heeds start (w.ask R q).2 (v.ask R q).2 where
  now_eq := h.now_eq
  trace_eq := by
    rw [ask_trace, ask_trace, h.trace_eq, h.remote_eq, h.now_eq, List.map_append, List.append_assoc]
    rfl
  log_eq := h.log_eq
  remote_eq := by rw [ask_remote, ask_remote, h.remote_eq]
  played := by
    have hsize : (w.ask R q).2.trace.size = w.trace.size + 1 := Array.size_push _
    rw [ask_remote, hsize, h.played]
    rfl
  quiet := h.quiet

/-- An answer arrives that does not cancel. -/
theorem deliver {β : Type} {a : Answer β} (hcancels : heeds = true → a.cancels = false) :
    Resumes R q heeds start (w.deliver a) (v.deliver a) where
  now_eq := by rw [deliver_now, deliver_now, h.now_eq]
  trace_eq := by rw [deliver_trace, deliver_trace, h.trace_eq]
  log_eq := by rw [deliver_log, deliver_log, h.log_eq]
  remote_eq := by rw [deliver_remote, deliver_remote, h.remote_eq]
  played := by rw [deliver_remote, deliver_trace, h.played]
  quiet hheeds := by
    rw [deliver_eq_self (hcancels hheeds), deliver_eq_self (hcancels hheeds)]
    exact h.quiet hheeds

end Steps

/-- So are looks, as long as no answer cancels. -/
theorem look {query : Query I α} (h : Resumes R query.request heeds start w v)
    (hspares : heeds = true → R.Spares query.request start.remote) {watch : Watch}
    (hwatch : watch.heeds = heeds) {result : Except Interruption α}
    (hlook : w.look R watch query = (result, w')) :
    ∃ v', v.look R (watch.later start.now) query = (result, v') ∧
      Resumes R query.request heeds start w' v' := by
  have hanswer : R.answer query.request v.remote = R.answer query.request w.remote := by
    rw [h.remote_eq]
  have hcancels : heeds = true → (R.answer query.request w.remote).1.cancels = false := by
    -- It is one of the answers that the remote side had at the start.
    intro hheeds
    rw [h.played]
    exact hspares hheeds _
  cases hpause : (w.ask R query.request).2.pause watch
      (R.answer query.request w.remote).1.delay with
  | mk cause w₁ =>
    obtain ⟨v₁, hpause', h₁⟩ := h.ask.pause hwatch hpause
    rw [← hanswer] at hpause'
    cases cause with
    | some cause =>
      rw [look_of_cut hpause] at hlook
      cases hlook
      exact ⟨v₁, look_of_cut hpause', h₁⟩
    | none =>
      rw [look_of_arrival hpause] at hlook
      cases hlook
      refine ⟨v₁.deliver (R.answer query.request w.remote).1, ?_, h₁.deliver hcancels⟩
      rw [look_of_arrival hpause', hanswer]

end Resumes

end World

/-! ## 2. A wait that begins later -/

namespace Wait

variable [RemoteFailure ε] (s : Wait) {R : Remote I σ} (operation : Operation)
  {query : Query I (Except ε Reading)} {start : World I σ}

/-- The watch of a later wait is later by as much. -/
theorem watchFrom_later (start : Nat) : (s.watchFrom 0).later start = s.watchFrom start := by
  unfold watchFrom Watch.later
  rw [Option.map_some, Nat.zero_add]

section Later

variable (hquiet : s.heeds = true → start.token.Quiet)
  (hspares : s.heeds = true → R.Spares query.request start.remote)
include hquiet hspares

/-- **A wait that nobody cancels does what a first wait would do on the answers that are left, from
the time at which it begins.** -/
theorem run_resumes :
    ((s.run R operation query).runIn start).1 =
        ((s.run R operation query).runIn { remote := start.remote }).1 ∧
      World.Resumes R query.request s.heeds start
        ((s.run R operation query).runIn { remote := start.remote }).2
        ((s.run R operation query).runIn start).2 := by
  have hparallel : s.Parallel s R operation query (s.watchFrom 0) (s.watchFrom start.now)
      (World.Resumes R query.request s.heeds start) (· = ·) := by
    rw [← s.watchFrom_later start.now]
    exact
      { pause := fun hw hpause => hw.pause rfl hpause
        look := fun hw hlook => hw.look hspares rfl hlook
        note := fun n hw => hw.note n
        tick := rfl
        verdict := fun _ => rfl
        remark := by
          rintro w v warned _ response rfl hw
          exact hw.remarked _
        remember := by
          rintro warned _ response rfl
          rfl }
  exact hparallel.run rfl (.refl R query.request hquiet) rfl rfl rfl

end Later

/-! ## 3. A series of waits -/

variable (R query) in
/-- The world after waits for these operations, one after the other. -/
def series (before : List Operation) (start : World I σ) : World I σ :=
  before.foldl (fun w operation => ((s.run R operation query).runIn w).2) start

/-- After some looks the world is as quiet as before, with as many answers used up. -/
structure Played (heeds : Bool) (R : Remote I σ) (q : I.Request) (start w : World I σ) : Prop where
  remote_eq : ∃ n, w.trace.size = start.trace.size + n ∧ w.remote = R.after q start.remote n
  quiet : heeds = true → w.token.Quiet
  spares : heeds = true → R.Spares q w.remote

theorem Played.trans {heeds : Bool} {q : I.Request} {w w' : World I σ}
    (h : Played heeds R q start w) (h' : Played heeds R q w w') : Played heeds R q start w' := by
  obtain ⟨n, hsize, hremote⟩ := h.remote_eq
  obtain ⟨m, hsize', hremote'⟩ := h'.remote_eq
  refine ⟨⟨n + m, by omega, ?_⟩, h'.quiet, h'.spares⟩
  rw [hremote', hremote, Remote.after_add]

section Series

variable (hquiet : s.heeds = true → start.token.Quiet)
  (hspares : s.heeds = true → R.Spares query.request start.remote)
include hquiet hspares

theorem run_played :
    Played s.heeds R query.request start ((s.run R operation query).runIn start).2 := by
  have hresumes := (s.run_resumes operation hquiet hspares).2
  have hremote := hresumes.remote_eq.trans hresumes.played
  have hsize := congrArg List.length hresumes.trace_eq
  rw [List.length_append, List.length_map] at hsize
  refine ⟨⟨_, hsize, hremote⟩, fun hheeds => (hresumes.quiet hheeds).2, fun hheeds k => ?_⟩
  rw [hremote, Remote.after_add]
  exact hspares hheeds _

/-- By induction on the waits. -/
theorem series_played (before : List Operation) :
    Played s.heeds R query.request start (s.series R query before start) := by
  induction before generalizing start with
  | nil => exact ⟨⟨0, rfl, rfl⟩, hquiet, hspares⟩
  | cons operation rest ih =>
    have hfirst := s.run_played operation hquiet hspares
    exact hfirst.trans (ih hfirst.quiet hfirst.spares)

end Series

end Wait

/-! ## 4. Scripts -/

namespace Rehearsal

/-- The looks at the resource of a rehearsal. -/
def fetching : Query interface (Except Failure Reading) := query .fetch

/-- If no answer of the script cancels, the next one does not. -/
theorem play_cancels {α : Type} (q : Request) {script : Script (Cue α)}
    (h : ∀ cue ∈ script, cue.cancels = false) : (play q script).1.cancels = false := by
  rcases script with _ | ⟨a, _ | ⟨b, rest⟩⟩
  · rfl
  · exact h a List.mem_cons_self
  · exact h a List.mem_cons_self

variable {script : Script (Cue Reading)}

/-- After `k` looks that many answers are gone from the front of the script, but not the last. -/
theorem after_fetch (k : Nat) :
    remote.after .fetch { readings := script } k =
      { readings := script.drop (min k (script.length - 1)) } := by
  rw [← Script.iterate_rest]
  induction k with
  | zero => rfl
  | succ k ih =>
    have hnext : remote.after .fetch { readings := script } (k + 1) =
        { readings := (play .fetch (Script.rest^[k] script)).2 } :=
      congrArg (fun r => (answer .fetch r).2) ih
    rw [hnext, play_snd, Function.iterate_succ_apply']

theorem spares_fetch (h : ∀ cue ∈ script, cue.cancels = false) :
    remote.Spares .fetch { readings := script } := by
  intro k
  rw [after_fetch]
  exact play_cancels .fetch fun cue hcue => h cue (List.mem_of_mem_drop hcue)

end Rehearsal

namespace Wait

/-- **The waits of a series are independent of each other**: each does what a first wait would do on
the script without the answers that are used up, from the time at which the one before it ended. -/
theorem series_independent (s : Wait) (script : Script (Rehearsal.Cue Reading)) (token : Token)
    (hquiet : s.heeds = true → token.Quiet)
    (hspares : s.heeds = true → ∀ cue ∈ script, cue.cancels = false) (before : List Operation)
    (operation : Operation) :
    let w := s.series Rehearsal.remote Rehearsal.fetching before
      { token, remote := { readings := script } }
    let later := (s.run Rehearsal.remote operation Rehearsal.fetching).runIn w
    let first := (s.run Rehearsal.remote operation Rehearsal.fetching).runIn
      { remote := { readings := script.drop (min w.trace.size (script.length - 1)) } }
    later.1 = first.1 ∧ later.2.now = w.now + first.2.now ∧
      later.2.trace.toList =
        w.trace.toList ++ first.2.trace.toList.map (Exchange.later w.now) ∧
      later.2.log.toList = w.log.toList ++ first.2.log.toList ∧
      (1 ≤ s.policy.tick → later.1.isSome = true) := by
  intro w later first
  have hplayed : Played s.heeds Rehearsal.remote Rehearsal.fetching.request
      { token, remote := { readings := script } }
      (s.series Rehearsal.remote Rehearsal.fetching before _) :=
    s.series_played hquiet (fun hheeds => Rehearsal.spares_fetch (hspares hheeds)) before
  have hremote : w.remote =
      { readings := script.drop (min w.trace.size (script.length - 1)) } := by
    obtain ⟨n, hsize, hremote⟩ := hplayed.remote_eq
    have hcount : w.trace.size = n := hsize.trans (Nat.zero_add n)
    rw [hcount]
    exact hremote.trans (Rehearsal.after_fetch n)
  have hresumes := s.run_resumes operation hplayed.quiet hplayed.spares
  rw [hremote] at hresumes
  refine ⟨hresumes.1, hresumes.2.now_eq, hresumes.2.trace_eq, hresumes.2.log_eq, fun htick => ?_⟩
  obtain ⟨outcome, w', hrun, -⟩ := s.run_ends Rehearsal.remote operation Rehearsal.fetching htick w
  have hlater : later = (some outcome, w') := hrun
  rw [hlater]
  rfl

/-- A volume is built, and resized after that: each time it is in a state that nobody knows. -/
def volumeScript : Script (Rehearsal.Cue Reading) :=
  [{ response := .ok (.of "QUEUED"), delay := 3 }, { response := .ok (.of "ACTIVE"), delay := 2 },
    { response := .ok (.of "QUEUED"), delay := 1 }, { response := .ok (.of "ACTIVE"), delay := 4 }]

/-- The world once it is built. -/
def volumeBuilt : World Rehearsal.interface Rehearsal :=
  Vigil.volumeWait.series Rehearsal.remote Rehearsal.fetching [.create]
    { remote := { readings := volumeScript } }

/-- The wait for the resize begins at 20 with two answers left, and remarks on the state again. -/
theorem series_independent_volume :
    (∀ cue ∈ volumeScript, cue.cancels = false) ∧ volumeBuilt.now = 20 ∧
      volumeBuilt.trace.size = 2 ∧ volumeBuilt.log.toList = [.unrecognized "QUEUED", .finished 2] ∧
      let later := (Vigil.volumeWait.run Rehearsal.remote .update Rehearsal.fetching).runIn
        volumeBuilt
      later.1 = some (.converged "ACTIVE") ∧ later.2.now = 20 + 20 ∧
        later.2.log.toList = volumeBuilt.log.toList ++ [.unrecognized "QUEUED", .finished 2] := by
  have hspares : ∀ cue ∈ volumeScript, cue.cancels = false := by decide
  have hnow : volumeBuilt.now = 20 := by decide +kernel
  have hfirst :
      let first := (Vigil.volumeWait.run Rehearsal.remote .update Rehearsal.fetching).runIn
        { remote := { readings :=
            volumeScript.drop (min volumeBuilt.trace.size (volumeScript.length - 1)) } }
      first.1 = some (.converged "ACTIVE") ∧ first.2.now = 20 ∧
        first.2.log.toList = [.unrecognized "QUEUED", .finished 2] := by
    decide +kernel
  obtain ⟨houtcome, hended, -, hlog, -⟩ :=
    series_independent Vigil.volumeWait volumeScript {} (fun _ => ⟨rfl, rfl⟩) (fun _ => hspares)
      [.create] .update
  refine ⟨hspares, hnow, by decide +kernel, by decide +kernel, houtcome.trans hfirst.1, ?_, ?_⟩
  · exact hended.trans (congrArg₂ (· + ·) hnow hfirst.2.1)
  · exact hlog.trans (congrArg (volumeBuilt.log.toList ++ ·) hfirst.2.2)

end Wait

end Settle
