/-
What the log of a wait tells.

A look that leaves a wait open is remarked on if it failed for a passing reason, or if
it showed a status that is in none of the vocabularies and that the wait has not shown
before; the last notice of a wait says how it ended and after how many looks. So the
log can be read off the looks: `Chronicle` says how, with no mention of what the wait
remembers. A wait remembers the unknown statuses it has seen and nothing else, which is
the invariant `Remembers`.

Looks are counted in 32 bits, as `poll` counts them. The count in the last notice is
always that of the looks as such a word, and it is the number of them as long as there
are fewer than 2 ^ 32 (`LogTells.exact`).

Section 2 says how the looks of a wait end. The looks begin when they are due
(`Punctual`), and what comes after those that leave the wait open is one of the cases of
`Ending`: each of them names what cut the wait short and when, or the look that
settled it.

The pending states decide which statuses are unknown, and no more than that. Two waits
that differ in them alone go on side by side, and only their logs can differ: section 4.
-/
import Settle.Proofs.Notes
import Settle.Proofs.Pace
import Settle.Proofs.Parallel
import Settle.Proofs.Vigil.Run

set_option autoImplicit false

namespace Settle

variable {I : Interface} {σ ε α : Type}

/-! ## 1. Remarks -/

/-- One of the responses shows this status. -/
def Shown (status : String) (responses : List (Except ε Reading)) : Prop :=
  ∃ fault, .ok ⟨some status, fault⟩ ∈ responses

theorem shown_append {status : String} {responses later : List (Except ε Reading)} :
    Shown status (responses ++ later) ↔ Shown status responses ∨ Shown status later := by
  unfold Shown
  simp only [List.mem_append, exists_or]

theorem shown_singleton {status other : String} {fault : Option String} :
    Shown other [(.ok ⟨some status, fault⟩ : Except ε Reading)] ↔ other = status := by
  constructor
  · rintro ⟨fault', hmem⟩
    cases List.mem_singleton.1 hmem
    rfl
  · rintro rfl
    exact ⟨fault, List.mem_singleton.2 rfl⟩

theorem not_shown_error {status : String} {e : ε} :
    ¬ Shown status [(.error e : Except ε Reading)] := by
  rintro ⟨fault, hmem⟩
  cases List.mem_singleton.1 hmem

namespace Policy

section Memory

variable {p : Policy} {warned : List String} {earlier : List (Except ε Reading)} {status : String}

/-- The texts that are remembered are the unknown statuses among the earlier responses. -/
def Remembers (p : Policy) (warned : List String) (earlier : List (Except ε Reading)) : Prop :=
  ∀ status, status ∈ warned ↔ p.knows status = false ∧ Shown status earlier

theorem remembers_nil : p.Remembers [] ([] : List (Except ε Reading)) := by
  intro status
  constructor
  · intro h
    exact absurd h List.not_mem_nil
  · rintro ⟨-, fault, h⟩
    exact absurd h List.not_mem_nil

/-- A response that shows no unknown status for the first time leaves the memory as it is. -/
theorem Remembers.keep (h : p.Remembers warned earlier) {response : Except ε Reading}
    (hold : ∀ status, Shown status [response] → p.knows status = true ∨ status ∈ warned) :
    p.Remembers warned (earlier ++ [response]) := by
  intro other
  rw [shown_append, h other]
  constructor
  · rintro ⟨hunknown, hshown⟩
    exact ⟨hunknown, .inl hshown⟩
  · rintro ⟨hunknown, hshown | hshown⟩
    · exact ⟨hunknown, hshown⟩
    · rcases hold other hshown with hknown | hwarned
      · rw [hunknown] at hknown
        cases hknown
      · exact (h other).1 hwarned

/-- A new unknown status is added to it. -/
theorem Remembers.add (h : p.Remembers warned earlier) (hunknown : p.knows status = false)
    (fault : Option String) :
    p.Remembers (status :: warned) (earlier ++ [.ok ⟨some status, fault⟩]) := by
  intro other
  rw [List.mem_cons, shown_append, shown_singleton, h other]
  constructor
  · rintro (rfl | ⟨hother, hshown⟩)
    · exact ⟨hunknown, .inr rfl⟩
    · exact ⟨hother, .inl hshown⟩
  · rintro ⟨hother, hshown | rfl⟩
    · exact .inr ⟨hother, hshown⟩
    · exact .inl rfl

/-- The statuses that a policy does not know are those without a meaning. -/
theorem knows_eq_false_iff :
    p.knows status = false ↔ status ∉ p.pending ∧ status ∉ p.target ∧ status ∉ p.fatal := by
  rw [← Bool.not_eq_true, knows_iff, not_or, not_or]

end Memory

variable [RemoteFailure ε] {p : Policy}

/-- What there is to say about a response that leaves the wait open, after the earlier ones. -/
inductive Remarks (p : Policy) (earlier : List (Except ε Reading)) :
    Except ε Reading → Option Notice → Prop
  /-- It is a failure for a passing reason. -/
  | transient {e : ε} (h : RemoteFailure.classify e = .transient) :
    Remarks p earlier (.error e) (some (.transientLook (RemoteFailure.message e)))
  /-- Its status is in none of the vocabularies, and new. -/
  | unrecognized {status : String} {fault : Option String}
    (hunknown : status ∉ p.pending ∧ status ∉ p.target ∧ status ∉ p.fatal)
    (hnew : ¬ Shown status earlier) :
    Remarks p earlier (.ok ⟨some status, fault⟩) (some (.unrecognized status))
  /-- Its status is in none of the vocabularies, but has been shown before. -/
  | repeated {status : String} {fault : Option String}
    (hunknown : status ∉ p.pending ∧ status ∉ p.target ∧ status ∉ p.fatal)
    (hold : Shown status earlier) : Remarks p earlier (.ok ⟨some status, fault⟩) none
  /-- Its status is one of those to be waited through. -/
  | pending {status : String} {fault : Option String} (h : status ∈ p.pending) :
    Remarks p earlier (.ok ⟨some status, fault⟩) none

/-- The notices on responses that leave the wait open, one after the other. -/
inductive Chronicle (p : Policy) :
    List (Except ε Reading) → List (Except ε Reading) → List Notice → Prop
  | nil {earlier : List (Except ε Reading)} : Chronicle p earlier [] []
  | cons {earlier rest : List (Except ε Reading)} {response : Except ε Reading}
    {remark : Option Notice} {notes : List Notice} (hremark : p.Remarks earlier response remark)
    (hrest : Chronicle p (earlier ++ [response]) rest notes) :
    Chronicle p earlier (response :: rest) (remark.toList ++ notes)

variable {operation : Operation} {warned : List String} {earlier : List (Except ε Reading)}

/-- There is only one thing to say about a response, -/
theorem Remarks.unique {response : Except ε Reading} {remark remark' : Option Notice}
    (h : p.Remarks earlier response remark) (h' : p.Remarks earlier response remark') :
    remark = remark' := by
  cases h with
  | transient _ => cases h' with | transient _ => rfl
  | unrecognized hunknown hnew =>
    cases h' with
    | unrecognized _ _ => rfl
    | repeated _ hold => exact absurd hold hnew
    | pending hpending => exact absurd hpending hunknown.1
  | repeated hunknown hold =>
    cases h' with
    | unrecognized _ hnew => exact absurd hold hnew
    | repeated _ _ => rfl
    | pending _ => rfl
  | pending hpending =>
    cases h' with
    | unrecognized hunknown _ => exact absurd hpending hunknown.1
    | repeated _ _ => rfl
    | pending _ => rfl

/-- and so about all of them. -/
theorem Chronicle.unique {responses : List (Except ε Reading)} {notes notes' : List Notice}
    (h : p.Chronicle earlier responses notes) (h' : p.Chronicle earlier responses notes') :
    notes = notes' := by
  induction h generalizing notes' with
  | nil =>
    cases h'
    rfl
  | cons hremark _ ih =>
    cases h' with
    | cons hremark' hrest' => rw [hremark.unique hremark', ih hrest']

/-- A failure that leaves the wait open is a passing one. -/
theorem transient_of_open {e : ε} (h : p.judgeFailure operation e = none) :
    RemoteFailure.classify e = .transient := by
  unfold judgeFailure at h
  split at h
  · split at h <;> cases h
  · assumption
  · cases h

/-- A status that leaves the wait open and is known is to be waited through. -/
theorem pending_of_open {status : String} {fault : Option String}
    (h : p.judge ⟨some status, fault⟩ = none) (hknown : p.knows status = true) :
    status ∈ p.pending := by
  simp only [judge] at h
  by_cases hfatal : status ∈ p.fatal
  · rw [if_pos hfatal] at h
    cases h
  · rw [if_neg hfatal] at h
    by_cases htarget : status ∈ p.target
    · rw [if_pos htarget] at h
      cases h
    · rcases knows_iff.1 hknown with hpending | htarget' | hfatal'
      · exact hpending
      · exact absurd htarget' htarget
      · exact absurd hfatal' hfatal

/-- **What a wait says about a look is what there is to say, and it remembers it.** -/
theorem remark_spec {response : Except ε Reading} (h : p.Remembers warned earlier)
    (hverdict : p.verdict operation response = none) :
    p.Remarks earlier response (p.remark warned response) ∧
      p.Remembers (warnedAfter warned (p.remark warned response)) (earlier ++ [response]) := by
  rcases response with e | ⟨_ | status, fault⟩
  · exact ⟨.transient (transient_of_open hverdict),
      h.keep fun status hshown => absurd hshown not_shown_error⟩
  · cases hverdict
  by_cases hold : p.knows status = true ∨ status ∈ warned
  · -- Nothing is said and nothing is added, whether the status is known or was shown before.
    have hsilent : p.remark warned (.ok ⟨some status, fault⟩ : Except ε Reading) = none :=
      if_pos hold
    have hkept : p.Remembers warned (earlier ++ [.ok ⟨some status, fault⟩]) :=
      h.keep fun other hshown => by
        rw [shown_singleton] at hshown
        rw [hshown]
        exact hold
    rw [hsilent]
    refine ⟨?_, hkept⟩
    by_cases hknown : p.knows status = true
    · exact .pending (pending_of_open hverdict hknown)
    · have hwarned := hold.resolve_left hknown
      exact .repeated (knows_eq_false_iff.1 ((h status).1 hwarned).1) ((h status).1 hwarned).2
  · -- What is said now is what will not be said again.
    have hsaid : p.remark warned (.ok ⟨some status, fault⟩ : Except ε Reading) =
        some (.unrecognized status) := if_neg hold
    obtain ⟨hknown, hwarned⟩ := not_or.1 hold
    have hunknown := Bool.eq_false_iff.2 hknown
    rw [hsaid]
    exact ⟨.unrecognized (knows_eq_false_iff.1 hunknown)
      fun hshown => hwarned ((h status).2 ⟨hunknown, hshown⟩), h.add hunknown fault⟩

end Policy

/-! ## 2. How the looks of a wait end -/

namespace Wait

variable [RemoteFailure ε]

/-- Each of the looks begins when it is due: the first at this time, and each of the others a tick
after the answer to the one before it has arrived. -/
def Punctual {query : Query I α} (tick : Nat) : Nat → List query.Call → Prop
  | _, [] => True
  | due, c :: rest => c.time = due ∧ Punctual tick (c.arrival + tick) rest

/-- When the look after these is due. -/
def nextDue {query : Query I α} (tick : Nat) : Nat → List query.Call → Nat
  | due, [] => due
  | _, c :: rest => nextDue tick (c.arrival + tick) rest

/-- What comes after the looks that leave the wait open, if it ends in this world and the next look
is due at this time: no look, one whose answer is still to come, or one that settles the matter. -/
inductive Ending (p : ValidPolicy) (operation : Operation) (query : Query I (Except ε Reading))
    (watch : Watch) (due : Nat) (w : World I σ) : List query.Call → Outcome → Prop
  /-- Something happens before the next look, and no later than that is due. -/
  | idle {cause : Interruption} (hcause : w.Interrupted watch cause) (hdue : w.now ≤ due) :
    Ending p operation query watch due w [] (.timedOut cause)
  /-- The token fires before the answer arrives. -/
  | cancelled {c : query.Call} (hcause : w.Interrupted watch .cancelled)
    (hlost : w.now < c.arrival) :
    Ending p operation query watch due w [c] (.timedOut .cancelled)
  /-- The answer does not arrive before the deadline. -/
  | late {c : query.Call} (hcause : w.Interrupted watch .deadline) (hlost : w.now ≤ c.arrival) :
    Ending p operation query watch due w [c] (.timedOut .deadline)
  /-- The answer arrives in time and settles the matter. -/
  | settled {c : query.Call} {outcome : Outcome} (harrival : c.arrival = w.now)
    (hintime : watch.expired w.now = false)
    (hverdict : p.verdict operation c.result = some outcome) :
    Ending p operation query watch due w [c] outcome

/-- What happens in a wait that goes on from `w`, with this look due, after these looks and
responses, and that ends in `w'`: it hears some responses that leave it open, ends, and notes what
there is to say. -/
structure Account (s : Wait) (operation : Operation) (query : Query I (Except ε Reading))
    (watch : Watch) (due : Nat) (looks : UInt32) (earlier : List (Except ε Reading))
    (w : World I σ) (heard last : List query.Call) (notes : List Notice) (outcome : Outcome)
    (w' : World I σ) : Prop where
  leads : w.Leads ((heard ++ last).map Query.Call.exchange) w'
  punctual : Punctual s.policy.tick due (heard ++ last)
  /-- Those that are heard arrive in time, and leave the wait open. -/
  heard_open : ∀ c ∈ heard, s.policy.verdict operation c.result = none ∧ c.arrival ≤ w'.now ∧
    watch.expired c.arrival = false
  ending : Ending s.policy operation query watch (nextDue s.policy.tick due heard) w' last outcome
  chronicle : s.policy.Chronicle earlier (heard.map Query.Call.result) notes
  /-- After the remarks there is one more notice, with the count of all looks. -/
  log_eq : w'.log.toList = w.log.toList ++
    (notes ++ [Vigil.closing outcome (looks + .ofNat (heard.length + last.length))])

/-- A wait tells what happens in it. -/
def Tells (s : Wait) (operation : Operation) (query : Query I (Except ε Reading)) (watch : Watch)
    (due : Nat) (looks : UInt32) (earlier : List (Except ε Reading)) (w : World I σ)
    (outcome : Outcome) (w' : World I σ) : Prop :=
  ∃ (heard last : List query.Call) (notes : List Notice),
    s.Account operation query watch due looks earlier w heard last notes outcome w'

section Tells

variable {s : Wait} {R : Remote I σ} {operation : Operation} {query : Query I (Except ε Reading)}
  {watch : Watch} {due : Nat} {looks : UInt32} {earlier : List (Except ε Reading)}
  {warned : List String} {w w' : World I σ} {outcome : Outcome}

/-- A wait that hears nothing more tells how it ends. -/
theorem Tells.ends (last : List query.Call) (hleads : w.Leads (last.map Query.Call.exchange) w')
    (hpunctual : Punctual s.policy.tick due last)
    (hending : Ending s.policy operation query watch due w' last outcome)
    (hlog : w'.log.toList = w.log.toList ++ [Vigil.closing outcome (looks + .ofNat last.length)]) :
    s.Tells operation query watch due looks earlier w outcome w' := by
  refine ⟨[], last, [], hleads, hpunctual, fun _ hc => absurd hc List.not_mem_nil, hending, .nil,
    ?_⟩
  rw [List.length_nil, Nat.zero_add]
  exact hlog

/-- One that does not look again has its count already. -/
theorem Tells.idle {cause : Interruption} (hleads : w.Leads [] w')
    (hcause : w'.Interrupted watch cause) (hdue : w'.now ≤ due)
    (hlog : w'.log.toList = w.log.toList ++ [.gaveUp looks]) :
    s.Tells operation query watch due looks earlier w (.timedOut cause) w' := by
  refine .ends [] hleads trivial (.idle hcause hdue) ?_
  have hsame : looks + .ofNat ([] : List query.Call).length = looks := UInt32.add_zero looks
  rw [hsame]
  exact hlog

variable (s R operation query watch earlier w) in
/-- A look of a wait that leaves it open, up to the end of the pause after it. -/
structure Hears (remark : Option Notice) (w' : World I σ) : Prop where
  leads : w.Leads [(w.callOf R query).exchange] w'
  verdict : s.policy.verdict operation (w.callOf R query).result = none
  arrival_le : (w.callOf R query).arrival ≤ w'.now
  intime : watch.expired (w.callOf R query).arrival = false
  remarks : s.policy.Remarks earlier (w.callOf R query).result remark
  log_eq : w'.log.toList = w.log.toList ++ remark.toList

/-- It comes before what the wait tells from there on. -/
theorem Tells.cons {w₁ : World I σ} {remark : Option Notice}
    (hfirst : s.Hears R operation query watch earlier w remark w₁)
    (h : s.Tells operation query watch ((w.callOf R query).arrival + s.policy.tick) (looks + 1)
      (earlier ++ [(w.callOf R query).result]) w₁ outcome w') :
    s.Tells operation query watch w.now looks earlier w outcome w' := by
  obtain ⟨heard, last, notes, h⟩ := h
  refine ⟨w.callOf R query :: heard, last, remark.toList ++ notes, hfirst.leads.trans h.leads,
    ⟨rfl, h.punctual⟩, ?_, h.ending, .cons hfirst.remarks h.chronicle, ?_⟩
  · intro c hc
    rcases List.mem_cons.1 hc with rfl | hc
    · exact ⟨hfirst.verdict, Nat.le_trans hfirst.arrival_le h.leads.now_le, hfirst.intime⟩
    · exact h.heard_open c hc
  · -- The count goes on from this look.
    have hcount : looks + 1 + UInt32.ofNat (heard.length + last.length) =
        looks + .ofNat ((w.callOf R query :: heard).length + last.length) := by
      have hlength : (w.callOf R query :: heard).length + last.length =
          1 + (heard.length + last.length) := by
        rw [List.length_cons]
        omega
      rw [hlength, UInt32.ofNat_add 1, UInt32.add_assoc]
      rfl
    rw [h.log_eq, hfirst.log_eq, hcount, List.append_assoc, List.append_assoc]

/-- A round that comes to its pause has heard its look, and remembers it. -/
theorem hears_of_pause {response : Except ε Reading} {cause : Option Interruption}
    {w₁ w₂ : World I σ} (hmemory : s.policy.Remembers warned earlier)
    (hlook : w.look R watch query = (.ok response, w₁))
    (hverdict : s.policy.verdict operation response = none)
    (hpause : (w₁.remarked (s.policy.remark warned response)).pause watch s.policy.tick =
      (cause, w₂)) :
    s.Hears R operation query watch earlier w (s.policy.remark warned response) w₂ ∧
      s.policy.Remembers (Policy.warnedAfter warned (s.policy.remark warned response))
        (earlier ++ [(w.callOf R query).result]) := by
  have hpaused := World.leads_of_remarked_pause hpause
  have hlooked := w.look_log R watch query
  have hslept := World.pause_log (w₁.remarked (s.policy.remark warned response)) watch s.policy.tick
  obtain ⟨hresponse, harrival, hintime⟩ := World.look_arrives hlook
  rw [hlook] at hlooked
  rw [hpause] at hslept
  obtain ⟨hremarks, hremembers⟩ := Policy.remark_spec hmemory hverdict
  rw [← hresponse]
  refine ⟨⟨(World.leads_of_look hlook).trans hpaused, ?_, ?_, ?_, ?_, ?_⟩, hremembers⟩
  · rw [← hresponse]
    exact hverdict
  · rw [← harrival]
    exact hpaused.now_le
  · rw [← harrival]
    exact hintime
  · rw [← hresponse]
    exact hremarks
  · rw [hslept, World.remarked_log, hlooked]

/-- The last round of a wait tells its look and how it ends, if it begins by the deadline. -/
theorem Turn.tells (hmemory : s.policy.Remembers warned earlier)
    (hnow : ∀ deadline, watch.deadline = some deadline → w.now ≤ deadline)
    (h : s.Turn R operation query watch looks warned w (.inl outcome) w') :
    s.Tells operation query watch w.now looks earlier w outcome w' := by
  cases h with
  | closed hgate =>
    -- The count is that of the rounds before: this one made no call.
    have hcause := World.interrupted_of_pause hnow hgate
    exact .idle (w.leads_note _) hcause (Nat.le_refl _) (w.note_log _)
  | @cut cause w₁ hgate hlook =>
    -- The call counts, though its answer is never heard.
    have hsilent := w.look_log R watch query
    rw [hlook] at hsilent
    obtain ⟨hcause, hlost, hearly⟩ := World.look_cut hgate hlook
    refine .ends [w.callOf R query]
      ((World.leads_of_look hlook).trans (World.leads_note _ _)) ⟨rfl, trivial⟩ ?_ ?_
    · cases cause with
      | cancelled => exact .cancelled hcause (hearly rfl)
      | deadline => exact .late hcause hlost
    · rw [World.note_log, hsilent]
      rfl
  | @settled response _ w₁ hgate hlook hverdict =>
    obtain ⟨rfl, harrival, hintime⟩ := World.look_arrives hlook
    have hsilent := w.look_log R watch query
    rw [hlook] at hsilent
    refine .ends [w.callOf R query]
      ((World.leads_of_look hlook).trans (World.leads_note _ _)) ⟨rfl, trivial⟩
      (.settled harrival.symm hintime hverdict) ?_
    rw [World.note_log, hsilent]
    -- No verdict is a timeout, so the closing notice says that the wait has finished.
    cases outcome with
    | timedOut cause => exact absurd hverdict (Policy.verdict_ne_timedOut _ _ _ _)
    | converged status => rfl
    | failed reason fault kind => rfl
  | @spent response cause w₁ w₂ hgate hlook hverdict hpause =>
    obtain ⟨-, harrival, hintime⟩ := World.look_arrives hlook
    have hremarked : (w₁.remarked (s.policy.remark warned response)).now =
        (w.callOf R query).arrival := by
      rw [World.remarked_now, harrival]
    -- The pause begins in time, and ends no later than the next look is due.
    have hcause : w₂.Interrupted watch cause := by
      refine World.interrupted_of_pause ?_ hpause
      rw [World.remarked_now]
      exact World.le_deadline_of_open hintime
    have hdue := World.pause_now_le hpause
    rw [hremarked] at hdue
    refine .cons (hears_of_pause hmemory hlook hverdict hpause).1 ?_
    exact .idle (World.leads_note _ _) hcause hdue (World.note_log _ _)

variable (s R operation query watch) in
/-- **A wait that ends tells what happened.** By induction over the rounds, with what it remembers
as the invariant. -/
theorem rounds_tell {fuel : Nat} (hmemory : s.policy.Remembers warned earlier)
    (hnow : ∀ deadline, watch.deadline = some deadline → w.now ≤ deadline)
    (h : (s.rounds R operation query watch fuel looks warned).runIn w = (some outcome, w')) :
    s.Tells operation query watch w.now looks earlier w outcome w' := by
  have htold := s.rounds_rec R operation query watch
    (motive := fun looks warned w o w' => ∀ earlier outcome, s.policy.Remembers warned earlier →
      (∀ deadline, watch.deadline = some deadline → w.now ≤ deadline) → o = some outcome →
        s.Tells operation query watch w.now looks earlier w outcome w')
    (fun _ _ _ _ _ _ _ ho => by cases ho)
    (fun _ _ _ _ _ hturn _ _ hmemory hnow ho => by cases ho; exact hturn.tells hmemory hnow)
    ?_ fuel looks warned w
  · rw [h] at htold
    exact htold earlier outcome hmemory hnow rfl
  · intro looks warned w w₁ warned₁ o w' hturn ih earlier outcome hmemory _ ho
    obtain ⟨-, -, hnext, hintime⟩ := hturn.next_now
    cases hturn with
    | next hgate hlook hverdict hpause =>
      obtain ⟨hhears, hremembers⟩ := hears_of_pause hmemory hlook hverdict hpause
      have hlater := ih _ outcome hremembers (World.le_deadline_of_open hintime) ho
      rw [hnext] at hlater
      exact .cons hhears hlater

/-- So does the whole of it. -/
theorem run_tells (h : (s.run R operation query).runIn w = (some outcome, w')) :
    s.Tells operation query (s.watchFrom w.now) (w.now + s.policy.initialDelay) 0 [] w outcome
      w' := by
  have hslept := w.pause_log (s.watchFrom w.now) s.policy.initialDelay
  have hnow : ∀ deadline, (s.watchFrom w.now).deadline = some deadline → w.now ≤ deadline := by
    intro deadline hdeadline
    cases hdeadline
    exact Nat.le_add_right _ _
  cases hpause : w.pause (s.watchFrom w.now) s.policy.initialDelay with
  | mk cause w₁ =>
    have hfirst := World.leads_of_pause hpause
    rw [hpause] at hslept
    cases cause with
    | some cause =>
      rw [s.runIn_run_of_cut hpause] at h
      cases h
      have hcause := World.interrupted_of_pause hnow hpause
      have hdue := World.pause_now_le hpause
      refine .idle (hfirst.trans (World.leads_note _ _)) hcause hdue ?_
      rw [World.note_log, hslept]
    | none =>
      rw [s.runIn_run_of_open hpause] at h
      obtain ⟨hstart, hintime⟩ := World.pause_eq_none _ hpause
      obtain ⟨heard, last, notes, hrounds⟩ :=
        rounds_tell _ _ _ _ _ Policy.remembers_nil (World.le_deadline_of_open hintime) h
      have hpunctual := hrounds.punctual
      have hending := hrounds.ending
      rw [hstart] at hpunctual hending
      refine ⟨heard, last, notes, hfirst.trans hrounds.leads, hpunctual, hrounds.heard_open,
        hending, hrounds.chronicle, ?_⟩
      rw [hrounds.log_eq, hslept]

end Tells

end Wait

/-! ## 3. The same world with another log -/

/-- Whether the notice is on an unrecognized status. -/
def Notice.isUnrecognized : Notice → Bool
  | .unrecognized _ => true
  | _ => false

/-- The notices that are not on unrecognized statuses. -/
def recognized (notes : List Notice) : List Notice := notes.filter fun n => !n.isUnrecognized

theorem recognized_append (notes later : List Notice) :
    recognized (notes ++ later) = recognized notes ++ recognized later := List.filter_append ..

namespace World

/-- The world with another log. -/
def relog (w : World I σ) (log : Array Notice) : World I σ := { w with log }

variable (w : World I σ) (log : Array Notice)

@[simp] theorem relog_now : (w.relog log).now = w.now := rfl

@[simp] theorem relog_token : (w.relog log).token = w.token := rfl

/-- Time passes whatever the log says. -/
theorem sleepUntil_relog (wake : Nat) :
    (w.relog log).sleepUntil wake = (w.sleepUntil wake).relog log := by
  unfold sleepUntil
  rw [relog_now]
  split <;> rfl

/-- So do pauses, -/
theorem pause_relog (watch : Watch) (duration : Nat) :
    (w.relog log).pause watch duration =
      ((w.pause watch duration).1, (w.pause watch duration).2.relog log) := by
  unfold pause
  simp only [relog_now, relog_token, sleepUntil_relog]
  by_cases hgate : (watch.heeds && w.token.fired) = true
  · rw [if_pos hgate, if_pos hgate]
  rw [if_neg hgate, if_neg hgate]
  by_cases hexpired : watch.expired w.now = true
  · rw [if_pos hexpired, if_pos hexpired]
  rw [if_neg hexpired, if_neg hexpired]
  by_cases hzero : duration = 0
  · rw [if_pos hzero, if_pos hzero]
  rw [if_neg hzero, if_neg hzero]
  cases w.token.alarm? (watch.cap (w.now + duration)) with
  | none => rfl
  | some t => cases watch.heeds <;> rfl

/-- and looks. -/
theorem look_relog (R : Remote I σ) (watch : Watch) (q : Query I α) :
    (w.relog log).look R watch q =
      ((w.look R watch q).1, (w.look R watch q).2.relog log) := by
  cases hpause : (w.ask R q.request).2.pause watch (R.answer q.request w.remote).1.delay with
  | mk cause w' =>
    have hpaused : ((w.relog log).ask R q.request).2.pause watch
        (R.answer q.request (w.relog log).remote).1.delay = (cause, w'.relog log) := by
      have hrelogged := (w.ask R q.request).2.pause_relog log watch
        (R.answer q.request w.remote).1.delay
      rwa [hpause] at hrelogged
    cases cause with
    | some cause => rw [look_of_cut hpaused, look_of_cut hpause]
    | none =>
      rw [look_of_arrival hpaused, look_of_arrival hpause, deliver_eq, deliver_eq]
      rfl

/-- The second world is the first one, except that the logs may differ in remarks on unrecognized
statuses. -/
def Alike (w w' : World I σ) : Prop :=
  ∃ log, recognized log.toList = recognized w.log.toList ∧ w' = w.relog log

namespace Alike

theorem refl (w : World I σ) : w.Alike w := ⟨w.log, rfl, rfl⟩

variable {w w' w₁ : World I σ} {watch : Watch} (h : w.Alike w')
include h

theorem note (n : Notice) : (w.note n).Alike (w'.note n) := by
  obtain ⟨log, hlog, rfl⟩ := h
  refine ⟨log.push n, ?_, rfl⟩
  rw [note_log, Array.toList_push, recognized_append, recognized_append, hlog]

/-- Remarks that differ in nothing that is recognized leave alike worlds alike. -/
theorem remarked {remark remark' : Option Notice}
    (hremark : recognized remark'.toList = recognized remark.toList) :
    (w.remarked remark).Alike (w'.remarked remark') := by
  obtain ⟨log, hlog, rfl⟩ := h
  refine ⟨((w.relog log).remarked remark').log, ?_, ?_⟩
  · have hrelog : (w.relog log).log = log := rfl
    rw [remarked_log, remarked_log, recognized_append, recognized_append, hremark, hrelog, hlog]
  · cases remark <;> cases remark' <;> rfl

theorem pause {duration : Nat} {cause : Option Interruption}
    (hpause : w.pause watch duration = (cause, w₁)) :
    ∃ w₁', w'.pause watch duration = (cause, w₁') ∧ w₁.Alike w₁' := by
  obtain ⟨log, hlog, rfl⟩ := h
  have hsame := w.pause_log watch duration
  rw [hpause] at hsame
  refine ⟨w₁.relog log, by rw [pause_relog, hpause], log, ?_, rfl⟩
  rw [hsame, hlog]

theorem look {R : Remote I σ} {q : Query I α} {result : Except Interruption α}
    (hlook : w.look R watch q = (result, w₁)) :
    ∃ w₁', w'.look R watch q = (result, w₁') ∧ w₁.Alike w₁' := by
  obtain ⟨log, hlog, rfl⟩ := h
  have hsame := w.look_log R watch q
  rw [hlook] at hsame
  refine ⟨w₁.relog log, by rw [look_relog, hlook], log, ?_, rfl⟩
  rw [hsame, hlog]

end Alike

end World

/-! ## 4. The pending states -/

/-- The policies agree in everything but the pending states. -/
def Policy.AgreeBesidesPending (p p' : Policy) : Prop := p' = { p with pending := p'.pending }

namespace Policy.AgreeBesidesPending

variable [RemoteFailure ε] {p p' : Policy} (h : p.AgreeBesidesPending p')
include h

theorem tick_eq : p'.tick = p.tick := by
  rw [h]
  rfl

theorem timeout_eq : p'.timeout = p.timeout := by rw [h]

theorem initialDelay_eq : p'.initialDelay = p.initialDelay := by rw [h]

/-- Pending states settle nothing, -/
theorem verdict_eq (operation : Operation) (response : Except ε Reading) :
    p'.verdict operation response = p.verdict operation response := by
  rw [h]
  rfl

end Policy.AgreeBesidesPending

/-- What is said about a look under one policy or another differs at most in a remark on an
unrecognized status. -/
theorem Policy.recognized_remark [RemoteFailure ε] (p p' : Policy) (warned warned' : List String)
    (response : Except ε Reading) :
    recognized (p'.remark warned' response).toList =
      recognized (p.remark warned response).toList := by
  rcases response with e | ⟨_ | status, fault⟩
  · rfl
  · rfl
  · simp only [remark]
    split <;> split <;> rfl

namespace Wait

variable [RemoteFailure ε] {s s' : Wait} {R : Remote I σ} {operation : Operation}
  {query : Query I (Except ε Reading)}

/-- Waits that differ in nothing but their pending states go on side by side, whatever texts they
remember. -/
theorem parallel_of_agree (hpolicy : s.policy.AgreeBesidesPending s'.policy.toPolicy)
    (watch : Watch) :
    s.Parallel s' R operation query watch watch World.Alike fun _ _ => True where
  pause hw hpause := hw.pause hpause
  look hw hlook := hw.look hlook
  note n hw := hw.note n
  tick := hpolicy.tick_eq
  verdict response := hpolicy.verdict_eq operation response
  remark _ _ hw := hw.remarked (Policy.recognized_remark _ _ _ _ _)
  remember _ _ := trivial

/-- **Waits that differ in nothing but their pending states do the same.** -/
theorem run_alike (hpolicy : s.policy.AgreeBesidesPending s'.policy.toPolicy)
    (hheeds : s'.heeds = s.heeds) (w : World I σ) :
    ((s'.run R operation query).runIn w).1 = ((s.run R operation query).runIn w).1 ∧
      ((s.run R operation query).runIn w).2.Alike ((s'.run R operation query).runIn w).2 := by
  have hwatch : s'.watchFrom w.now = s.watchFrom w.now := by
    unfold watchFrom
    rw [hheeds, hpolicy.timeout_eq]
  have hparallel : s.Parallel s' R operation query (s.watchFrom w.now) (s'.watchFrom w.now)
      World.Alike fun _ _ => True := by
    rw [hwatch]
    exact parallel_of_agree hpolicy (s.watchFrom w.now)
  exact hparallel.run trivial (.refl w) hpolicy.timeout_eq hpolicy.initialDelay_eq rfl

/-- What the log of a wait is worth. -/
structure LogTells (s : Wait) (R : Remote I σ) (operation : Operation)
    (query : Query I (Except ε Reading)) (w : World I σ) : Prop where
  /-- With a tick of some length the wait ends. -/
  ends : 1 ≤ s.policy.tick → ∃ outcome w', (s.run R operation query).runIn w = (some outcome, w')
  /-- A wait that ends tells what it heard and how it ended, and after how many looks, counted in 32
  bits. -/
  tells : ∀ outcome w', (s.run R operation query).runIn w = (some outcome, w') →
    s.Tells operation query (s.watchFrom w.now) (w.now + s.policy.initialDelay) 0 [] w outcome w'
  /-- The count is that of the looks unless there are 2 ^ 32 of them, for which there is no time
  within as many ticks less one. -/
  exact : ∀ outcome w' (looks : List query.Call),
    (s.run R operation query).runIn w = (some outcome, w') →
    w.Leads (looks.map Query.Call.exchange) w' →
    looks.length < 2 ^ 32 ∨ s.policy.timeout ≤ (2 ^ 32 - 1) * s.policy.tick →
      ∃ count : UInt32, count.toNat = looks.length ∧
        w'.log.toList.getLast? = some (Vigil.closing outcome count)
  /-- With other pending states the same happens, and the log differs in remarks on unrecognized
  statuses alone. -/
  pending : ∀ s' : Wait, s'.heeds = s.heeds →
    s.policy.AgreeBesidesPending s'.policy.toPolicy →
    ((s'.run R operation query).runIn w).1 = ((s.run R operation query).runIn w).1 ∧
      ((s.run R operation query).runIn w).2.Alike ((s'.run R operation query).runIn w).2

/-- A timeout that is no longer than that leaves no time for 2 ^ 32 looks. -/
theorem length_lt_of_timeout_le {w w' : World I σ} {o : Option Outcome}
    (h : (s.run R operation query).runIn w = (o, w')) {looks : List query.Call}
    (hleads : w.Leads (looks.map Query.Call.exchange) w')
    (htimeout : s.policy.timeout ≤ (2 ^ 32 - 1) * s.policy.tick) : looks.length < 2 ^ 32 := by
  have hpos := Policy.timeout_pos s.policy.valid
  have htick : 1 ≤ s.policy.tick := by
    refine Nat.pos_of_ne_zero fun hzero => ?_
    rw [hzero, Nat.mul_zero] at htimeout
    omega
  have hlength := run_length_le htick h hleads
  have hmost := Policy.mostLooks_le htick htimeout
  omega

/-- A wait that ends gives the count of its looks in its last notice. -/
theorem last_counts {w w' : World I σ} {outcome : Outcome}
    (h : (s.run R operation query).runIn w = (some outcome, w')) {looks : List query.Call}
    (hleads : w.Leads (looks.map Query.Call.exchange) w') :
    w'.log.toList.getLast? = some (Vigil.closing outcome (.ofNat looks.length)) := by
  obtain ⟨heard, last, notes, htold⟩ := run_tells h
  have hlength : heard.length + last.length = looks.length := by
    rw [← List.length_append, htold.leads.calls_unique hleads]
  rw [htold.log_eq, hlength, ← List.append_assoc, List.getLast?_concat, UInt32.zero_add]

end Wait

end Settle
