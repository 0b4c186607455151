/-
Policies that are accepted, and what is said of the others.

A policy is refused by `validate` for one of five reasons. `Policy.Violates` says what
each of them is, with no order among them, and `Policy.Defect.rank` is the order in which
they are reported: the check finds a violated condition that no other comes before
(`Policy.defect?_eq_some_iff`), and there is only one such.

What a policy is checked for is what its judge counts on. The judge tests the
vocabularies in an order of its own; under a policy that is accepted a state has one
meaning at most, so any order would do (`Policy.Separate.evaluateIn_eq`).
-/
import Settle.Proofs.Cloud.Vocabulary
import Settle.Proofs.Jobs

set_option autoImplicit false

namespace Settle

/-! ## 1. The smallest state that two sets share -/

namespace StateSet

variable {s t : StateSet} {state other : String}

/-- The two sets share the state, and no smaller one. -/
structure LeastShared (s t : StateSet) (state : String) : Prop where
  left : state ∈ s
  right : state ∈ t
  least : ∀ other ∈ s, other ∈ t → state ≤ other

theorem LeastShared.unique (h : LeastShared s t state) (h' : LeastShared s t other) :
    state = other :=
  String.le_antisymm (h.least other h'.left h'.right) (h'.least state h.left h.right)

theorem firstShared?_eq_none_iff : s.firstShared? t = none ↔ ∀ state ∈ s, state ∉ t := by
  unfold firstShared?
  rw [List.find?_eq_none]
  exact forall₂_congr fun state _ => not_congr decide_eq_true_iff

/-- What is found first is the smallest, since the members are in order. -/
theorem leastShared_of_firstShared? (h : s.firstShared? t = some state) :
    LeastShared s t state := by
  obtain ⟨hright, before, after, hsplit, hbefore⟩ := List.find?_eq_some_iff_append.1 h
  have hsorted := s.sorted
  rw [hsplit, List.pairwise_append, List.pairwise_cons] at hsorted
  refine ⟨List.mem_of_find?_eq_some h, decide_eq_true_iff.1 hright, fun other hone hother => ?_⟩
  have hmem : other ∈ before ++ state :: after := hsplit ▸ hone
  rcases List.mem_append.1 hmem with hmem | hmem
  · have hnot := hbefore other hmem
    rw [decide_eq_true hother] at hnot
    cases hnot
  · rcases List.mem_cons.1 hmem with rfl | hmem
    · exact Std.le_refl other
    · exact Std.le_of_lt (hsorted.2.1.1 other hmem)

theorem firstShared?_eq_some_iff : s.firstShared? t = some state ↔ LeastShared s t state := by
  refine ⟨leastShared_of_firstShared?, fun h => ?_⟩
  cases hfound : s.firstShared? t with
  | none => exact absurd h.right (firstShared?_eq_none_iff.1 hfound state h.left)
  | some found => rw [(leastShared_of_firstShared? hfound).unique h]

end StateSet

namespace Policy

/-! ## 2. What a policy is refused for -/

/-- Something about the policy makes no sense. -/
inductive Violates (p : Policy) : Defect → Prop
  | noTarget (h : ∀ state, state ∉ p.target) : Violates p .noTarget
  | zeroTimeout (h : p.timeout = 0) : Violates p .zeroTimeout
  | overlap {one other : Meaning} {state : String} (hpair : (one, other) ∈ exclusive)
    (h : StateSet.LeastShared (p.states one) (p.states other) state) :
    Violates p (.overlap state one other)

/-- The place of a pair of meanings among all that is reported. -/
def placeOf : Meaning × Meaning → Nat
  | (.pending, .target) => 2
  | (.pending, .fatal) => 3
  | _ => 4

/-- The order in which defects are reported. -/
def Defect.rank : Defect → Nat
  | .noTarget => 0
  | .zeroTimeout => 1
  | .overlap _ one other => placeOf (one, other)

variable {p : Policy} {d d' : Defect}

theorem two_le_placeOf (pair : Meaning × Meaning) : 2 ≤ placeOf pair := by
  unfold placeOf
  split <;> omega

theorem overlap?_eq_some_iff {pair : Meaning × Meaning} :
    p.overlap? pair = some d ↔
      ∃ state, StateSet.LeastShared (p.states pair.1) (p.states pair.2) state ∧
        d = .overlap state pair.1 pair.2 := by
  unfold overlap?
  rw [Option.map_eq_some_iff]
  exact exists_congr fun state => and_congr StateSet.firstShared?_eq_some_iff eq_comm

/-- The target of a policy is empty in the same sense for the check and for its members. -/
theorem target_toList_eq_nil_iff : p.target.toList = [] ↔ ∀ state, state ∉ p.target :=
  List.eq_nil_iff_forall_not_mem

/-- The conditions are tried one after the other, and the pairs of meanings as well. -/
theorem defect?_cases (h : p.defect? = some d) :
    (∀ state, state ∉ p.target) ∧ d = .noTarget ∨
    (∃ state, state ∈ p.target) ∧ p.timeout = 0 ∧ d = .zeroTimeout ∨
    (∃ state, state ∈ p.target) ∧ p.timeout ≠ 0 ∧ ∃ before pair after state,
      exclusive = before ++ pair :: after ∧ (∀ other ∈ before, p.overlap? other = none) ∧
        StateSet.LeastShared (p.states pair.1) (p.states pair.2) state ∧
          d = .overlap state pair.1 pair.2 := by
  unfold defect? at h
  by_cases htarget : p.target.toList = []
  · rw [if_pos htarget, Option.some.injEq] at h
    exact .inl ⟨target_toList_eq_nil_iff.1 htarget, h.symm⟩
  · have hsome : ∃ state, state ∈ p.target := List.exists_mem_of_ne_nil _ htarget
    rw [if_neg htarget] at h
    by_cases htimeout : p.timeout = 0
    · rw [if_pos htimeout, Option.some.injEq] at h
      exact .inr (.inl ⟨hsome, htimeout, h.symm⟩)
    · rw [if_neg htimeout] at h
      obtain ⟨before, pair, after, hsplit, hoverlap, hbefore⟩ := List.findSome?_eq_some_iff.1 h
      obtain ⟨state, hleast, hd⟩ := overlap?_eq_some_iff.1 hoverlap
      exact .inr (.inr ⟨hsome, htimeout, before, pair, after, state, hsplit, hbefore, hleast, hd⟩)

/-- The first thing that is found to make no sense makes none, -/
theorem violates_of_defect? (h : p.defect? = some d) : p.Violates d := by
  rcases defect?_cases h with ⟨hnone, rfl⟩ | ⟨-, hzero, rfl⟩ |
    ⟨-, -, before, pair, after, state, hsplit, -, hleast, rfl⟩
  · exact .noTarget hnone
  · exact .zeroTimeout hzero
  · have hpair : pair ∈ exclusive := by
      rw [hsplit]
      exact List.mem_append_right before List.mem_cons_self
    exact .overlap hpair hleast

/-- and nothing that makes none comes before it. -/
theorem rank_le_of_defect? (h : p.defect? = some d) (h' : p.Violates d') : d.rank ≤ d'.rank := by
  rcases defect?_cases h with ⟨-, rfl⟩ | ⟨⟨state, hstate⟩, -, rfl⟩ |
    ⟨⟨state, hstate⟩, htimeout, before, pair, after, least, hsplit, hbefore, -, rfl⟩
  · exact Nat.zero_le _
  · cases h' with
    | noTarget hnone => exact absurd hstate (hnone state)
    | zeroTimeout _ => exact Nat.le_refl _
    | overlap _ _ => exact Nat.le_of_succ_le (two_le_placeOf _)
  · cases h' with
    | noTarget hnone => exact absurd hstate (hnone state)
    | zeroTimeout hzero => exact absurd hzero htimeout
    | @overlap one other state' hpair hleast =>
      -- The pairs are tried in the order of their places, and this one is not among those
      -- that were tried in vain.
      have hplaces : exclusive.Pairwise fun a b => placeOf a < placeOf b := by decide
      rw [hsplit, List.pairwise_append, List.pairwise_cons] at hplaces
      rw [hsplit] at hpair
      rcases List.mem_append.1 hpair with hmem | hmem
      · have hnone := hbefore (one, other) hmem
        rw [overlap?_eq_some_iff.2 ⟨state', hleast, rfl⟩] at hnone
        cases hnone
      · rcases List.mem_cons.1 hmem with rfl | hmem
        · exact Nat.le_refl _
        · exact Nat.le_of_lt (hplaces.2.1.1 (one, other) hmem)

/-- A policy without defect violates nothing. -/
theorem not_violates (h : p.defect? = none) : ¬ p.Violates d := by
  obtain ⟨htarget, htimeout, hpairs⟩ := p.defect?_eq_none_iff.1 h
  intro hviolates
  cases hviolates with
  | noTarget hnone => exact htarget (target_toList_eq_nil_iff.2 hnone)
  | zeroTimeout hzero => exact htimeout hzero
  | @overlap one other state hpair hleast =>
    have hnone := hpairs (one, other) hpair
    rw [overlap?_eq_some_iff.2 ⟨state, hleast, rfl⟩] at hnone
    cases hnone

/-- Two violated conditions of one rank are one. -/
theorem Violates.unique (h : p.Violates d) (h' : p.Violates d') (hrank : d.rank = d'.rank) :
    d = d' := by
  have hnone : Defect.noTarget.rank = 0 := rfl
  have hzero : Defect.zeroTimeout.rank = 1 := rfl
  have hoverlap (state : String) (one other : Meaning) :
      2 ≤ (Defect.overlap state one other).rank := two_le_placeOf _
  have hplaces : ∀ a ∈ exclusive, ∀ b ∈ exclusive, placeOf a = placeOf b → a = b := by decide
  cases h with
  | noTarget _ =>
    cases h' with
    | noTarget _ => rfl
    | zeroTimeout _ => omega
    | @overlap one other state _ _ =>
      have hlate := hoverlap state one other
      omega
  | zeroTimeout _ =>
    cases h' with
    | noTarget _ => omega
    | zeroTimeout _ => rfl
    | @overlap one other state _ _ =>
      have hlate := hoverlap state one other
      omega
  | @overlap one other state hpair hleast =>
    have hlate := hoverlap state one other
    cases h' with
    | noTarget _ => omega
    | zeroTimeout _ => omega
    | overlap hpair' hleast' =>
      -- A place belongs to one pair, and a pair shares one smallest state.
      cases hplaces _ hpair _ hpair' hrank
      rw [hleast.unique hleast']

/-- **The condition that is reported is violated, and no other violated one comes before it.** -/
theorem defect?_eq_some_iff :
    p.defect? = some d ↔ p.Violates d ∧ ∀ d', p.Violates d' → d.rank ≤ d'.rank := by
  constructor
  · intro h
    exact ⟨violates_of_defect? h, fun _ => rank_le_of_defect? h⟩
  · rintro ⟨hviolates, hfirst⟩
    cases hfound : p.defect? with
    | none => exact absurd hviolates (not_violates hfound)
    | some found =>
      have hother := violates_of_defect? hfound
      have hrank := Nat.le_antisymm (rank_le_of_defect? hfound hviolates) (hfirst found hother)
      rw [hother.unique hviolates hrank]

/-! ## 3. What is accepted -/

/-- The policy is accepted as it is. -/
def Accepted (p : Policy) : Prop := ∃ valid, p.validate = .ok valid ∧ valid.toPolicy = p

/-- What no two meanings share is what is checked. -/
theorem separate_iff : p.Separate ↔ ∀ pair ∈ exclusive, p.overlap? pair = none := by
  have hnone (pair : Meaning × Meaning) :
      p.overlap? pair = none ↔ ∀ state ∈ p.states pair.1, state ∉ p.states pair.2 := by
    unfold overlap?
    rw [Option.map_eq_none_iff, StateSet.firstShared?_eq_none_iff]
  simp only [hnone, exclusive, List.forall_mem_cons, List.not_mem_nil, false_implies,
    implies_true, and_true]
  exact ⟨fun h => ⟨h.pending_target, h.pending_fatal, h.target_fatal⟩,
    fun h => ⟨h.1, h.2.1, h.2.2⟩⟩

/-- A policy is accepted if it has no defect, -/
theorem accepted_iff_defect? : p.Accepted ↔ p.defect? = none := by
  constructor
  · rintro ⟨valid, -, rfl⟩
    exact valid.valid
  · intro h
    exact ⟨⟨p, h⟩, validate_eq_ok h, rfl⟩

/-- which is to say that there is something to wait for, some time to wait, and no state that means
two things. -/
theorem accepted_iff :
    p.Accepted ↔ (∃ state, state ∈ p.target) ∧ p.timeout ≠ 0 ∧ p.Separate := by
  have htarget : p.target.toList ≠ [] ↔ ∃ state, state ∈ p.target := by
    rw [Ne, target_toList_eq_nil_iff, not_forall_not]
  rw [accepted_iff_defect?, defect?_eq_none_iff, htarget, separate_iff]

/-- Any other is refused for what is wrong with it. -/
theorem validate_eq_error_iff {e : Error} :
    p.validate = .error e ↔ ∃ d, p.defect? = some d ∧ e = .configuration (d.message p.subject) := by
  cases hdefect : p.defect? with
  | none =>
    rw [validate_eq_ok hdefect]
    simp
  | some d =>
    have hrefused : p.validate = .error (.configuration (d.message p.subject)) := by
      unfold validate
      split
      · rename_i d' hdefect'
        rw [hdefect, Option.some.injEq] at hdefect'
        rw [hdefect']
      · rename_i hdefect'
        rw [hdefect] at hdefect'
        cases hdefect'
    rw [hrefused, Except.error.injEq]
    simp [eq_comm]

/-! ## 4. The order of the tests -/

section Order

variable {ε : Type} [RemoteFailure ε] {order : List Meaning} {status : String}

/-- The first meaning of a status, if they are tried in this order. -/
def meaningIn (p : Policy) (order : List Meaning) (status : String) : Option Meaning :=
  order.find? (status ∈ p.states ·)

/-- What becomes of a wait that sees a status with this meaning, or with none: it ends, or goes on
with something to remark on or nothing. -/
def taken (p : Policy) (fault : Option String) (warned : List String) (status : String) :
    Option Meaning → Outcome ⊕ Option Notice
  | some .fatal => .inl (.failed (p.subject ++ " status " ++ status) fault .fatalStatus)
  | some .target => .inl (.converged status)
  | some .pending => .inr none
  | none => .inr (if status ∈ warned then none else some (.unrecognized status))

/-- What becomes of a wait with what a look gave. -/
def evaluate (p : Policy) (operation : Operation) (warned : List String)
    (response : Except ε Reading) : Outcome ⊕ Option Notice :=
  match p.verdict operation response with
  | some outcome => .inl outcome
  | none => .inr (p.remark warned response)

/-- The same if the meanings of a status are tried in this order. -/
def evaluateIn (p : Policy) (order : List Meaning) (operation : Operation) (warned : List String) :
    Except ε Reading → Outcome ⊕ Option Notice
  | .ok ⟨some status, fault⟩ => p.taken fault warned status (p.meaningIn order status)
  | response => p.evaluate operation warned response

/-- The judge tries the fatal states first and the pending ones last. -/
theorem evaluate_eq_evaluateIn (p : Policy) (operation : Operation) (warned : List String)
    (response : Except ε Reading) :
    p.evaluate operation warned response =
      p.evaluateIn [.fatal, .target, .pending] operation warned response := by
  rcases response with e | ⟨_ | status, fault⟩
  · rfl
  · rfl
  · unfold evaluate evaluateIn verdict judge meaningIn remark knows
    by_cases hfatal : status ∈ p.fatal
    · simp [hfatal, states, taken]
    · by_cases htarget : status ∈ p.target
      · simp [hfatal, htarget, states, taken]
      · by_cases hpending : status ∈ p.pending
        · simp [hfatal, htarget, hpending, states, taken]
        · simp [hfatal, htarget, hpending, states, taken]

/-- A state has one meaning at most. -/
theorem Separate.meaning_unique (hp : p.Separate) {one other : Meaning}
    (hone : status ∈ p.states one) (hother : status ∈ p.states other) : one = other := by
  cases one with
  | pending =>
    cases other with
    | pending => rfl
    | target => exact absurd hother (hp.pending_target status hone)
    | fatal => exact absurd hother (hp.pending_fatal status hone)
  | target =>
    cases other with
    | pending => exact absurd hone (hp.pending_target status hother)
    | target => rfl
    | fatal => exact absurd hother (hp.target_fatal status hone)
  | fatal =>
    cases other with
    | pending => exact absurd hone (hp.pending_fatal status hother)
    | target => exact absurd hone (hp.target_fatal status hother)
    | fatal => rfl

theorem mem_of_meaningIn {meaning : Meaning} (h : p.meaningIn order status = some meaning) :
    status ∈ p.states meaning := by
  have hfound := List.find?_some h
  exact decide_eq_true_iff.1 hfound

/-- So it is found in whatever order they are tried. -/
theorem Separate.meaningIn_eq_some_iff (hp : p.Separate) (hall : ∀ meaning, meaning ∈ order)
    {meaning : Meaning} : p.meaningIn order status = some meaning ↔ status ∈ p.states meaning := by
  refine ⟨mem_of_meaningIn, fun h => ?_⟩
  cases hfound : p.meaningIn order status with
  | none =>
    have hnot := List.find?_eq_none.1 hfound meaning (hall meaning)
    rw [decide_eq_true h] at hnot
    exact absurd rfl hnot
  | some found => rw [hp.meaning_unique (mem_of_meaningIn hfound) h]

/-- **If no state has two meanings, it makes no difference in which order they are tried.** -/
theorem Separate.evaluateIn_eq (hp : p.Separate) {order' : List Meaning}
    (hall : ∀ meaning, meaning ∈ order) (hall' : ∀ meaning, meaning ∈ order')
    (operation : Operation) (warned : List String) (response : Except ε Reading) :
    p.evaluateIn order operation warned response =
      p.evaluateIn order' operation warned response := by
  rcases response with e | ⟨_ | status, fault⟩
  · rfl
  · rfl
  · have hmeaning : p.meaningIn order status = p.meaningIn order' status := by
      refine Option.ext fun meaning => ?_
      rw [hp.meaningIn_eq_some_iff hall, hp.meaningIn_eq_some_iff hall']
    exact congrArg (p.taken fault warned status) hmeaning

/-- If one has, it does: a state that is both waited for and fatal ends the wait well or badly. -/
example :
    let p : Policy := { timeout := 1, target := .ofList ["ready"], fatal := .ofList ["ready"] }
    let response : Except Cloud.ApiFailure Reading := .ok (.of "ready")
    p.evaluateIn [.target, .fatal] .create [] response = .inl (.converged "ready") ∧
      p.evaluateIn [.fatal, .target] .create [] response =
        .inl (.failed "resource status ready" none .fatalStatus) := by
  decide

end Order

end Policy

/-- What a round of a wait does with what its look gave is what becomes of it. -/
theorem Wait.round_eq {I : Interface} {σ ε : Type} [RemoteFailure ε] (s : Wait) (R : Remote I σ)
    (operation : Operation) (query : Query I (Except ε Reading)) (watch : Watch) (looks : UInt32)
    (warned : List String) :
    s.round R operation query watch looks warned = (do
      match ← Act.pause watch 0 with
      | some cause => .inl <$> giveUp cause looks
      | none =>
        match ← Act.look R watch query with
        | .error cause => .inl <$> giveUp cause (looks + 1)
        | .ok response =>
          match s.policy.evaluate operation warned response with
          | .inl outcome =>
            Act.note (.finished (looks + 1))
            return .inl outcome
          | .inr remark =>
            remark.forM Act.note
            match ← Act.pause watch s.policy.tick with
            | some cause => .inl <$> giveUp cause (looks + 1)
            | none => return .inr (Policy.warnedAfter warned remark)) := by
  unfold round
  refine bind_congr fun gate => ?_
  cases gate with
  | some cause => rfl
  | none =>
    dsimp only
    refine bind_congr fun looked => ?_
    cases looked with
    | error cause => rfl
    | ok response =>
      unfold Policy.evaluate
      dsimp only
      cases s.policy.verdict operation response with
      | some outcome => rfl
      | none => rfl

/-! ## 5. The policies in use -/

namespace Cloud.Preset

section Every

variable {subject : String} {initialDelay least : Nat} {pending target fatal : List String}

/-- A preset whose words are kept apart is accepted if there is time for it. -/
theorem every_accepted (timeout : Nat) (hsome : target ≠ [])
    (hpending : ∀ word ∈ pending, word ∉ target ∧ word ∉ fatal)
    (htarget : ∀ word ∈ target, word ∉ fatal) :
    (every subject timeout initialDelay least pending target fatal).Accepted ↔ timeout ≠ 0 := by
  rw [Policy.accepted_iff]
  obtain ⟨word, hword⟩ := List.exists_mem_of_ne_nil target hsome
  constructor
  · intro h
    exact h.2.1
  · intro htimeout
    exact ⟨⟨word, StateSet.mem_ofList.2 hword⟩, htimeout, every_separate hpending htarget⟩

end Every

/-- The presets that leave the timeout to the caller. -/
def timed : List (Nat → Policy) :=
  [volumeAvailable, volumeDeleted, imageActive, snapshotAvailable, snapshotDeleted, networkReady,
    portDown, portAttached, ruleAdded, ruleRemoved]

theorem timed_accepted {preset : Nat → Policy} (h : preset ∈ timed) (timeout : Nat) :
    (preset timeout).Accepted ↔ timeout ≠ 0 := by
  simp only [timed, List.mem_cons, List.not_mem_nil, or_false] at h
  rcases h with rfl | rfl | rfl | rfl | rfl | rfl | rfl | rfl | rfl | rfl <;>
    exact every_accepted timeout (by decide) (by decide) (by decide)

end Cloud.Preset

theorem JobWait.policy_accepted (j : JobWait) (timeout : Nat) :
    (j.policy timeout).Accepted ↔ timeout ≠ 0 := by
  rw [Policy.accepted_iff_defect?]
  constructor
  · intro h
    exact Nat.ne_of_gt (Policy.timeout_pos h)
  · intro htimeout
    exact j.policy_valid (Nat.pos_of_ne_zero htimeout)

/-- What can be relied on when a policy is validated. -/
structure PoliciesValidated (ε : Type) [RemoteFailure ε] : Prop where
  /-- It is accepted, and as it is, exactly if it makes sense. -/
  accepted : ∀ p : Policy,
    p.Accepted ↔ (∃ state, state ∈ p.target) ∧ p.timeout ≠ 0 ∧ p.Separate
  /-- It is refused for the first of the conditions that it violates. -/
  refused : ∀ (p : Policy) (e : Error), p.validate = .error e ↔
    ∃ d, p.Violates d ∧ (∀ d', p.Violates d' → d.rank ≤ d'.rank) ∧
      e = .configuration (d.message p.subject)
  /-- The judge tries the meanings of a status in one order, -/
  tried : ∀ (p : Policy) (operation : Operation) (warned : List String)
    (response : Except ε Reading), p.evaluate operation warned response =
      p.evaluateIn [.fatal, .target, .pending] operation warned response
  /-- and under a policy that is accepted it might try them in any. -/
  unordered : ∀ (p : ValidPolicy) (order : List Meaning), (∀ meaning, meaning ∈ order) →
    ∀ (operation : Operation) (warned : List String) (response : Except ε Reading),
      p.evaluateIn order operation warned response = p.evaluate operation warned response
  presets : ∀ preset ∈ Cloud.Preset.timed, ∀ timeout, (preset timeout).Accepted ↔ timeout ≠ 0
  jobs : ∀ (j : JobWait) (timeout : Nat), (j.policy timeout).Accepted ↔ timeout ≠ 0

/-- **A policy is accepted exactly if it makes sense, is refused for the first thing that does not,
and once it is accepted the order in which its states are tested does not matter.** -/
theorem policies_validated (ε : Type) [RemoteFailure ε] : PoliciesValidated ε where
  accepted p := p.accepted_iff
  refused p e := by
    rw [Policy.validate_eq_error_iff]
    refine exists_congr fun d => ?_
    rw [Policy.defect?_eq_some_iff, and_assoc]
  tried p operation warned response := p.evaluate_eq_evaluateIn operation warned response
  unordered p order hall operation warned response := by
    have haccepted : p.Accepted := Policy.accepted_iff_defect?.2 p.valid
    have hseparate : p.Separate := (Policy.accepted_iff.1 haccepted).2.2
    rw [Policy.evaluate_eq_evaluateIn]
    refine hseparate.evaluateIn_eq hall (fun meaning => ?_) operation warned response
    cases meaning <;> simp
  presets _ h timeout := Cloud.Preset.timed_accepted h timeout
  jobs j timeout := j.policy_accepted timeout

end Settle
