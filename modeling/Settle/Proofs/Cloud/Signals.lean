/-
Signals decide what a failed call means.

A failed call may have an HTTP status and an error code, and always has prose. What it
means is said here by these fields and not by the order in which they are looked at:
status and code are its signals, and only a failure without either is taken by its word.
The word is what the service wrote, and not the text that is displayed, which begins with
the name of the operation.

A wait goes by the meaning of its failed looks, whichever operation it waits for
(`wait_obeys`). A failure that is heard in time ends the wait if its meaning says so, and
with the outcome that it says; a wait times out at a failed look only if the deadline or
the caller's token came before the answer (`EndsWithFailure`). So prose that mentions a
missing resource cannot make a deletion converge once there is a status or a code that
says something else.
-/
import Settle.Cloud.ApiFailure
import Settle.Proofs.Rewording

set_option autoImplicit false

namespace Settle.Cloud.ApiFailure

/-! ## 1. The meaning of a failure -/

/-- The failure has a status or a code. -/
def Signalled (e : ApiFailure) : Prop := e.status ≠ none ∨ e.code ≠ none

/-- Its status or its code says that the resource is missing. -/
def SignalsAbsence (e : ApiFailure) : Prop :=
  e.status = some 404 ∨ ∃ stem, e.code = some (stem ++ "NotFound")

/-- Its code says that the service is unavailable for the moment. -/
def SignalsUnavailable (e : ApiFailure) : Prop :=
  e.code = some "pcloudCloudconnectionsPostServiceUnavailable" ∨
    e.code = some "pcloudCloudconnectionsPutServiceUnavailable"

/-- It says that the resource is missing: by a signal, or by its prose if it has no signal. -/
def MeansAbsence (e : ApiFailure) : Prop :=
  e.SignalsAbsence ∨ ¬ e.Signalled ∧ Text.reportsAbsence e.text = true

theorem absentCode_iff (code : String) :
    absentCode code = true ↔ ∃ stem, code = stem ++ "NotFound" := by
  unfold absentCode
  rw [List.isSuffixOf_iff_suffix]
  constructor
  · rintro ⟨stem, hstem⟩
    refine ⟨String.ofList stem, String.toList_injective ?_⟩
    rw [String.toList_append, String.toList_ofList, hstem]
  · rintro ⟨stem, rfl⟩
    rw [String.toList_append]
    exact List.suffix_append _ _

theorem hasSignal_iff (e : ApiFailure) : e.hasSignal = true ↔ e.Signalled := by
  unfold hasSignal Signalled
  rw [Bool.or_eq_true, Option.isSome_iff_ne_none, Option.isSome_iff_ne_none]

theorem signalled_of_signalsAbsence {e : ApiFailure} (h : e.SignalsAbsence) : e.Signalled := by
  rcases h with hstatus | ⟨stem, hcode⟩
  · exact .inl (by simp [hstatus])
  · exact .inr (by simp [hcode])

theorem signalled_of_signalsUnavailable {e : ApiFailure} (h : e.SignalsUnavailable) :
    e.Signalled := by
  rcases h with hcode | hcode
  · exact .inr (by simp [hcode])
  · exact .inr (by simp [hcode])

/-- The code of an absent resource is found in a code that is there. -/
theorem any_absentCode_iff (code : Option String) :
    code.any absentCode = true ↔ ∃ stem, code = some (stem ++ "NotFound") := by
  cases code with
  | none => simp
  | some code => simp [absentCode_iff]

theorem isAbsent_iff (e : ApiFailure) : RemoteFailure.isAbsent e = true ↔ e.MeansAbsence := by
  change (e.status == some absentStatus || e.code.any absentCode ||
    (!e.hasSignal && Text.reportsAbsence e.text)) = true ↔ _
  rw [Bool.or_eq_true, Bool.or_eq_true, beq_iff_eq, any_absentCode_iff, Bool.and_eq_true,
    Bool.not_eq_true', ← Bool.not_eq_true, hasSignal_iff]
  exact Iff.rfl

theorem isTransient_iff (e : ApiFailure) :
    RemoteFailure.isTransient e = true ↔ e.SignalsUnavailable := by
  change e.code.any (· ∈ transientCodes) = true ↔ _
  unfold SignalsUnavailable
  cases e.code with
  | none => simp
  | some code => simp [transientCodes]

/-- **The class of a failure is its meaning.** -/
theorem classify_eq_absent_iff (e : ApiFailure) :
    RemoteFailure.classify e = .absent ↔ e.MeansAbsence := by
  rw [← isAbsent_iff]
  unfold RemoteFailure.classify
  split
  · simp [*]
  · split <;> simp [*]

theorem classify_eq_transient_iff (e : ApiFailure) :
    RemoteFailure.classify e = .transient ↔ ¬ e.MeansAbsence ∧ e.SignalsUnavailable := by
  rw [← isAbsent_iff, ← isTransient_iff]
  unfold RemoteFailure.classify
  split
  · simp [*]
  · split <;> simp [*]

theorem classify_eq_fatal_iff (e : ApiFailure) :
    RemoteFailure.classify e = .fatal ↔ ¬ e.MeansAbsence ∧ ¬ e.SignalsUnavailable := by
  rw [← isAbsent_iff, ← isTransient_iff]
  unfold RemoteFailure.classify
  split
  · simp [*]
  · split <;> simp [*]

/-- With a signal, prose adds nothing to it. -/
theorem meansAbsence_of_signalled {e : ApiFailure} (h : e.Signalled) :
    e.MeansAbsence ↔ e.SignalsAbsence := by
  unfold MeansAbsence
  simp [h]

/-- Without one, prose is all there is. -/
theorem meansAbsence_of_not_signalled {e : ApiFailure} (h : ¬ e.Signalled) :
    e.MeansAbsence ↔ Text.reportsAbsence e.text = true := by
  have hsilent : ¬ e.SignalsAbsence := fun habsent => h (signalled_of_signalsAbsence habsent)
  unfold MeansAbsence
  simp [h, hsilent]

/-- Failures with the same signals have the same class, and so do failures without any that say the
same. -/
theorem classify_congr {e e' : ApiFailure} (hstatus : e'.status = e.status)
    (hcode : e'.code = e.code) (htext : ¬ e.Signalled → e'.text = e.text) :
    RemoteFailure.classify e' = RemoteFailure.classify e := by
  have hsignalled : e'.Signalled ↔ e.Signalled := by
    unfold Signalled
    rw [hstatus, hcode]
  have habsence : e'.SignalsAbsence ↔ e.SignalsAbsence := by
    unfold SignalsAbsence
    rw [hstatus, hcode]
  have hunavailable : e'.SignalsUnavailable ↔ e.SignalsUnavailable := by
    unfold SignalsUnavailable
    rw [hcode]
  have hmeans : e'.MeansAbsence ↔ e.MeansAbsence := by
    unfold MeansAbsence
    rw [habsence, hsignalled]
    refine or_congr_right (and_congr_right fun hsilent => ?_)
    rw [htext hsilent]
  cases hclass : RemoteFailure.classify e with
  | absent =>
    rw [classify_eq_absent_iff] at hclass ⊢
    exact hmeans.2 hclass
  | transient =>
    rw [classify_eq_transient_iff] at hclass ⊢
    rw [hmeans, hunavailable]
    exact hclass
  | fatal =>
    rw [classify_eq_fatal_iff] at hclass ⊢
    rw [hmeans, hunavailable]
    exact hclass

/-! ## 2. What a wait makes of it -/

section Wait

variable {I : Interface} {σ : Type}

/-- How a wait on this subject ends with a failed look that it hears: by the meaning of the failure.
A failure that means neither passes, and is none of these. -/
inductive Decides (e : ApiFailure) (subject : String) (operation : Operation) : Outcome → Prop
  | deleted (h : e.MeansAbsence) (hdelete : operation = .delete) :
    Decides e subject operation (.converged "deleted")
  | missing (h : e.MeansAbsence) (hdelete : operation ≠ .delete) :
    Decides e subject operation
      (.failed (subject ++ " not found: " ++ e.message) none .notFound)
  | broken (h : ¬ e.MeansAbsence) (hlasting : ¬ e.SignalsUnavailable) :
    Decides e subject operation
      (.failed ("failed to fetch " ++ subject ++ " status: " ++ e.message) none .remoteError)

/-- **The verdict on a failed look is the meaning of the failure**, for every policy and
operation. -/
theorem verdict_error_eq_some_iff {p : ValidPolicy} {operation : Operation} {e : ApiFailure}
    {outcome : Outcome} :
    p.verdict operation (.error e : Except ApiFailure Reading) = some outcome ↔
      e.Decides p.subject operation outcome := by
  rw [p.verdict_eq_some_iff]
  constructor
  · intro h
    cases h with
    | deleted habsent hdelete => exact .deleted ((classify_eq_absent_iff e).1 habsent) hdelete
    | absent habsent hdelete => exact .missing ((classify_eq_absent_iff e).1 habsent) hdelete
    | broken hfatal =>
      obtain ⟨hpresent, hlasting⟩ := (classify_eq_fatal_iff e).1 hfatal
      exact .broken hpresent hlasting
  · intro h
    cases h with
    | deleted habsent hdelete => exact .deleted ((classify_eq_absent_iff e).2 habsent) hdelete
    | missing habsent hdelete => exact .absent ((classify_eq_absent_iff e).2 habsent) hdelete
    | broken hpresent hlasting =>
      exact .broken ((classify_eq_fatal_iff e).2 ⟨hpresent, hlasting⟩)

/-- There is none on a failure that passes. -/
theorem verdict_error_eq_none_iff {p : ValidPolicy} {operation : Operation} {e : ApiFailure} :
    p.verdict operation (.error e : Except ApiFailure Reading) = none ↔
      ¬ e.MeansAbsence ∧ e.SignalsUnavailable := by
  rw [← classify_eq_transient_iff]
  constructor
  · intro h
    exact Policy.transient_of_open h
  · intro h
    change p.judgeFailure operation e = none
    unfold Policy.judgeFailure
    rw [h]

/-- How a wait ends in this world with its last look, if that fails. -/
inductive EndsWithFailure (s : Wait) (operation : Operation) (watch : Watch) (w : World I σ)
    (arrival : Nat) (e : ApiFailure) : Outcome → Prop
  /-- The token fires before the failure is heard. -/
  | cancelled (hcause : w.Interrupted watch .cancelled) (hlost : w.now < arrival) :
    EndsWithFailure s operation watch w arrival e (.timedOut .cancelled)
  /-- The failure is not heard before the deadline. -/
  | late (hcause : w.Interrupted watch .deadline) (hlost : w.now ≤ arrival) :
    EndsWithFailure s operation watch w arrival e (.timedOut .deadline)
  /-- It is heard in time, and its meaning ends the wait there and then. -/
  | heard {outcome : Outcome} (harrival : arrival = w.now) (hintime : watch.expired w.now = false)
    (hdecides : e.Decides s.policy.subject operation outcome) :
    EndsWithFailure s operation watch w arrival e outcome

/-- What a wait does with the failures among its looks, if the first look is due at this time. -/
structure Obeys (s : Wait) (operation : Operation) (query : Query I (Except ApiFailure Reading))
    (watch : Watch) (due : Nat) (earlier last : List query.Call) (outcome : Outcome)
    (w : World I σ) : Prop where
  one_last : last.length ≤ 1
  /-- After each of the earlier looks there is another when that is due, -/
  punctual : Wait.Punctual s.policy.tick due (earlier ++ last)
  /-- unless something ends the wait before. -/
  idle : last = [] → ∃ cause, outcome = .timedOut cause ∧ w.Interrupted watch cause ∧
    w.now ≤ Wait.nextDue s.policy.tick due earlier
  /-- The earlier failures are heard in time, and they are those of a service that is unavailable
  for the moment. -/
  passing : ∀ c ∈ earlier, ∀ e, c.result = .error e →
    c.arrival ≤ w.now ∧ watch.expired c.arrival = false ∧ ¬ e.MeansAbsence ∧ e.SignalsUnavailable
  /-- The last failure may come too late; if it is heard, its meaning decides. -/
  deciding : ∀ c ∈ last, ∀ e, c.result = .error e →
    EndsWithFailure s operation watch w c.arrival e outcome

theorem wait_obeys {s : Wait} {R : Remote I σ} {operation : Operation}
    {query : Query I (Except ApiFailure Reading)} {w w' : World I σ} {outcome : Outcome}
    (h : (s.run R operation query).runIn w = (some outcome, w')) :
    ∃ earlier last : List query.Call,
      w.Leads ((earlier ++ last).map Query.Call.exchange) w' ∧
        Obeys s operation query (s.watchFrom w.now) (w.now + s.policy.initialDelay) earlier last
          outcome w' := by
  obtain ⟨heard, last, notes, htold⟩ := Wait.run_tells h
  have hending := htold.ending
  refine ⟨heard, last, htold.leads, ?_, htold.punctual, ?_, ?_, ?_⟩
  · cases hending <;> simp
  · rintro rfl
    cases hending with
    | idle hcause hdue => exact ⟨_, rfl, hcause, hdue⟩
  · -- A look that leaves the wait open and fails does so for a passing reason.
    intro c hc e he
    obtain ⟨hopen, hbefore, hintime⟩ := htold.heard_open c hc
    rw [he] at hopen
    exact ⟨hbefore, hintime, verdict_error_eq_none_iff.1 hopen⟩
  · intro c hc e he
    cases hending with
    | idle _ _ => exact absurd hc List.not_mem_nil
    | cancelled hcause hlost =>
      rw [List.mem_singleton] at hc
      subst hc
      exact .cancelled hcause hlost
    | late hcause hlost =>
      rw [List.mem_singleton] at hc
      subst hc
      exact .late hcause hlost
    | settled harrival hintime hverdict =>
      rw [List.mem_singleton] at hc
      subst hc
      rw [he] at hverdict
      exact .heard harrival hintime (verdict_error_eq_some_iff.1 hverdict)

/-- A wait converges on its last look, and if that failed it says that the resource is missing. -/
theorem wait_converges {s : Wait} {R : Remote I σ} {operation : Operation}
    {query : Query I (Except ApiFailure Reading)} {w w' : World I σ} {status : String}
    (h : (s.run R operation query).runIn w = (some (.converged status), w')) :
    ∃ (earlier : List query.Call) (c : query.Call),
      w.Leads ((earlier ++ [c]).map Query.Call.exchange) w' ∧
        ∀ e, c.result = .error e → operation = .delete ∧ e.MeansAbsence := by
  obtain ⟨heard, last, notes, htold⟩ := Wait.run_tells h
  have hleads := htold.leads
  cases htold.ending with
  | @settled c _ _ _ hverdict =>
    refine ⟨heard, c, hleads, fun e he => ?_⟩
    rw [he] at hverdict
    cases verdict_error_eq_some_iff.1 hverdict with
    | deleted hmeans hdelete => exact ⟨hdelete, hmeans⟩

end Wait

/-! ## 3. Signals before prose -/

/-- What it means that signals decide and prose does not. -/
structure SignalsDecide (I : Interface) (σ : Type) : Prop where
  /-- Failures with the same status and the same code, one of which is there, have the same class,
  whatever their operations and texts. -/
  same_class : ∀ e e' : ApiFailure, e.Signalled → e'.status = e.status → e'.code = e.code →
    RemoteFailure.classify e' = RemoteFailure.classify e
  /-- With a signal, a resource is missing if the status is 404 or the code ends in `NotFound`; -/
  absent_iff : ∀ e : ApiFailure, e.Signalled →
    (RemoteFailure.classify e = .absent ↔ e.SignalsAbsence)
  /-- else the failure passes if the code is one of the two; -/
  transient_iff : ∀ e : ApiFailure, e.Signalled → ¬ e.SignalsAbsence →
    (RemoteFailure.classify e = .transient ↔ e.SignalsUnavailable)
  /-- else it does not pass. -/
  fatal : ∀ e : ApiFailure, e.Signalled → ¬ e.SignalsAbsence → ¬ e.SignalsUnavailable →
    RemoteFailure.classify e = .fatal
  /-- Without a signal, a resource is missing if the bare text says so, and else the failure does
  not pass. -/
  unsignalled : ∀ e : ApiFailure, ¬ e.Signalled →
    RemoteFailure.classify e = if Text.reportsAbsence e.text then .absent else .fatal
  /-- The operation, with which the displayed text begins, is nowhere looked at. -/
  operation_ignored : ∀ (e : ApiFailure) (operation : String),
    RemoteFailure.classify { e with operation } = RemoteFailure.classify e
  /-- The error of a failed call is that of its meaning. -/
  errors : ∀ (e : ApiFailure) (attempts : Nat),
    (e.MeansAbsence → Error.ofFailure e attempts = .notFound e.message) ∧
    (¬ e.MeansAbsence → e.SignalsUnavailable →
      Error.ofFailure e attempts = .transientExhausted attempts e.message) ∧
    (¬ e.MeansAbsence → ¬ e.SignalsUnavailable → Error.ofFailure e attempts = .remote e.message)
  /-- Under every policy, and whichever operation is waited for, a failed look that is heard ends a
  wait by its meaning, or not at all if it passes. -/
  verdicts : ∀ (p : ValidPolicy) (operation : Operation) (e : ApiFailure),
    (∀ outcome, p.verdict operation (.error e : Except ApiFailure Reading) = some outcome ↔
      e.Decides p.subject operation outcome) ∧
    (p.verdict operation (.error e : Except ApiFailure Reading) = none ↔
      ¬ e.MeansAbsence ∧ e.SignalsUnavailable)
  /-- A wait goes by the meaning of its failed looks, -/
  waits : ∀ (s : Wait) (R : Remote I σ) (operation : Operation)
    (query : Query I (Except ApiFailure Reading)) (w w' : World I σ) (outcome : Outcome),
    (s.run R operation query).runIn w = (some outcome, w') →
      ∃ earlier last : List query.Call,
        w.Leads ((earlier ++ last).map Query.Call.exchange) w' ∧
          Obeys s operation query (s.watchFrom w.now) (w.now + s.policy.initialDelay) earlier last
            outcome w'
  /-- and with a tick of some length every wait ends, -/
  ends : ∀ (s : Wait) (R : Remote I σ) (operation : Operation)
    (query : Query I (Except ApiFailure Reading)) (w : World I σ), 1 ≤ s.policy.tick →
      ∃ outcome w', (s.run R operation query).runIn w = (some outcome, w') ∧
        w'.now ≤ w.now + s.policy.timeout
  /-- so it does the same if all of them are reworded and keep their signals. -/
  rewording : ∀ reword : ApiFailure → ApiFailure,
    (∀ e, (reword e).status = e.status ∧ (reword e).code = e.code) →
    (∀ e, ¬ e.Signalled → (reword e).text = e.text) →
    ∀ (s : Wait) (R : Remote I σ) (operation : Operation)
      (query : Query I (Except ApiFailure Reading)) (w : World I σ),
      Option.Rel Outcome.SameMeaning ((s.run R operation query).runIn w).1
          ((s.run R operation (query.map (Except.mapError reword))).runIn w).1 ∧
        ((s.run R operation query).runIn w).2.Reworded
          ((s.run R operation (query.map (Except.mapError reword))).runIn w).2
  /-- A failure with a status other than 404, and without a code that ends in `NotFound`, is never
  what a deletion converges on. -/
  deletions : ∀ (s : Wait) (R : Remote I σ) (query : Query I (Except ApiFailure Reading))
    (w w' : World I σ) (status : String),
    (s.run R .delete query).runIn w = (some (.converged status), w') →
      ∃ (earlier : List query.Call) (c : query.Call),
        w.Leads ((earlier ++ [c]).map Query.Call.exchange) w' ∧
          ∀ e n, e.status = some n → n ≠ 404 → (∀ stem, e.code ≠ some (stem ++ "NotFound")) →
            c.result ≠ .error e

/-- The meaning of a failure makes its error. -/
theorem ofFailure_eq (e : ApiFailure) (attempts : Nat) :
    (e.MeansAbsence → Error.ofFailure e attempts = .notFound e.message) ∧
    (¬ e.MeansAbsence → e.SignalsUnavailable →
      Error.ofFailure e attempts = .transientExhausted attempts e.message) ∧
    (¬ e.MeansAbsence → ¬ e.SignalsUnavailable →
      Error.ofFailure e attempts = .remote e.message) := by
  unfold Error.ofFailure
  refine ⟨fun habsent => ?_, fun hpresent hbusy => ?_, fun hpresent hlasting => ?_⟩
  · rw [(classify_eq_absent_iff e).2 habsent]
    rfl
  · rw [(classify_eq_transient_iff e).2 ⟨hpresent, hbusy⟩]
    rfl
  · rw [(classify_eq_fatal_iff e).2 ⟨hpresent, hlasting⟩]
    rfl

/-- **Signals decide what a failed call means, and prose never overrides them.** -/
theorem signals_decide {I : Interface} {σ : Type} : SignalsDecide I σ where
  same_class e e' hsignalled hstatus hcode :=
    classify_congr hstatus hcode fun hsilent => absurd hsignalled hsilent
  absent_iff e hsignalled := by
    rw [classify_eq_absent_iff, meansAbsence_of_signalled hsignalled]
  transient_iff e hsignalled habsent := by
    rw [classify_eq_transient_iff, meansAbsence_of_signalled hsignalled]
    simp [habsent]
  fatal e hsignalled habsent hlasting := by
    rw [classify_eq_fatal_iff, meansAbsence_of_signalled hsignalled]
    exact ⟨habsent, hlasting⟩
  unsignalled e hsilent := by
    have hlasting : ¬ e.SignalsUnavailable := fun h => hsilent (signalled_of_signalsUnavailable h)
    have hmeans := meansAbsence_of_not_signalled hsilent
    by_cases hreports : Text.reportsAbsence e.text = true
    · rw [if_pos hreports, classify_eq_absent_iff]
      exact hmeans.2 hreports
    · rw [if_neg hreports, classify_eq_fatal_iff, hmeans]
      exact ⟨hreports, hlasting⟩
  operation_ignored e operation := classify_congr rfl rfl fun _ => rfl
  errors := ofFailure_eq
  verdicts _ _ _ := ⟨fun _ => verdict_error_eq_some_iff, verdict_error_eq_none_iff⟩
  waits _ _ _ _ _ _ _ h := wait_obeys h
  ends s R operation query w htick := s.run_ends R operation query htick w
  rewording reword hsignals htext s R operation query w := by
    have hkeeps : KeepsClass reword := fun e =>
      classify_congr (hsignals e).1 (hsignals e).2 (htext e)
    exact Wait.run_reworded hkeeps s R operation query w
  deletions s R query w w' status h := by
    obtain ⟨earlier, c, hleads, hfailed⟩ := wait_converges h
    refine ⟨earlier, c, hleads, fun e n hstatus hother hcode he => ?_⟩
    -- A status is a signal, so the text of the failure cannot have been what it went by.
    have hsignalled : e.Signalled := .inl (by simp [hstatus])
    rcases (meansAbsence_of_signalled hsignalled).1 (hfailed e he).2 with habsent | ⟨stem, hstem⟩
    · rw [hstatus, Option.some.injEq] at habsent
      exact hother habsent
    · exact hcode stem hstem

/-- The displayed text of a failure without signals may mention a missing resource by the name of
its operation alone. -/
example : Text.reportsAbsence (legacy "volumeNotFound" "boom").message = true ∧
    RemoteFailure.classify (legacy "volumeNotFound" "boom") = .fatal := by decide

end Settle.Cloud.ApiFailure
