/-
What becomes of the fault text of the remote side.

A reading on which a wait fails may come with a fault text, and the outcome of the wait
always has it. The error that the caller gets is made from the outcome (`into_result`),
and an error has a place for the text only if the reading had a status: `reportedFault` is
what gets through. The same holds for the inspection of a resize, which judges one reading
by itself, and for jobs, whose message is the fault of their reading.

So the text of a reading without status is lost, although it is at hand when the
error is made.
-/
import Settle.Proofs.Resize.Order
import Settle.Proofs.Vigil.ClosedForm

set_option autoImplicit false

namespace Settle

variable {I : Interface} {σ ε ρ : Type}

/-! ## 1. Readings and outcomes -/

/-- The fault text of a failing reading as far as an error reports it: that of a reading
without status is lost. -/
def Reading.reportedFault (r : Reading) : Option String := r.status.bind fun _ => r.fault

/-- A wait failed on a reading: the outcome has the fault text as it was given, and the error has
what is reported of it. -/
structure Outcome.FailsOn (outcome : Outcome) (r : Reading) : Prop where
  kept : ∃ reason kind, outcome = .failed reason r.fault kind
  reported : ∃ e, outcome.result = .error e ∧ e.fault? = r.reportedFault

/-- Every failure that a reading means to a wait is one on that reading. -/
theorem ValidPolicy.failsOn [RemoteFailure ε] (p : ValidPolicy) {operation : Operation}
    {r : Reading} {reason : String} {fault : Option String} {kind : FailureKind}
    (h : p.verdict operation (.ok r : Except ε Reading) = some (.failed reason fault kind)) :
    (Outcome.failed reason fault kind).FailsOn r := by
  rw [p.verdict_eq_some_iff] at h
  cases h with
  | missing fault => exact ⟨⟨_, _, rfl⟩, _, rfl, rfl⟩
  | fatal fault hfatal => exact ⟨⟨_, _, rfl⟩, _, rfl, rfl⟩

/-- Phases do not hide the fault text. -/
theorem Error.fault?_inPhase (phase : Phase) (e : Error) :
    (Error.inPhase phase e).fault? = e.fault? :=
  rfl

variable [RemoteFailure ε]

/-! ## 2. Inspections -/

namespace Resize

/-- A reading on which an inspection fails. -/
def Refuses (r : Resize) (reading : Reading) : Prop :=
  ∀ status, reading.status = some status → status ∈ r.stop.fatal

/-- What an inspection makes of a reading. -/
def inspected (r : Resize) (reading : Reading) : Except Error String :=
  match reading.status with
  | some status =>
    if status ∈ r.stop.fatal then
      .error (.remoteFault (r.stop.subject ++ " status " ++ status) reading.fault)
    else .ok status
  | none => .error (.invalidPayload (r.stop.subject ++ " status missing from response"))

/-- An inspection that fails on a reading reports its fault like a wait does. -/
theorem inspected_of_refuses {r : Resize} {reading : Reading} (h : r.Refuses reading) :
    ∃ e, r.inspected reading = .error e ∧ e.fault? = reading.reportedFault := by
  rcases reading with ⟨_ | status, fault⟩
  · exact ⟨_, rfl, rfl⟩
  · simp only [inspected, if_pos (h status rfl)]
    exact ⟨_, rfl, rfl⟩

theorem inspect_eq (r : Resize) (R : Remote I σ) (query : Query I (Except ε Reading)) :
    r.inspect R query = (do
      let reading ← r.retry.call r.heeds R query
      ExceptT.mk (pure (r.inspected reading))) := by
  unfold inspect
  congr 1
  funext reading
  rcases reading with ⟨_ | status, fault⟩
  · rfl
  · simp only [inspected]
    split <;> rfl

/-- An inspection that gets to see a reading ends with what it makes of the last one. -/
theorem inspect_ends (r : Resize) (R : Remote I σ) (query : Query I (Except ε Reading)) :
    Task.Ends (r.inspect R query) fun exchanges o =>
      ∃ calls : List query.Call, exchanges = calls.map Query.Call.exchange ∧
        ∀ reading, EndsWith calls (.ok reading) → o = some (r.inspected reading) := by
  rw [inspect_eq]
  refine .bind (r.retry.call_ends r.heeds) ?_ ?_ ?_
  · rintro _ ⟨calls, rfl, -, hlast⟩
    exact ⟨calls, rfl, fun reading hends => absurd ((hlast reading).2 hends) (by simp)⟩
  · rintro _ e ⟨calls, rfl, -, hlast⟩
    exact ⟨calls, rfl, fun reading hends => absurd ((hlast reading).2 hends) (by simp)⟩
  · rintro _ reading ⟨calls, rfl, -, hlast⟩
    refine Act.Yields.pure ?_
    rw [List.append_nil]
    refine ⟨calls, rfl, fun other hends => ?_⟩
    -- The reading that was returned is the one that was seen last.
    rw [Except.ok.inj (Option.some.inj ((hlast other).2 hends))]

/-- What a resize does about an inspected status makes exchanges like everything else. -/
theorem proceed_ends (r : Resize) (R : Remote I σ) (resource : Resource I ε ρ) (id : String)
    (payload : ρ) (current : String) :
    Task.Ends (if current ∈ r.stop.target then do
        Task.note (.alreadyStopped current)
        r.change R resource id payload true
      else do
        discard (r.act R resource id .stopping (resource.stop id) r.stop)
        r.change R resource id payload false) fun _ _ => True := by
  split
  · exact .note_bind ((r.change_ends true).mono fun _ _ _ => trivial)
  · refine .discard_bind (.of_yields (r.act_spec .stopping r.stop) fun _ _ _ => during_error)
      (fun _ _ => trivial) (fun _ _ _ => trivial) fun _ _ _ => ?_
    exact (r.change_ends false).mono fun _ _ _ => trivial

/-- **A resize whose inspection fails on a reading ends there**, and its error reports the fault
of the reading. -/
theorem run_inspection (r : Resize) (R : Remote I σ) (resource : Resource I ε ρ)
    (id : String) (payload : ρ) :
    Task.Ends (r.run R resource id payload) fun exchanges o =>
      ∃ (inspections : List (resource.status id).Call) (later : List (Exchange I)),
        exchanges = inspections.map Query.Call.exchange ++ later ∧
        ∀ reading, EndsWith inspections (.ok reading) → r.Refuses reading →
          later = [] ∧ ∃ e, o = some (.error (.inPhase .inspecting e)) ∧
            (Error.inPhase .inspecting e).fault? = reading.reportedFault := by
  rw [run_eq]
  have hinspect : Task.Ends (during .inspecting (r.inspect R (resource.status id)))
      fun exchanges o =>
        ∃ calls : List (resource.status id).Call, exchanges = calls.map Query.Call.exchange ∧
          ∀ reading, EndsWith calls (.ok reading) →
            o = some ((r.inspected reading).mapError (.inPhase .inspecting)) := by
    refine .adapt ((r.inspect_ends R (resource.status id)).mono ?_)
    rintro _ o ⟨calls, rfl, hlast⟩
    refine ⟨calls, rfl, fun reading hends => ?_⟩
    rw [hlast reading hends, Option.map_some]
  refine hinspect.bind ?_ ?_ ?_
  · rintro _ ⟨calls, rfl, hlast⟩
    refine ⟨calls, [], (List.append_nil _).symm, fun reading hends _ => ?_⟩
    exact absurd (hlast reading hends) (by simp)
  · rintro _ e ⟨calls, rfl, hlast⟩
    refine ⟨calls, [], (List.append_nil _).symm, fun reading hends hrefuses => ⟨rfl, ?_⟩⟩
    obtain ⟨source, hsource, hfault⟩ := inspected_of_refuses hrefuses
    have he := hlast reading hends
    rw [hsource] at he
    cases he
    exact ⟨source, rfl, (Error.fault?_inPhase _ source).trans hfault⟩
  · rintro _ current ⟨calls, rfl, hlast⟩
    refine (r.proceed_ends R resource id payload current).mono fun later o _ => ?_
    refine ⟨calls, later, rfl, fun reading hends hrefuses => ?_⟩
    -- A reading that is refused would not have given a status to go on with.
    obtain ⟨source, hsource, -⟩ := inspected_of_refuses hrefuses
    have hcurrent := hlast reading hends
    rw [hsource] at hcurrent
    cases hcurrent

end Resize

/-! ## 3. All ways to the caller -/

/-- What gets through of the fault text of a reading on which an operation fails, whichever way it
takes to the caller: all of it, unless the reading had no status. -/
structure FaultsReported (I : Interface) (σ ε ρ : Type) [RemoteFailure ε] : Prop where
  /-- A wait that fails, and whose last look gave a reading. -/
  waits : ∀ (s : Wait) (R : Remote I σ) (operation : Operation)
    (query : Query I (Except ε Reading)) (w : World I σ),
    ∃ looks : List query.Call,
      ((s.run R operation query).runIn w).2.trace.toList =
        w.trace.toList ++ looks.map Query.Call.exchange ∧
      ∀ reason fault kind reading,
        ((s.run R operation query).runIn w).1 = some (.failed reason fault kind) →
          EndsWith looks (.ok reading) → (Outcome.failed reason fault kind).FailsOn reading
  /-- A resize whose inspection gave a reading on which it fails. -/
  inspections : ∀ (r : Resize) (R : Remote I σ) (resource : Resource I ε ρ) (id : String)
    (payload : ρ) (w : World I σ),
    ∃ (looks : List (resource.status id).Call) (later : List (Exchange I)),
      ((r.run R resource id payload).run.runIn w).2.trace.toList =
        w.trace.toList ++ (looks.map Query.Call.exchange ++ later) ∧
      ∀ reading, EndsWith looks (.ok reading) → r.Refuses reading →
        later = [] ∧ ∃ e,
          ((r.run R resource id payload).run.runIn w).1 = some (.error (.inPhase .inspecting e)) ∧
            (Error.inPhase .inspecting e).fault? = reading.reportedFault
  /-- A wait for a job that fails, and whose last look gave a report with a message. -/
  jobs : ∀ (j : JobWait) (R : Remote I σ) (job : Query I (Except ε JobReport)) (timeout : Nat)
    (w : World I σ),
    ∃ looks : List job.Call,
      ((j.run R job timeout).runIn w).2.trace.toList =
        w.trace.toList ++ looks.map Query.Call.exchange ∧
      ∀ reason fault kind report message,
        ((j.run R job timeout).runIn w).1 = some (.failed reason fault kind) →
          EndsWith looks (.ok report) → report.message = some message → message ≠ "" →
            (Outcome.failed reason fault kind).FailsOn ⟨report.state, some message⟩

theorem Wait.run_failsOn (s : Wait) (R : Remote I σ) (operation : Operation)
    (query : Query I (Except ε Reading)) :
    (s.run R operation query).Yields fun exchanges o =>
      ∃ looks : List query.Call, exchanges = looks.map Query.Call.exchange ∧
        ∀ reason fault kind reading, o = some (.failed reason fault kind) →
          EndsWith looks (.ok reading) → (Outcome.failed reason fault kind).FailsOn reading := by
  refine (s.run_spec).mono ?_
  rintro _ o ⟨looks, rfl, -, hlast⟩
  refine ⟨looks, rfl, fun reason fault kind reading ho hends => ?_⟩
  rcases hlast _ ho with ⟨cause, ⟨⟩⟩ | ⟨response, hends', hverdict⟩
  -- The response that was judged and the reading that was seen last are the same.
  rw [hends'.unique hends] at hverdict
  exact s.policy.failsOn hverdict

/-- A job that fails with a message that is not empty fails on that message. -/
theorem JobWait.Settles.failsOn {report : JobReport} {message reason : String}
    {fault : Option String} {kind : FailureKind}
    (h : Settles (.ok report : Except ε JobReport) (.failed reason fault kind))
    (hreport : report.message = some message) (hmessage : message ≠ "") :
    (Outcome.failed reason fault kind).FailsOn ⟨report.state, some message⟩ := by
  cases h with
  | failed hfault =>
    cases hreport
    cases hfault with
    | given => exact ⟨⟨_, _, rfl⟩, _, rfl, rfl⟩
    | empty => exact absurd rfl hmessage
  | missing =>
    cases hreport
    exact ⟨⟨_, _, rfl⟩, _, rfl, rfl⟩

theorem JobWait.run_failsOn (j : JobWait) (R : Remote I σ) (job : Query I (Except ε JobReport))
    (timeout : Nat) :
    (j.run R job timeout).Yields fun exchanges o =>
      ∃ looks : List job.Call, exchanges = looks.map Query.Call.exchange ∧
        ∀ reason fault kind report message, o = some (.failed reason fault kind) →
          EndsWith looks (.ok report) → report.message = some message → message ≠ "" →
            (Outcome.failed reason fault kind).FailsOn ⟨report.state, some message⟩ := by
  refine (j.run_spec R job timeout).mono ?_
  rintro _ o ⟨looks, rfl, -, hjudged⟩
  refine ⟨looks, rfl, fun reason fault kind report message ho hends hreport hmessage => ?_⟩
  cases hjudged _ ho with
  | refused _ hnone => exact absurd hnone hends.ne_nil
  | settled hends' hsettles =>
    rw [hends'.unique hends] at hsettles
    exact hsettles.failsOn hreport hmessage

/-- **The fault text of a failing reading reaches the caller word for word if the reading has a
status, and not at all if it has none.** -/
theorem faults_reported : FaultsReported I σ ε ρ where
  waits s R operation query w := by
    obtain ⟨_, hlead, looks, rfl, hfails⟩ := s.run_failsOn R operation query w
    exact ⟨looks, hlead.trace_eq, hfails⟩
  inspections r R resource id payload w := by
    obtain ⟨_, hlead, looks, later, rfl, hrefused⟩ := r.run_inspection R resource id payload w
    exact ⟨looks, later, hlead.trace_eq, hrefused⟩
  jobs j R job timeout w := by
    obtain ⟨_, hlead, looks, rfl, hfails⟩ := j.run_failsOn R job timeout w
    exact ⟨looks, hlead.trace_eq, hfails⟩

/-! ## 4. A fault text that is lost -/

/-- The wait for a volume that is reported without status and with a fault. -/
def Vigil.faultyVolume : Vigil ⟨Unit, fun _ => Except Rehearsal.Failure Reading⟩ Nat
    Rehearsal.Failure :=
  .ofAnswers volumeWait .create 50 {} fun _ =>
    { response := .ok { fault := some "disk failure" }, delay := 3 }

/-- The wait fails on the reading with the fault. The outcome has the text, and the error does
not. -/
theorem Vigil.faultyVolume_loses_fault :
    faultyVolume.response 0 = .ok ⟨none, some "disk failure"⟩ ∧
      faultyVolume.run.1 = some (.failed "volume status missing from response"
        (some "disk failure") .missingStatus) ∧
      faultyVolume.run.2.trace.toList.map (·.time) = [55] ∧
      (Outcome.failed "volume status missing from response" (some "disk failure")
        .missingStatus).result = .error (.invalidPayload "volume status missing from response") ∧
      (Error.invalidPayload "volume status missing from response").fault? = none :=
  ⟨rfl, by decide, by decide, rfl, rfl⟩

end Settle
