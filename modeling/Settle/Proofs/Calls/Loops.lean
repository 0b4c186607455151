/-
The calls of retries and waits.

Both are loops over one query, that of `call_cancellable` and that of `poll`, and what can
be said about their calls has the same form: every call but the last has left the matter
open, and the last one decides, unless the loop was cut short. A retry is bounded in
length; a call leaves it open by failing for a passing reason. A wait goes on as long as
it has time; a look leaves it open if there is no verdict on it.
-/
import Settle.Proofs.Calls
import Settle.Proofs.Judgement
import Settle.Retry
import Settle.Wait

set_option autoImplicit false

namespace Settle

variable {I : Interface} {σ ε α : Type}

/-! ## 1. Calls in a row -/

/-- Every call but the last is of this kind. -/
def AllButLast {κ : Type} (P : κ → Prop) (calls : List κ) : Prop := ∀ c ∈ calls.dropLast, P c

namespace AllButLast

variable {κ κ' : Type} {P : κ → Prop} {c : κ} {calls : List κ}

theorem nil : AllButLast P [] := fun _ hc => absurd hc List.not_mem_nil

theorem singleton : AllButLast P [c] := fun _ hc => absurd hc List.not_mem_nil

theorem cons (hc : P c) (h : AllButLast P calls) : AllButLast P (c :: calls) := by
  intro d hd
  cases calls with
  | nil => exact absurd hd List.not_mem_nil
  | cons c' rest =>
    rw [List.dropLast_cons_cons] at hd
    rcases List.mem_cons.1 hd with rfl | hd
    · exact hc
    · exact h d hd

theorem map {P : κ' → Prop} {g : κ → κ'} (h : AllButLast (fun c => P (g c)) calls) :
    AllButLast P (calls.map g) := by
  intro d hd
  rw [← List.map_dropLast] at hd
  obtain ⟨c, hc, rfl⟩ := List.mem_map.1 hd
  exact h c hc

end AllButLast

/-- The last call has this result. -/
def EndsWith {q : Query I α} (calls : List q.Call) (result : α) : Prop :=
  ∃ c, calls.getLast? = some c ∧ c.result = result

namespace EndsWith

variable {q : Query I α} {c : q.Call} {calls : List q.Call} {result result' : α}

theorem singleton (h : c.result = result) : EndsWith [c] result := ⟨c, rfl, h⟩

theorem cons (h : EndsWith calls result) : EndsWith (c :: calls) result := by
  obtain ⟨d, hd, hresult⟩ := h
  refine ⟨d, ?_, hresult⟩
  rw [List.getLast?_cons, hd]
  rfl

/-- A call that is not the last has no part in the last result. -/
theorem cons_iff (hc : c.result ≠ result) :
    EndsWith (c :: calls) result ↔ EndsWith calls result := by
  constructor
  · rintro ⟨d, hd, hresult⟩
    cases calls with
    | nil =>
      rw [List.getLast?_singleton, Option.some.injEq] at hd
      subst hd
      exact absurd hresult hc
    | cons c' rest => exact ⟨d, by rw [← hd, List.getLast?_cons_cons], hresult⟩
  · exact cons

theorem singleton_iff : EndsWith [c] result ↔ c.result = result := by
  constructor
  · rintro ⟨d, hd, hresult⟩
    rw [List.getLast?_singleton, Option.some.injEq] at hd
    rw [hd]
    exact hresult
  · exact singleton

theorem unique (h : EndsWith calls result) (h' : EndsWith calls result') : result = result' := by
  obtain ⟨c, hc, rfl⟩ := h
  obtain ⟨d, hd, rfl⟩ := h'
  rw [hc, Option.some.injEq] at hd
  rw [hd]

theorem ne_nil (h : EndsWith calls result) : calls ≠ [] := by
  rintro rfl
  obtain ⟨c, hc, -⟩ := h
  exact absurd hc (by simp)

end EndsWith

variable [RemoteFailure ε]

/-! ## 2. Retries -/

/-- The call failed for a passing reason. -/
def Query.Call.Passes {q : Query I (Except ε α)} (c : q.Call) : Prop :=
  ∃ e, c.result = .error e ∧ RemoteFailure.classify e = .transient

/-- The calls of a retry: not too many, and none after one that did not fail for a
passing reason. -/
structure Tries {q : Query I (Except ε α)} (limit : Nat) (calls : List q.Call) : Prop where
  length_le : calls.length ≤ limit
  passes : AllButLast Query.Call.Passes calls

namespace Tries

variable {q : Query I (Except ε α)} {c : q.Call} {calls : List q.Call} {limit : Nat}

theorem nil : Tries limit ([] : List q.Call) := ⟨Nat.zero_le limit, .nil⟩

theorem singleton : Tries (limit + 1) [c] := ⟨Nat.le_add_left 1 limit, .singleton⟩

theorem cons (hc : c.Passes) (h : Tries limit calls) : Tries (limit + 1) (c :: calls) :=
  ⟨Nat.succ_le_succ h.length_le, .cons hc h.passes⟩

end Tries

namespace Retry

variable {R : Remote I σ} {q : Query I (Except ε α)}

/-- What comes of an attempt: nothing is called, or one call is made and judged. -/
inductive Attempted (q : Query I (Except ε α)) (made : Nat) :
    List q.Call → Except (Halt ε) α ⊕ ε → Prop
  | cancelled : Attempted q made [] (.inl (.error (.cancelled made)))
  | answered {c : q.Call} {value : α} (h : c.result = .ok value) :
    Attempted q made [c] (.inl (.ok value))
  | passing {c : q.Call} {e : ε} (h : c.result = .error e)
    (htransient : RemoteFailure.classify e = .transient) : Attempted q made [c] (.inr e)
  | broken {c : q.Call} {e : ε} (h : c.result = .error e)
    (hlasting : RemoteFailure.classify e ≠ .transient) :
    Attempted q made [c] (.inl (.error (.failed e (made + 1))))

theorem attempt_spec (heeds : Bool) (made : Nat) :
    (attempt heeds R q made).Yields fun exchanges o =>
      ∃ calls, exchanges = calls.map Query.Call.exchange ∧
        ∃ result, o = some result ∧ Attempted q made calls result := by
  unfold attempt
  refine .pause_bind fun cause => ?_
  cases cause with
  | some cause => exact .pure ⟨[], rfl, _, rfl, .cancelled⟩
  | none =>
    refine .call_bind fun c => ?_
    cases hresult : c.result with
    | ok value => exact .pure ⟨[c], rfl, _, rfl, .answered hresult⟩
    | error e =>
      simp only
      split
      · exact .pure ⟨[c], rfl, _, rfl, .passing hresult ‹_›⟩
      · exact .pure ⟨[c], rfl, _, rfl, .broken hresult ‹_›⟩

/-- The calls of a retry with their result, which is a value exactly if the last answer is. -/
def Called (q : Query I (Except ε α)) (limit : Nat) (exchanges : List (Exchange I))
    (o : Option (Except (Halt ε) α)) : Prop :=
  ∃ calls : List q.Call, exchanges = calls.map Query.Call.exchange ∧ Tries limit calls ∧
    ∀ value, o = some (.ok value) ↔ EndsWith calls (.ok value)

/-- No retry succeeds with a call that failed. -/
theorem called_of_error {limit : Nat} {c : q.Call} {e : ε} {halt : Halt ε}
    (h : c.result = .error e) :
    Called q (limit + 1) [c.exchange] (some (.error halt)) := by
  refine ⟨[c], rfl, .singleton, fun value => ⟨fun hvalue => ?_, fun hends => ?_⟩⟩
  · cases hvalue
  · rw [EndsWith.singleton_iff, h] at hends
    cases hends

/-- An attempt that ends a retry. -/
theorem Attempted.called {made limit : Nat} {calls : List q.Call} {result : Except (Halt ε) α}
    (h : Attempted q made calls (.inl result)) :
    Called q (limit + 1) (calls.map Query.Call.exchange) (some result) := by
  cases h with
  | cancelled =>
    refine ⟨[], rfl, .nil, fun value => ⟨fun hvalue => ?_, fun hends => ?_⟩⟩
    · cases hvalue
    · exact absurd rfl hends.ne_nil
  | @answered c value h =>
    refine ⟨[c], rfl, .singleton, fun value' => ?_⟩
    rw [EndsWith.singleton_iff, h]
    simp
  | broken h _ => exact called_of_error h

/-- An attempt after which there may be another. -/
theorem Attempted.passes {made : Nat} {calls : List q.Call} {e : ε}
    (h : Attempted q made calls (.inr e)) :
    ∃ c, calls = [c] ∧ c.result = .error e ∧ RemoteFailure.classify e = .transient := by
  cases h with
  | passing h htransient => exact ⟨_, rfl, h, htransient⟩

/-- By induction on the repetitions that are left. -/
theorem attempts_spec (r : Retry) (heeds : Bool) (left made : Nat) :
    (r.attempts heeds R q left made).Yields (Called q (left + 1)) := by
  induction left generalizing made with
  | zero =>
    -- The attempt is the last, whatever comes of it.
    unfold attempts
    refine .bind (attempt_spec heeds made) ?_ ?_
    · rintro _ ⟨_, _, _, ⟨⟩, _⟩
    · rintro _ result ⟨calls, rfl, _, ⟨⟩, hattempt⟩
      cases result with
      | inl result =>
        refine .pure ?_
        rw [List.append_nil]
        exact hattempt.called
      | inr e =>
        obtain ⟨c, rfl, hfailed, -⟩ := hattempt.passes
        exact .pure (called_of_error hfailed)
  | succ left ih =>
    unfold attempts
    refine .bind (attempt_spec heeds made) ?_ ?_
    · rintro _ ⟨_, _, _, ⟨⟩, _⟩
    · rintro _ result ⟨calls, rfl, _, ⟨⟩, hattempt⟩
      cases result with
      | inl result =>
        refine .pure ?_
        rw [List.append_nil]
        exact hattempt.called
      | inr e =>
        -- The call failed for a passing reason, so others may come after it.
        obtain ⟨c, rfl, hfailed, htransient⟩ := hattempt.passes
        refine .note_bind (.pause_bind fun cause => ?_)
        cases cause with
        | some cause => exact .pure (called_of_error hfailed)
        | none =>
          refine (ih (made + 1)).mono ?_
          rintro _ o ⟨later, rfl, htries, hlast⟩
          refine ⟨c :: later, rfl, htries.cons ⟨e, hfailed, htransient⟩, fun value => ?_⟩
          have hother : c.result ≠ .ok value := by
            rw [hfailed]
            simp
          exact (hlast value).trans (EndsWith.cons_iff hother).symm

theorem maxAttempts_pos (r : Retry) : 0 < r.maxAttempts := by
  unfold maxAttempts attemptLimit
  omega

/-- **A retry calls no more often than it may, and again only after a passing failure; it
succeeds exactly if its last call does.** -/
theorem call_ends (r : Retry) (heeds : Bool) :
    Task.Ends (r.call heeds R q) fun exchanges o =>
      ∃ calls : List q.Call, exchanges = calls.map Query.Call.exchange ∧
        Tries r.maxAttempts calls ∧ ∀ value, o = some (.ok value) ↔ EndsWith calls (.ok value) := by
  have hlimit : r.maxAttempts - 1 + 1 = r.maxAttempts := by
    have := r.maxAttempts_pos
    omega
  have hspec := r.attempts_spec heeds (r.maxAttempts - 1) 0 (R := R) (q := q)
  rw [hlimit] at hspec
  refine Act.Yields.map (hspec.mono ?_)
  rintro exchanges o ⟨calls, rfl, htries, hlast⟩
  exact ⟨calls, rfl, htries, fun value => Task.mapError_eq_some_ok.trans (hlast value)⟩

theorem call_spec (r : Retry) (heeds : Bool) :
    Task.Yields (r.call heeds R q) fun exchanges o =>
      ∃ calls : List q.Call, exchanges = calls.map Query.Call.exchange ∧
        Tries r.maxAttempts calls ∧ ∀ value, o = some value → EndsWith calls (.ok value) := by
  refine Act.Yields.mono (r.call_ends heeds) ?_
  rintro exchanges o ⟨calls, rfl, htries, hlast⟩
  exact ⟨calls, rfl, htries, fun value ho => (hlast value).1 (Task.toOption_eq_some.1 ho)⟩

end Retry

/-! ## 3. Waits -/

namespace Wait

variable {R : Remote I σ} {operation : Operation} {query : Query I (Except ε Reading)}
  {watch : Watch} {p : ValidPolicy}

/-- What comes of a round: it is cut off before or after its look, the look settles the
matter, or it leaves it open. -/
inductive Rounded (p : ValidPolicy) (operation : Operation) (query : Query I (Except ε Reading)) :
    List query.Call → Outcome ⊕ List String → Prop
  | idle (cause : Interruption) : Rounded p operation query [] (.inl (.timedOut cause))
  | cut (c : query.Call) (cause : Interruption) :
    Rounded p operation query [c] (.inl (.timedOut cause))
  | settled {c : query.Call} {outcome : Outcome}
    (h : p.verdict operation c.result = some outcome) :
    Rounded p operation query [c] (.inl outcome)
  | unsettled {c : query.Call} (h : p.verdict operation c.result = none) (warned : List String) :
    Rounded p operation query [c] (.inr warned)

theorem giveUp_spec {β : Type} {g : Outcome → β} {P : List (Exchange I) → Option β → Prop}
    {cause : Interruption} {looks : UInt32} (h : P [] (some (g (.timedOut cause)))) :
    (g <$> (giveUp cause looks : Act I σ Outcome)).Yields P :=
  .map (.note_bind (.pure h))

theorem round_spec (s : Wait) (looks : UInt32) (warned : List String) :
    (s.round R operation query watch looks warned).Yields fun exchanges o =>
      ∃ calls, exchanges = calls.map Query.Call.exchange ∧
        ∃ result, o = some result ∧ Rounded s.policy operation query calls result := by
  unfold round
  refine .pause_bind fun cause => ?_
  cases cause with
  | some cause => exact giveUp_spec ⟨[], rfl, _, rfl, .idle cause⟩
  | none =>
    refine .look_bind (fun c cause => giveUp_spec ⟨[c], rfl, _, rfl, .cut c cause⟩) fun c => ?_
    cases hverdict : s.policy.verdict operation c.result with
    | some outcome =>
      simp only [hverdict]
      exact .note_bind (.pure ⟨[c], rfl, _, rfl, .settled hverdict⟩)
    | none =>
      simp only [hverdict]
      refine .step fun w => ⟨_, _, [], Act.runIn_forM_note _ w, w.leads_remarked _, ?_⟩
      refine .pause_bind fun cause => ?_
      cases cause with
      | some cause => exact giveUp_spec ⟨[c], rfl, _, rfl, .cut c cause⟩
      | none => exact .pure ⟨[c], rfl, _, rfl, .unsettled hverdict _⟩

/-- The looks of a wait with its outcome: unless the wait was cut short, the outcome is
the verdict on the last look. -/
def Watched (p : ValidPolicy) (operation : Operation) (query : Query I (Except ε Reading))
    (exchanges : List (Exchange I)) (o : Option Outcome) : Prop :=
  ∃ looks : List query.Call, exchanges = looks.map Query.Call.exchange ∧
    AllButLast (fun c => p.verdict operation c.result = none) looks ∧
    ∀ outcome, o = some outcome → (∃ cause, outcome = .timedOut cause) ∨
      ∃ response, EndsWith looks response ∧ p.verdict operation response = some outcome

/-- A round that ends a wait. -/
theorem Rounded.watched {calls : List query.Call} {outcome : Outcome}
    (h : Rounded p operation query calls (.inl outcome)) :
    Watched p operation query (calls.map Query.Call.exchange) (some outcome) := by
  refine ⟨calls, rfl, ?_, ?_⟩
  · cases h with
    | idle _ => exact .nil
    | cut _ _ => exact .singleton
    | settled _ => exact .singleton
  · rintro outcome' ⟨⟩
    cases h with
    | idle cause => exact .inl ⟨cause, rfl⟩
    | cut _ cause => exact .inl ⟨cause, rfl⟩
    | settled hverdict => exact .inr ⟨_, .singleton rfl, hverdict⟩

/-- By induction on the rounds that are left. -/
theorem rounds_spec (s : Wait) (fuel : Nat) (looks : UInt32) (warned : List String) :
    (s.rounds R operation query watch fuel looks warned).Yields
      (Watched s.policy operation query) := by
  induction fuel generalizing looks warned with
  | zero => exact .endless ⟨[], rfl, .nil, fun _ h => by cases h⟩
  | succ fuel ih =>
    unfold rounds
    refine .bind (s.round_spec looks warned) ?_ ?_
    · rintro _ ⟨_, _, _, ⟨⟩, _⟩
    · rintro _ result ⟨calls, rfl, _, ⟨⟩, hround⟩
      cases result with
      | inl outcome =>
        refine .pure ?_
        rw [List.append_nil]
        exact hround.watched
      | inr warned' =>
        -- The look left the matter open, so others may come after it.
        cases hround with
        | @unsettled c hverdict =>
          refine (ih (looks + 1) warned').mono ?_
          rintro _ o ⟨later, rfl, hopen, hlast⟩
          refine ⟨c :: later, rfl, .cons hverdict hopen, fun outcome ho => ?_⟩
          rcases hlast outcome ho with hcause | ⟨response, hends, hsettles⟩
          · exact .inl hcause
          · exact .inr ⟨response, hends.cons, hsettles⟩

/-- What a wait does once it knows when it began and what is left of the answers. -/
def runFrom (s : Wait) (R : Remote I σ) (operation : Operation)
    (query : Query I (Except ε Reading)) (start unplayed : Nat) : Act I σ Outcome := do
  let watch : Watch := ⟨s.heeds, some (start + s.policy.timeout)⟩
  match ← Act.pause watch s.policy.initialDelay with
  | some cause => giveUp cause 0
  | none => s.rounds R operation query watch (s.policy.timeout + unplayed + 1) 0 []

theorem runIn_run (s : Wait) (w : World I σ) :
    (s.run R operation query).runIn w =
      (s.runFrom R operation query w.now (R.unplayed w.remote)).runIn w := by
  unfold run runFrom
  have hget : (get : Act I σ (World I σ)).runIn w = (some w, w) := rfl
  exact Act.runIn_bind_of_some hget _

theorem run_spec (s : Wait) :
    (s.run R operation query).Yields (Watched s.policy operation query) := by
  intro w
  rw [runIn_run]
  have hspec : (s.runFrom R operation query w.now (R.unplayed w.remote)).Yields
      (Watched s.policy operation query) := by
    unfold runFrom
    refine .pause_bind fun cause => ?_
    cases cause with
    | some cause => exact .note_bind (.pure (Rounded.idle cause).watched)
    | none => exact s.rounds_spec _ 0 []
  exact hspec w

end Wait

/-- A wait succeeds only by converging. -/
theorem Outcome.eq_converged {o : Option Outcome} {status : String}
    (h : (o.map Outcome.result).bind Except.toOption = some status) :
    o = some (.converged status) := by
  rcases o with _ | ⟨status' | ⟨reason, fault, kind⟩ | cause⟩
  · cases h
  · cases h
    rfl
  · cases kind <;> cases h
  · cases h

/-- **The looks of a wait leave it open up to the last one, and if the wait succeeds the
last one shows a target status.** -/
theorem Wait.settle_spec {R : Remote I σ} {operation : Operation}
    {query : Query I (Except ε Reading)} (s : Wait) (hdelete : operation ≠ .delete) :
    Task.Yields (s.settle R operation query) fun exchanges o =>
      ∃ looks : List query.Call, exchanges = looks.map Query.Call.exchange ∧
        AllButLast (fun c => s.policy.verdict operation c.result = none) looks ∧
        ∀ status, o = some status →
          status ∈ s.policy.target ∧ ∃ fault, EndsWith looks (.ok ⟨some status, fault⟩) := by
  refine Act.Yields.map (s.run_spec.mono ?_)
  rintro _ o ⟨looks, rfl, hopen, hlast⟩
  refine ⟨looks, rfl, hopen, fun status hstatus => ?_⟩
  rcases hlast _ (Outcome.eq_converged hstatus) with ⟨cause, ⟨⟩⟩ | ⟨response, hends, hverdict⟩
  obtain ⟨fault, rfl, htarget⟩ := s.policy.verdict_converged hdelete hverdict
  exact ⟨htarget, fault, hends⟩

/-! ## 4. Answers that are read further -/

/-- The call of a query whose answer is read further, before it is. -/
def Query.Call.ofMap {β : Type} {g : α → β} {q : Query I α} (c : (q.map g).Call) : q.Call :=
  ⟨c.time, c.answer⟩

/-- How an answer is read does not show in the exchanges. -/
theorem Query.Call.map_ofMap {β : Type} {g : α → β} {q : Query I α} (calls : List (q.map g).Call) :
    (calls.map Query.Call.ofMap).map Query.Call.exchange = calls.map Query.Call.exchange := by
  rw [List.map_map]
  rfl

theorem EndsWith.ofMap {β : Type} {g : α → β} {q : Query I α} {calls : List (q.map g).Call}
    {result : β} (h : EndsWith calls result) :
    ∃ a, EndsWith (calls.map Query.Call.ofMap) a ∧ g a = result := by
  obtain ⟨c, hc, hresult⟩ := h
  refine ⟨c.ofMap.result, ⟨c.ofMap, ?_, rfl⟩, hresult⟩
  rw [List.getLast?_map, hc]
  rfl

/-- What an answer is read as is what the reading makes of it. -/
theorem EndsWith.of_map {β : Type} {g : α → β} {q : Query I α} {calls : List (q.map g).Call}
    {a : α} (h : EndsWith (calls.map Query.Call.ofMap) a) : EndsWith calls (g a) := by
  obtain ⟨c, hc, rfl⟩ := h
  rw [List.getLast?_map, Option.map_eq_some_iff] at hc
  obtain ⟨d, hd, rfl⟩ := hc
  exact ⟨d, hd, rfl⟩

/-- Reading the answers does not change why calls are repeated. -/
theorem Tries.ofMap {β : Type} {g : α → β} {q : Query I (Except ε α)} {limit : Nat}
    {calls : List (q.map (Except.map g)).Call} (h : Tries limit calls) :
    Tries limit (calls.map Query.Call.ofMap) where
  length_le := by
    rw [List.length_map]
    exact h.length_le
  passes := by
    refine AllButLast.map fun c hc => ?_
    obtain ⟨e, hresult, htransient⟩ := h.passes c hc
    have hread : c.ofMap.result.map g = .error e := hresult
    cases hraw : c.ofMap.result with
    | error e' =>
      rw [hraw] at hread
      cases hread
      exact ⟨e, hraw, htransient⟩
    | ok a =>
      rw [hraw] at hread
      cases hread

end Settle
