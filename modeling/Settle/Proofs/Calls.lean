/-
What an activity asks of the remote side.

An activity leads from one world to a later one and makes some exchanges on the
way. `Act.Yields` relates these exchanges to the result, in whatever world the
activity begins; it has one rule for each way to build an activity, and a proof
about a composed activity is the specs of its parts put together by `bind`. An
activity that has no result, because it never ends, has made its exchanges all the
same, so the relation speaks about it too.

A task is an activity that may fail. What its exchanges say about it depends only
on whether it succeeds: `Task.Yields` forgets the error.
-/
import Mathlib.Data.Nat.Find
import Settle.Proofs.Clock

set_option autoImplicit false

namespace Settle

variable {I : Interface} {σ : Type}

/-! ## 1. Calls -/

/-- One use of a query: when it was made and how it was answered. -/
structure Query.Call {α : Type} (q : Query I α) where
  time : Nat
  answer : Answer (I.Response q.request)

namespace Query.Call

variable {α : Type} {q : Query I α}

/-- The exchange that a call is. -/
def exchange (c : q.Call) : Exchange I := ⟨c.time, q.request, c.answer⟩

theorem exchange_injective : Function.Injective (exchange : q.Call → Exchange I) := by
  rintro ⟨time, answer⟩ ⟨time', answer'⟩ h
  cases h
  rfl

/-- What the answer to a call is read as. -/
def result (c : q.Call) : α := q.read c.answer.response

/-- When the answer to a call arrives, unless it is cut off. -/
def arrival (c : q.Call) : Nat := c.time + c.answer.delay

end Query.Call

/-! ## 2. From world to world -/

/-- The exchanges that begin by `t`. -/
def upTo (t : Nat) (calls : List (Exchange I)) : List (Exchange I) :=
  calls.filter (·.time ≤ t)

theorem upTo_eq_self {t : Nat} {calls : List (Exchange I)} (h : ∀ e ∈ calls, e.time ≤ t) :
    upTo t calls = calls :=
  List.filter_eq_self.2 fun e he => decide_eq_true (h e he)

theorem upTo_append {t : Nat} {calls later : List (Exchange I)} :
    upTo t (calls ++ later) = upTo t calls ++ upTo t later := List.filter_append ..

theorem upTo_eq_nil {t : Nat} {calls : List (Exchange I)} (h : ∀ e ∈ calls, t < e.time) :
    upTo t calls = [] := by
  rw [upTo, List.filter_eq_nil_iff]
  intro e he
  have := h e he
  rw [decide_eq_true_iff]
  omega

/-- Of the times up to the one with number `m` that are no later than `t` there is a last one. -/
theorem exists_last_by {time : Nat → Nat} {t : Nat} (m : Nat) (h : time 0 ≤ t) :
    ∃ c ≤ m, time c ≤ t ∧ ∀ k, c < k → k ≤ m → t < time k :=
  ⟨Nat.findGreatest (time · ≤ t) m, Nat.findGreatest_le m,
    Nat.findGreatest_spec (P := (time · ≤ t)) (Nat.zero_le m) h,
    fun _ hk hkm => Nat.lt_of_not_le (Nat.findGreatest_is_greatest (P := (time · ≤ t)) hk hkm)⟩

/-- Of exchanges in the order of their times, those that begin by `t` come first. -/
theorem upTo_map_range {t cut count : Nat} {exchange : Nat → Exchange I} (hcut : cut ≤ count)
    (hbefore : ∀ k < cut, (exchange k).time ≤ t)
    (hafter : ∀ k, cut ≤ k → k < count → t < (exchange k).time) :
    upTo t ((List.range count).map exchange) = (List.range cut).map exchange := by
  obtain ⟨later, rfl⟩ := Nat.exists_eq_add_of_le hcut
  have hkeep : upTo t ((List.range cut).map exchange) = (List.range cut).map exchange := by
    apply upTo_eq_self
    intro e he
    obtain ⟨k, hk, rfl⟩ := List.mem_map.1 he
    exact hbefore k (List.mem_range.1 hk)
  have hdrop : upTo t (((List.range later).map (cut + ·)).map exchange) = [] := by
    apply upTo_eq_nil
    intro e he
    obtain ⟨k, hk, rfl⟩ := List.mem_map.1 he
    obtain ⟨j, hj, rfl⟩ := List.mem_map.1 hk
    have := List.mem_range.1 hj
    exact hafter (cut + j) (by omega) (by omega)
  rw [List.range_add, List.map_append, upTo_append, hkeep, hdrop, List.append_nil]

/-- A world leads to a later one, with these exchanges in between. -/
structure World.Leads (w : World I σ) (calls : List (Exchange I)) (w' : World I σ) : Prop where
  now_le : w.now ≤ w'.now
  trace_eq : w'.trace.toList = w.trace.toList ++ calls
  between : ∀ e ∈ calls, w.now ≤ e.time ∧ e.time ≤ w'.now

namespace World

variable {α : Type} {w w' w'' : World I σ} {calls later : List (Exchange I)}

/-- Without exchanges the clock may move and the trace may not. -/
theorem leads_of_trace_eq (hnow : w.now ≤ w'.now) (htrace : w'.trace = w.trace) :
    w.Leads [] w' :=
  ⟨hnow, by rw [htrace, List.append_nil], fun e he => absurd he List.not_mem_nil⟩

theorem Leads.refl (w : World I σ) : w.Leads [] w := leads_of_trace_eq (Nat.le_refl _) rfl

theorem Leads.trans (h : w.Leads calls w') (h' : w'.Leads later w'') :
    w.Leads (calls ++ later) w'' where
  now_le := Nat.le_trans h.now_le h'.now_le
  trace_eq := by rw [h'.trace_eq, h.trace_eq, List.append_assoc]
  between := by
    have hle := h.now_le
    have hle' := h'.now_le
    intro e he
    rcases List.mem_append.1 he with he | he
    · have := h.between e he
      omega
    · have := h'.between e he
      omega

/-- The exchanges between two worlds are those that the trace has gained. -/
theorem Leads.unique (h : w.Leads calls w') (h' : w.Leads later w') : calls = later := by
  have htrace := h.trace_eq
  rw [h'.trace_eq] at htrace
  exact (List.append_cancel_left htrace).symm

/-- So are the calls, if they are all of one query. -/
theorem Leads.calls_unique {q : Query I α} {made made' : List q.Call}
    (h : w.Leads (made.map Query.Call.exchange) w')
    (h' : w.Leads (made'.map Query.Call.exchange) w') : made = made' :=
  (List.map_inj_right fun _ _ hsame => Query.Call.exchange_injective hsame).1 (h.unique h')

theorem leads_sleepUntil (w : World I σ) (wake : Nat) : w.Leads [] (w.sleepUntil wake) := by
  refine leads_of_trace_eq ?_ (sleepUntil_trace w wake)
  unfold sleepUntil
  split
  · exact Nat.le_of_lt ‹_›
  · exact Nat.le_refl _

theorem leads_pause (w : World I σ) (watch : Watch) (duration : Nat) :
    w.Leads [] (w.pause watch duration).2 := by
  -- Every way of a pause leaves the clock alone or moves it forward.
  rcases w.pause_snd_cases watch duration with h | ⟨wake, h⟩ | ⟨t, h⟩
  · rw [h]
    exact .refl w
  · rw [h]
    exact leads_sleepUntil w wake
  · rw [h]
    exact leads_of_trace_eq (Nat.le_max_left _ _) rfl

theorem leads_note (w : World I σ) (n : Notice) : w.Leads [] (w.note n) :=
  leads_of_trace_eq (Nat.le_refl _) rfl

theorem leads_remarked (w : World I σ) (remark : Option Notice) :
    w.Leads [] (w.remarked remark) :=
  leads_of_trace_eq (Nat.le_of_eq (remarked_now w remark).symm) (remarked_trace w remark)

theorem leads_deliver (w : World I σ) (a : Answer α) : w.Leads [] (w.deliver a) :=
  leads_of_trace_eq (Nat.le_of_eq (deliver_now w a).symm) (deliver_trace w a)

section Ask

variable (w : World I σ) (R : Remote I σ) (q : Query I α)

/-- The call that a query makes in a world. -/
def callOf : q.Call := ⟨w.now, (R.answer q.request w.remote).1⟩

theorem leads_ask : w.Leads [(w.callOf R q).exchange] (w.ask R q.request).2 where
  now_le := Nat.le_refl _
  trace_eq := ask_trace w R q.request
  between := by
    intro e he
    rw [List.mem_singleton.1 he]
    exact ⟨Nat.le_refl _, Nat.le_refl _⟩

/-- A call makes one exchange and gives its result. -/
theorem leads_call : w.Leads [(w.callOf R q).exchange] (w.call R q).2 :=
  ((w.leads_ask R q).trans (leads_sleepUntil _ _)).trans (leads_deliver _ _)

/-- A look makes one exchange, whether it is cut off or not, and unless it is cut off it
gives the result. -/
theorem look_cases (watch : Watch) :
    w.Leads [(w.callOf R q).exchange] (w.look R watch q).2 ∧
      ((∃ cause, (w.look R watch q).1 = .error cause) ∨
        (w.look R watch q).1 = .ok (w.callOf R q).result) := by
  have hlead := (w.leads_ask R q).trans
    (leads_pause (w.ask R q.request).2 watch (R.answer q.request w.remote).1.delay)
  cases hpause : (w.ask R q.request).2.pause watch (R.answer q.request w.remote).1.delay with
  | mk cause w' =>
    rw [hpause] at hlead
    cases cause with
    | some cause =>
      rw [look_of_cut hpause]
      exact ⟨hlead, .inl ⟨cause, rfl⟩⟩
    | none =>
      rw [look_of_arrival hpause]
      exact ⟨hlead.trans (leads_deliver w' _), .inr rfl⟩

end Ask

end World

/-! ## 3. Activities -/

/-- An activity that ends may have its result turned into another. -/
theorem Act.runIn_map_of_some {α β : Type} {a : Act I σ α} {w w' : World I σ} {x : α}
    (h : a.runIn w = (some x, w')) (f : α → β) : (f <$> a).runIn w = (some (f x), w') := by
  rw [runIn_map, h, Option.map_some]

/-- One that never ends has nothing to turn, -/
theorem Act.runIn_map_of_none {α β : Type} {a : Act I σ α} {w w' : World I σ}
    (h : a.runIn w = (none, w')) (f : α → β) : (f <$> a).runIn w = (none, w') := by
  rw [runIn_map, h, Option.map_none]

/-- and nothing comes after it. -/
theorem Act.runIn_bind_of_none {α β : Type} {a : Act I σ α} {w w' : World I σ}
    (h : a.runIn w = (none, w')) (f : α → Act I σ β) : (a >>= f).runIn w = (none, w') := by
  rw [runIn_bind, h]

/-- In whatever world the activity begins, the exchanges it makes and its result, if it
has one, are in the relation. -/
def Act.Yields {α : Type} (a : Act I σ α) (P : List (Exchange I) → Option α → Prop) : Prop :=
  ∀ w, ∃ calls, w.Leads calls (a.runIn w).2 ∧ P calls (a.runIn w).1

namespace Act.Yields

variable {α β : Type} {a : Act I σ α} {f : α → Act I σ β} {watch : Watch} {R : Remote I σ}
  {P : List (Exchange I) → Option α → Prop} {Q : List (Exchange I) → Option β → Prop}

theorem mono {P' : List (Exchange I) → Option α → Prop} (ha : a.Yields P)
    (h : ∀ calls o, P calls o → P' calls o) : a.Yields P' := by
  intro w
  obtain ⟨calls, hlead, hP⟩ := ha w
  exact ⟨calls, hlead, h _ _ hP⟩

/-- What holds of all runs holds of one. -/
theorem of_run (ha : a.Yields P) {w w' : World I σ} {o : Option α} {calls : List (Exchange I)}
    (hrun : a.runIn w = (o, w')) (hlead : w.Leads calls w') : P calls o := by
  obtain ⟨calls', hlead', hP⟩ := ha w
  rw [hrun] at hlead' hP
  rw [hlead.unique hlead']
  exact hP

/-- What holds of an activity holds of each run that ends. -/
theorem of_some (ha : a.Yields P) {w w' : World I σ} {x : α} (hrun : a.runIn w = (some x, w')) :
    ∃ calls, w.Leads calls w' ∧ P calls (some x) := by
  obtain ⟨calls, hlead, hP⟩ := ha w
  rw [hrun] at hlead hP
  exact ⟨calls, hlead, hP⟩

theorem pure {x : α} (h : P [] (some x)) : Yields (Pure.pure x : Act I σ α) P :=
  fun w => ⟨[], .refl w, h⟩

theorem endless (h : P [] none) : Yields (Act.endless : Act I σ α) P := fun w => ⟨[], .refl w, h⟩

/-- An activity that ends is followed by the next one. -/
theorem step (h : ∀ w, ∃ x w' calls, a.runIn w = (some x, w') ∧ w.Leads calls w' ∧
    (f x).Yields fun later o => Q (calls ++ later) o) : (a >>= f).Yields Q := by
  intro w
  obtain ⟨x, w', calls, hrun, hlead, hf⟩ := h w
  obtain ⟨later, hlead', hQ⟩ := hf w'
  rw [runIn_bind_of_some hrun]
  exact ⟨calls ++ later, hlead.trans hlead', hQ⟩

/-- Two activities make the exchanges of the first and then, if the first has a result,
those of the second. -/
theorem bind (ha : a.Yields P) (hstop : ∀ calls, P calls none → Q calls none)
    (hgo : ∀ calls x, P calls (some x) → (f x).Yields fun later o => Q (calls ++ later) o) :
    (a >>= f).Yields Q := by
  intro w
  obtain ⟨calls, hlead, hP⟩ := ha w
  rw [runIn_bind]
  cases hrun : a.runIn w with
  | mk o w' =>
    rw [hrun] at hlead hP
    cases o with
    | none =>
      -- There is nothing to go on with, but the exchanges have been made.
      exact ⟨calls, hlead, hstop calls hP⟩
    | some x =>
      obtain ⟨later, hlead', hQ⟩ := hgo calls x hP w'
      exact ⟨calls ++ later, hlead.trans hlead', hQ⟩

theorem map {g : α → β} (ha : a.Yields fun calls o => Q calls (o.map g)) : (g <$> a).Yields Q := by
  intro w
  obtain ⟨calls, hlead, hQ⟩ := ha w
  rw [runIn_map]
  exact ⟨calls, hlead, hQ⟩

theorem note_bind {n : Notice} {f : Unit → Act I σ β} (h : (f ()).Yields Q) :
    (Act.note n >>= f).Yields Q :=
  step fun w => ⟨(), w.note n, [], runIn_note n w, w.leads_note n, h⟩

theorem pause_bind {duration : Nat} {f : Option Interruption → Act I σ β}
    (h : ∀ cause, (f cause).Yields Q) : (Act.pause watch duration >>= f).Yields Q :=
  step fun w => ⟨_, _, [], runIn_pause watch duration w, w.leads_pause watch duration, h _⟩

theorem call_bind {q : Query I α}
    (h : ∀ c : q.Call, (f c.result).Yields fun later o => Q (c.exchange :: later) o) :
    (Act.call R q >>= f).Yields Q :=
  step fun w => ⟨_, _, _, runIn_call R q w, w.leads_call R q, h (w.callOf R q)⟩

theorem look_bind {q : Query I α} {f : Except Interruption α → Act I σ β}
    (hcut : ∀ (c : q.Call) cause,
      (f (.error cause)).Yields fun later o => Q (c.exchange :: later) o)
    (hseen : ∀ c : q.Call, (f (.ok c.result)).Yields fun later o => Q (c.exchange :: later) o) :
    (Act.look R watch q >>= f).Yields Q := by
  refine step fun w => ?_
  obtain ⟨hlead, hresult⟩ := w.look_cases R q watch
  refine ⟨_, _, _, runIn_look R watch q w, hlead, ?_⟩
  rcases hresult with ⟨cause, hcause⟩ | hresult
  · rw [hcause]
    exact hcut (w.callOf R q) cause
  · rw [hresult]
    exact hseen (w.callOf R q)

end Act.Yields

/-! ## 4. Tasks -/

/-- In whatever world the task begins, the exchanges it makes and its value, if it
succeeds, are in the relation. -/
def Task.Yields {ε α : Type} (t : Task I σ ε α) (P : List (Exchange I) → Option α → Prop) : Prop :=
  Act.Yields t.run fun calls o => P calls (o.bind Except.toOption)

theorem Task.runIn_note {ε : Type} (n : Notice) (w : World I σ) :
    (Task.note n : Task I σ ε Unit).run.runIn w = (some (.ok ()), w.note n) :=
  Act.runIn_map Except.ok (Act.note n) w

/-- What is worked out beforehand is there at once. -/
theorem Task.lift_ok_bind {ε α β : Type} (x : α) (f : α → Task I σ ε β) :
    ((liftM (.ok x : Except ε α) : Task I σ ε α) >>= f) = f x := rfl

/-- What is discarded cannot be used. -/
theorem Task.discard_bind_eq {ε α β : Type} (t : Task I σ ε α) (f : Unit → Task I σ ε β) :
    (discard t >>= f) = (t >>= fun _ => f ()) := by
  change ((fun _ => ()) <$> t) >>= f = _
  rw [map_eq_pure_bind, bind_assoc]
  simp only [pure_bind]

/-- After a task that succeeds, the next one goes on with its value, -/
theorem Task.runIn_bind_of_ok {ε α β : Type} {t : Task I σ ε α} {w w' : World I σ} {x : α}
    (h : t.run.runIn w = (some (.ok x), w')) (f : α → Task I σ ε β) :
    (t >>= f).run.runIn w = (f x).run.runIn w' :=
  Act.runIn_bind_of_some h _

/-- and after one that fails there is nothing more. -/
theorem Task.runIn_bind_of_error {ε α β : Type} {t : Task I σ ε α} {w w' : World I σ} {e : ε}
    (h : t.run.runIn w = (some (.error e), w')) (f : α → Task I σ ε β) :
    (t >>= f).run.runIn w = (some (.error e), w') :=
  Act.runIn_bind_of_some h _

/-- Nor is there anything after one that never ends. -/
theorem Task.runIn_bind_of_none {ε α β : Type} {t : Task I σ ε α} {w w' : World I σ}
    (h : t.run.runIn w = (none, w')) (f : α → Task I σ ε β) :
    (t >>= f).run.runIn w = (none, w') :=
  Act.runIn_bind_of_none h _

/-- A task that ends may have its value discarded. -/
theorem Task.runIn_discard {ε α : Type} {t : Task I σ ε α} {w w' : World I σ} {result : Except ε α}
    (h : t.run.runIn w = (some result, w')) :
    (discard t).run.runIn w = (some (result.map fun _ => ()), w') := by
  refine (Act.runIn_bind_of_some h _).trans ?_
  cases result <;> rfl

namespace Task.Yields

variable {ε ε' α β : Type} {t : Task I σ ε α} {f : α → Task I σ ε β}
  {P : List (Exchange I) → Option α → Prop} {Q : List (Exchange I) → Option β → Prop}

theorem mono {P' : List (Exchange I) → Option α → Prop} (ht : Task.Yields t P)
    (h : ∀ calls o, P calls o → P' calls o) : Task.Yields t P' :=
  Act.Yields.mono ht fun calls _ => h calls _

theorem of_run (ht : Task.Yields t P) {w w' : World I σ} {x : α} {calls : List (Exchange I)}
    (hrun : t.run.runIn w = (some (.ok x), w')) (hlead : w.Leads calls w') : P calls (some x) :=
  Act.Yields.of_run ht hrun hlead

/-- What holds of a task holds of each run that succeeds. -/
theorem of_ok (ht : Task.Yields t P) {w w' : World I σ} {x : α}
    (hrun : t.run.runIn w = (some (.ok x), w')) : ∃ calls, w.Leads calls w' ∧ P calls (some x) :=
  Act.Yields.of_some ht hrun

theorem pure {x : α} (h : P [] (some x)) : Task.Yields (Pure.pure x : Task I σ ε α) P :=
  Act.Yields.pure h

theorem throw {e : ε} (h : P [] none) : Task.Yields (MonadExcept.throw e : Task I σ ε α) P :=
  Act.Yields.pure h

theorem note_bind {n : Notice} {f : Unit → Task I σ ε β} (h : Task.Yields (f ()) Q) :
    Task.Yields (Task.note n >>= f) Q := by
  have hstep : Act.Yields ((Task.note n : Task I σ ε Unit).run >>= ExceptT.bindCont f)
      fun calls o => Q calls (o.bind Except.toOption) :=
    .step fun w => ⟨_, w.note n, [], runIn_note n w, w.leads_note n, h⟩
  exact hstep

/-- Two tasks make the exchanges of the first and then, if the first succeeds, those of
the second. -/
theorem bind (ht : Task.Yields t P) (hstop : ∀ calls, P calls none → Q calls none)
    (hgo : ∀ calls x, P calls (some x) →
      Task.Yields (f x) fun later o => Q (calls ++ later) o) :
    Task.Yields (t >>= f) Q := by
  refine Act.Yields.bind ht hstop fun calls result hP => ?_
  cases result with
  | ok x => exact hgo calls x hP
  | error e =>
    -- A failure skips the second task.
    refine Act.Yields.pure ?_
    rw [List.append_nil]
    exact hstop calls hP

/-- Renaming what goes wrong changes nothing else. -/
theorem adapt {g : ε → ε'} (ht : Task.Yields t P) : Task.Yields (ExceptT.adapt g t) P := by
  refine Act.Yields.map (Act.Yields.mono ht fun calls o hP => ?_)
  rcases o with _ | _ | _ <;> exact hP

theorem map {g : α → β} (ht : Task.Yields t fun calls o => Q calls (o.map g)) :
    Task.Yields (g <$> t) Q := by
  rw [map_eq_pure_bind]
  refine bind ht (fun calls hQ => hQ) fun calls x hQ => pure ?_
  rw [List.append_nil]
  exact hQ

end Task.Yields

/-! ## 5. Tasks and their errors -/

/-- A task has a value exactly if it ends with one. -/
theorem Task.toOption_eq_some {ε α : Type} {o : Option (Except ε α)} {x : α} :
    o.bind Except.toOption = some x ↔ o = some (.ok x) := by
  rcases o with _ | _ | y <;> simp [Except.toOption]

/-- Renaming what goes wrong touches no value. -/
theorem Task.mapError_eq_some_ok {ε ε' α : Type} {g : ε → ε'} {o : Option (Except ε α)} {x : α} :
    o.map (Except.mapError g) = some (.ok x) ↔ o = some (.ok x) := by
  constructor
  · intro h
    rcases o with _ | _ | y
    · cases h
    · cases h
    · cases h
      rfl
  · rintro rfl
    rfl

/-- What an activity ends with after its result was turned into another. -/
theorem Act.of_runIn_map {α β : Type} {a : Act I σ α} {f : α → β} {w w' : World I σ} {y : β}
    (h : (f <$> a).runIn w = (some y, w')) : ∃ x, a.runIn w = (some x, w') ∧ f x = y := by
  rw [runIn_map, Prod.mk.injEq, Option.map_eq_some_iff] at h
  obtain ⟨⟨x, hx, hy⟩, rfl⟩ := h
  exact ⟨x, Prod.ext hx rfl, hy⟩

/-- An error with another name was an error before. -/
theorem Act.of_runIn_mapError {ε ε' α : Type} {a : Act I σ (Except ε α)} {g : ε → ε'}
    {w w' : World I σ} {e' : ε'}
    (h : (Except.mapError g <$> a).runIn w = (some (.error e'), w')) :
    ∃ e, a.runIn w = (some (.error e), w') ∧ g e = e' := by
  obtain ⟨result, hrun, herror⟩ := Act.of_runIn_map h
  cases result with
  | ok x => cases herror
  | error e => exact ⟨e, hrun, Except.error.inj herror⟩

/-- Two tasks fail with the first, or with the second after the first has given a value. -/
theorem Task.of_runIn_bind_error {ε α β : Type} {t : Task I σ ε α} {f : α → Task I σ ε β}
    {w w' : World I σ} {e : ε} (h : (t >>= f).run.runIn w = (some (.error e), w')) :
    t.run.runIn w = (some (.error e), w') ∨
      ∃ x w₁, t.run.runIn w = (some (.ok x), w₁) ∧
        (f x).run.runIn w₁ = (some (.error e), w') := by
  cases hfirst : t.run.runIn w with
  | mk o w₁ =>
    rcases o with _ | e' | x
    · have hrun : (t >>= f).run.runIn w = (none, w₁) := by
        refine (Act.runIn_bind t.run _ w).trans ?_
        rw [hfirst]
      cases hrun.symm.trans h
    · rw [runIn_bind_of_error hfirst] at h
      cases h
      exact .inl rfl
    · rw [runIn_bind_of_ok hfirst] at h
      exact .inr ⟨x, w₁, rfl, h⟩

/-- Discarding a value does not fail by itself. -/
theorem Task.of_runIn_discard_error {ε α : Type} {t : Task I σ ε α} {w w' : World I σ} {e : ε}
    (h : (discard t).run.runIn w = (some (.error e), w')) :
    t.run.runIn w = (some (.error e), w') := by
  change ((fun _ => ()) <$> t).run.runIn w = _ at h
  rw [map_eq_pure_bind] at h
  rcases of_runIn_bind_error h with hfirst | ⟨_, _, -, hsecond⟩
  · exact hfirst
  · cases hsecond

/-- In whatever world the task begins, the exchanges it makes and how it ends, with a value,
with an error or not at all, are in the relation. -/
def Task.Ends {ε α : Type} (t : Task I σ ε α)
    (P : List (Exchange I) → Option (Except ε α) → Prop) : Prop :=
  Act.Yields t.run P

namespace Task.Ends

variable {ε ε' α β : Type} {t : Task I σ ε α} {f : α → Task I σ ε β}
  {P : List (Exchange I) → Option (Except ε α) → Prop}
  {Q : List (Exchange I) → Option (Except ε β) → Prop}

theorem mono {P' : List (Exchange I) → Option (Except ε α) → Prop} (ht : Task.Ends t P)
    (h : ∀ calls o, P calls o → P' calls o) : Task.Ends t P' :=
  Act.Yields.mono ht h

/-- What is known without the error, together with what every error of the task is like. -/
theorem of_yields {P : List (Exchange I) → Option α → Prop} {E : ε → Prop}
    (ht : Task.Yields t P) (herror : ∀ w e w', t.run.runIn w = (some (.error e), w') → E e) :
    Task.Ends t fun calls o =>
      P calls (o.bind Except.toOption) ∧ ∀ e, o = some (.error e) → E e := by
  intro w
  obtain ⟨calls, hlead, hP⟩ := ht w
  refine ⟨calls, hlead, hP, fun e he => ?_⟩
  exact herror w e (t.run.runIn w).2 (Prod.ext he rfl)

theorem pure {x : α} (h : P [] (some (.ok x))) :
    Task.Ends (Pure.pure x : Task I σ ε α) P :=
  Act.Yields.pure h

theorem note_bind {n : Notice} {f : Unit → Task I σ ε β} (h : Task.Ends (f ()) Q) :
    Task.Ends (Task.note n >>= f) Q := by
  have hstep : Act.Yields ((Task.note n : Task I σ ε Unit).run >>= ExceptT.bindCont f) Q :=
    .step fun w => ⟨_, w.note n, [], runIn_note n w, w.leads_note n, h⟩
  exact hstep

/-- Two tasks make the exchanges of the first and then, if the first succeeds, those of the
second; an error of the first is one of both. -/
theorem bind (ht : Task.Ends t P) (hstop : ∀ calls, P calls none → Q calls none)
    (hfail : ∀ calls e, P calls (some (.error e)) → Q calls (some (.error e)))
    (hgo : ∀ calls x, P calls (some (.ok x)) →
      Task.Ends (f x) fun later o => Q (calls ++ later) o) :
    Task.Ends (t >>= f) Q := by
  refine Act.Yields.bind ht hstop fun calls result hP => ?_
  cases result with
  | ok x => exact hgo calls x hP
  | error e =>
    refine Act.Yields.pure ?_
    rw [List.append_nil]
    exact hfail calls e hP

theorem discard_bind {f : Unit → Task I σ ε β} (ht : Task.Ends t P)
    (hstop : ∀ calls, P calls none → Q calls none)
    (hfail : ∀ calls e, P calls (some (.error e)) → Q calls (some (.error e)))
    (hgo : ∀ calls x, P calls (some (.ok x)) →
      Task.Ends (f ()) fun later o => Q (calls ++ later) o) :
    Task.Ends (discard t >>= f) Q := by
  rw [discard_bind_eq]
  exact ht.bind hstop hfail hgo

/-- What is worked out beforehand takes no exchange. -/
theorem lift_bind {x : Except ε α} (hfail : ∀ e, x = .error e → Q [] (some (.error e)))
    (hgo : ∀ a, x = .ok a → Task.Ends (f a) Q) :
    Task.Ends ((liftM x : Task I σ ε α) >>= f) Q := by
  cases x with
  | ok a => exact hgo a rfl
  | error e => exact Act.Yields.pure (hfail e rfl)

/-- Renaming what goes wrong changes nothing else. -/
theorem adapt {g : ε → ε'} {P : List (Exchange I) → Option (Except ε' α) → Prop}
    (ht : Task.Ends t fun calls o => P calls (o.map (Except.mapError g))) :
    Task.Ends (ExceptT.adapt g t) P :=
  Act.Yields.map ht

end Task.Ends

end Settle
