/-
Cancelling from outside.

Two runs of one activity are compared: from a quiet world, in which nothing will
fire the token, and from the same world with a token that is due at `t`.
`Act.Truncates` says how they differ. If the quiet run is over by `t` they do not
differ at all; otherwise the other run fires its token and makes exactly those
exchanges of the quiet run that begin by `t`. What an activity does once the token
has fired is `Act.Idles`: nothing, and it ends at once.

Both go through `bind`. If the first activity is cut off, the second one begins with
the token fired and idles, while in the quiet run it begins after `t`, so all its
exchanges are beyond `t` too. What the cut run ends with depends on where it was cut
off, and is left to the relation `S`.

`Truncates` speaks about one world and not about all of them, because whether a wait
ends at all depends on the time it has left.
-/
import Settle.Proofs.Calls

set_option autoImplicit false

namespace Settle

variable {I : Interface} {σ α β ε : Type}

/-! ## 1. Quiet and armed worlds -/

/-- Nothing is going to fire the token. -/
def World.Quiet (w : World I σ) : Prop := w.token = {}

/-- The world with a token that is due at `t`. -/
def World.armed (w : World I σ) (t : Nat) : World I σ := { w with token := { due := some t } }

/-- The answers of the remote side never cancel. -/
def Remote.Neutral (R : Remote I σ) : Prop := ∀ q s, (R.answer q s).1.cancels = false

/-- The same remote side, but its answers do not cancel. -/
def Remote.steady (R : Remote I σ) : Remote I σ where
  answer q s := ({ (R.answer q s).1 with cancels := false }, (R.answer q s).2)
  unplayed := R.unplayed

theorem Remote.neutral_steady (R : Remote I σ) : R.steady.Neutral := fun _ _ => rfl

/-- The answer of an exchange is on its way at `t`. -/
def Exchange.InFlight (e : Exchange I) (t : Nat) : Prop :=
  e.time ≤ t ∧ t < e.time + e.answer.delay

/-- The answer of one of the exchanges is on its way at `t`. -/
def Caught (t : Nat) (calls : List (Exchange I)) : Prop := ∃ e ∈ calls, e.InFlight t

theorem caught_append {t : Nat} {calls later : List (Exchange I)} :
    Caught t (calls ++ later) ↔ Caught t calls ∨ Caught t later := by
  constructor
  · rintro ⟨e, he, hflight⟩
    exact (List.mem_append.1 he).imp (⟨e, ·, hflight⟩) (⟨e, ·, hflight⟩)
  · rintro (⟨e, he, hflight⟩ | ⟨e, he, hflight⟩)
    · exact ⟨e, List.mem_append_left later he, hflight⟩
    · exact ⟨e, List.mem_append_right calls he, hflight⟩

theorem Caught.after {t : Nat} {calls : List (Exchange I)} (h : Caught t calls)
    (before : List (Exchange I)) : Caught t (before ++ calls) := caught_append.2 (.inr h)

/-! ## 2. Idling -/

namespace Act

/-- Once the token has fired, the activity asks for nothing and ends at once with a
result of this kind. -/
def Idles (a : Act I σ α) (S : α → Prop) : Prop :=
  ∀ w, w.token.fired = true →
    ∃ y w', a.runIn w = (some y, w') ∧ w'.now = w.now ∧ w'.trace = w.trace ∧
      w'.token.fired = true ∧ S y

namespace Idles

variable {a : Act I σ α} {f : α → Act I σ β} {S S' : α → Prop} {T : β → Prop}

theorem mono (ha : a.Idles S) (h : ∀ y, S y → S' y) : a.Idles S' := by
  intro w hfired
  obtain ⟨y, w', hrun, hnow, htrace, hfired', hS⟩ := ha w hfired
  exact ⟨y, w', hrun, hnow, htrace, hfired', h y hS⟩

theorem pure {x : α} (h : S x) : Idles (Pure.pure x : Act I σ α) S :=
  fun w hfired => ⟨x, w, rfl, rfl, rfl, hfired, h⟩

theorem bind (ha : a.Idles S) (hf : ∀ y, S y → (f y).Idles T) : (a >>= f).Idles T := by
  intro w hfired
  obtain ⟨y, w', hrun, hnow, htrace, hfired', hS⟩ := ha w hfired
  obtain ⟨z, w'', hrun', hnow', htrace', hfired'', hT⟩ := hf y hS w' hfired'
  rw [runIn_bind_of_some hrun]
  exact ⟨z, w'', hrun', hnow'.trans hnow, htrace'.trans htrace, hfired'', hT⟩

theorem map {g : α → β} (ha : a.Idles fun y => T (g y)) : (g <$> a).Idles T := by
  intro w hfired
  obtain ⟨y, w', hrun, hnow, htrace, hfired', hT⟩ := ha w hfired
  rw [runIn_map, hrun]
  exact ⟨g y, w', rfl, hnow, htrace, hfired', hT⟩

theorem note_bind {n : Notice} {f : Unit → Act I σ β} (h : (f ()).Idles T) :
    (Act.note n >>= f).Idles T := by
  have hnote : (Act.note n : Act I σ Unit).Idles fun _ => True :=
    fun w hfired => ⟨(), w.note n, runIn_note n w, rfl, rfl, hfired, trivial⟩
  exact hnote.bind fun _ _ => h

/-- A pause that heeds the token is over before it begins. -/
theorem pause_bind {watch : Watch} {duration : Nat} {f : Option Interruption → Act I σ β}
    (hheeds : watch.heeds = true) (h : (f (some .cancelled)).Idles T) :
    (Act.pause watch duration >>= f).Idles T := by
  have hpause : (Act.pause watch duration : Act I σ _).Idles (· = some .cancelled) := by
    intro w hfired
    refine ⟨_, w, ?_, rfl, rfl, hfired, rfl⟩
    rw [runIn_pause, World.pause_of_fired duration hheeds hfired]
  apply hpause.bind
  rintro _ rfl
  exact h

end Idles

/-! ## 3. Truncation -/

/-- From a quiet world the activity ends in a quiet world. With a token that is due at `t`
it does the same if it is over by then; otherwise it ends with its token fired, has
made the exchanges that begin by `t`, and these and its result are related by `S`. -/
def Truncates (a : Act I σ α) (t : Nat) (w : World I σ) (S : List (Exchange I) → α → Prop) :
    Prop :=
  ∃ x calls w', a.runIn w = (some x, w') ∧ w.Leads calls w' ∧ w'.Quiet ∧
    (w.now ≤ t → w'.now ≤ t → a.runIn (w.armed t) = (some x, w'.armed t)) ∧
    (w.now ≤ t → t < w'.now → ∃ y cut, a.runIn (w.armed t) = (some y, cut) ∧
      cut.token.fired = true ∧ cut.trace.toList = w.trace.toList ++ upTo t calls ∧
      S (upTo t calls) y)

namespace Truncates

variable {a : Act I σ α} {f : α → Act I σ β} {t : Nat} {w : World I σ}
  {S S' : List (Exchange I) → α → Prop} {T : List (Exchange I) → β → Prop}

theorem mono (ha : a.Truncates t w S) (h : ∀ calls y, S calls y → S' calls y) :
    a.Truncates t w S' := by
  obtain ⟨x, calls, w', hrun, hlead, hquiet, hsame, hcut⟩ := ha
  refine ⟨x, calls, w', hrun, hlead, hquiet, hsame, fun hnow ht => ?_⟩
  obtain ⟨y, cut, hrun', hfired, htrace, hS⟩ := hcut hnow ht
  exact ⟨y, cut, hrun', hfired, htrace, h _ _ hS⟩

/-- Only the runs from the two worlds matter. -/
theorem congr {b : Act I σ α} (hb : b.Truncates t w S) (h : a.runIn w = b.runIn w)
    (h' : a.runIn (w.armed t) = b.runIn (w.armed t)) : a.Truncates t w S := by
  unfold Truncates
  rw [h, h']
  exact hb

/-- What an activity always yields it yields when it is cut off, too. -/
theorem and_yields {P : List (Exchange I) → Option α → Prop} (ha : a.Truncates t w S)
    (hyields : a.Yields P) :
    a.Truncates t w fun calls y => S calls y ∧ P calls (some y) := by
  obtain ⟨x, calls, w', hrun, hlead, hquiet, hsame, hcut⟩ := ha
  refine ⟨x, calls, w', hrun, hlead, hquiet, hsame, fun hnow ht => ?_⟩
  obtain ⟨y, cut, hrun', hfired, htrace, hS⟩ := hcut hnow ht
  obtain ⟨later, hlead', hP⟩ := hyields (w.armed t)
  rw [hrun'] at hlead' hP
  have hlater : later = upTo t calls :=
    List.append_cancel_left (hlead'.trace_eq.symm.trans htrace)
  rw [hlater] at hP
  exact ⟨y, cut, hrun', hfired, htrace, hS, hP⟩

/-- An activity that takes no time and does not look at the token is never cut off. -/
theorem of_instant {x : α} {w' : World I σ} (hrun : a.runIn w = (some x, w'))
    (hnow : w'.now = w.now) (htrace : w'.trace = w.trace) (hquiet : w'.Quiet)
    (harmed : a.runIn (w.armed t) = (some x, w'.armed t)) : a.Truncates t w S := by
  refine ⟨x, [], w', hrun, World.leads_of_trace_eq (Nat.le_of_eq hnow.symm) htrace, hquiet,
    fun _ _ => harmed, fun _ ht => ?_⟩
  omega

theorem pure {x : α} (hquiet : w.Quiet) : Truncates (Pure.pure x : Act I σ α) t w S :=
  of_instant rfl rfl rfl hquiet rfl

theorem map {g : α → β} (ha : a.Truncates t w fun calls y => T calls (g y)) :
    (g <$> a).Truncates t w T := by
  obtain ⟨x, calls, w', hrun, hlead, hquiet, hsame, hcut⟩ := ha
  refine ⟨g x, calls, w', ?_, hlead, hquiet, fun hnow ht => ?_, fun hnow ht => ?_⟩
  · rw [runIn_map, hrun]
    rfl
  · rw [runIn_map, hsame hnow ht]
    rfl
  · obtain ⟨y, cut, hrun', hfired, htrace, hT⟩ := hcut hnow ht
    refine ⟨g y, cut, ?_, hfired, htrace, hT⟩
    rw [runIn_map, hrun']
    rfl

/-- **Truncation goes through `bind`**, if the second activity truncates wherever the first
one may lead and idles after whatever the first one may be cut off with. -/
theorem bind (ha : a.Truncates t w S)
    (hgo : ∀ x calls w', a.runIn w = (some x, w') → w.Leads calls w' → w'.Quiet →
      (f x).Truncates t w' fun later y => T (calls ++ later) y)
    (hidle : ∀ calls y, S calls y → (f y).Idles (T calls)) :
    (a >>= f).Truncates t w T := by
  obtain ⟨x, calls, w', hrun, hlead, hquiet, hsame, hcut⟩ := ha
  obtain ⟨z, later, w'', hrun', hlead', hquiet', hsame', hcut'⟩ := hgo x calls w' hrun hlead hquiet
  have hle := hlead.now_le
  have hle' := hlead'.now_le
  refine ⟨z, calls ++ later, w'', ?_, hlead.trans hlead', hquiet', fun hnow ht => ?_,
    fun hnow ht => ?_⟩
  · rw [runIn_bind_of_some hrun]
    exact hrun'
  · rw [runIn_bind_of_some (hsame hnow (Nat.le_trans hle' ht))]
    exact hsame' (Nat.le_trans hle' ht) ht
  · by_cases hfirst : w'.now ≤ t
    · -- Only the second activity is cut off.
      obtain ⟨y, cut, hrun'', hfired, htrace, hT⟩ := hcut' hfirst ht
      have hcalls : upTo t (calls ++ later) = calls ++ upTo t later := by
        rw [upTo_append, upTo_eq_self fun e he => Nat.le_trans (hlead.between e he).2 hfirst]
      refine ⟨y, cut, ?_, hfired, ?_, ?_⟩
      · rw [runIn_bind_of_some (hsame hnow hfirst)]
        exact hrun''
      · rw [htrace, hcalls, hlead.trace_eq, List.append_assoc]
      · rw [hcalls]
        exact hT
    · -- The first activity is cut off, and the second one idles.
      obtain ⟨y, cut, hrun'', hfired, htrace, hS⟩ := hcut hnow (Nat.lt_of_not_le hfirst)
      obtain ⟨z', cut', hrun''', -, htrace', hfired', hT⟩ := hidle _ y hS cut hfired
      have hlater : upTo t later = [] := by
        refine upTo_eq_nil fun e he => ?_
        have := (hlead'.between e he).1
        omega
      have hcalls : upTo t (calls ++ later) = upTo t calls := by
        rw [upTo_append, hlater, List.append_nil]
      refine ⟨z', cut', ?_, hfired', ?_, ?_⟩
      · rw [runIn_bind_of_some hrun'']
        exact hrun'''
      · rw [htrace', htrace, hcalls]
      · rw [hcalls]
        exact hT

theorem note_bind {n : Notice} {f : Unit → Act I σ β} (hquiet : w.Quiet)
    (h : (f ()).Truncates t (w.note n) T) : (Act.note n >>= f).Truncates t w T := by
  have hnote : (Act.note n : Act I σ Unit).Truncates t w fun _ _ => False :=
    of_instant (runIn_note n w) rfl rfl hquiet rfl
  refine hnote.bind (fun x calls w' hrun hlead _ => ?_) fun _ _ h => h.elim
  cases hrun
  rw [hlead.unique (w.leads_note n)]
  exact h

theorem remark_bind {remark : Option Notice} {f : PUnit → Act I σ β} (hquiet : w.Quiet)
    (h : (f ()).Truncates t (w.remarked remark) T) :
    ((remark.forM Act.note : Act I σ PUnit) >>= f).Truncates t w T := by
  cases remark with
  | none => exact h
  | some n => exact note_bind hquiet h

end Truncates

end Act

/-! ## 4. Pauses, looks and calls -/

section Quiet

variable {R : Remote I σ} {watch : Watch} {t : Nat} {w : World I σ}

theorem World.Quiet.unfired (hquiet : w.Quiet) : watch.heeds = true → w.token.fired = false :=
  fun _ => by rw [hquiet]

theorem World.Quiet.alarm?_eq_none (hquiet : w.Quiet) (wake : Nat) :
    w.token.alarm? wake = none :=
  Token.alarm?_eq_none fun t hdue => by
    rw [hquiet] at hdue
    cases hdue

theorem World.Quiet.note (hquiet : w.Quiet) (n : Notice) : (w.note n).Quiet := hquiet

theorem World.Quiet.remarked (hquiet : w.Quiet) (remark : Option Notice) :
    (w.remarked remark).Quiet := by
  unfold World.Quiet
  rw [World.remarked_token, hquiet]

theorem World.Quiet.sleepUntil (hquiet : w.Quiet) (wake : Nat) : (w.sleepUntil wake).Quiet := by
  unfold World.Quiet
  rw [World.sleepUntil_token (hquiet.alarm?_eq_none wake), hquiet]

/-- An armed token lets one sleep until it is due. -/
theorem World.Quiet.sleepUntil_armed (hquiet : w.Quiet) {wake : Nat} (hnow : w.now ≤ wake)
    (ht : wake ≤ t) : (w.armed t).sleepUntil wake = (w.sleepUntil wake).armed t := by
  have halarm : (w.armed t).token.alarm? wake = none := Token.alarm?_eq_none fun t' hdue => by
    cases hdue
    exact ht
  rw [World.sleepUntil_eq (w := w.armed t) hnow halarm,
    World.sleepUntil_eq hnow (hquiet.alarm?_eq_none wake)]
  rfl

/-- An armed token fires while one sleeps beyond the moment it is due. -/
theorem World.fired_sleepUntil {wake : Nat} (hnow : w.now ≤ t) (ht : t < wake) :
    ((w.armed t).sleepUntil wake).token.fired = true := by
  have hlt : (w.armed t).now < wake := Nat.lt_of_le_of_lt hnow ht
  have halarm : (w.armed t).token.alarm? wake = some t := Token.alarm?_eq_some rfl rfl ht
  unfold World.sleepUntil Token.passing
  rw [if_pos hlt, halarm]
  rfl

/-- A pause from a quiet world and from an armed one. -/
theorem World.Quiet.pause (hquiet : w.Quiet) (duration : Nat) (hheeds : watch.heeds = true) :
    ∃ cause w', w.pause watch duration = (cause, w') ∧ w'.Quiet ∧
      (w.now ≤ t → w'.now ≤ t →
        (w.armed t).pause watch duration = (cause, w'.armed t)) ∧
      (w.now ≤ t → t < w'.now → ∃ cut, (w.armed t).pause watch duration = (some .cancelled, cut) ∧
        cut.token.fired = true ∧ cut.trace = w.trace) := by
  by_cases hexpired : watch.expired w.now = true
  · -- The deadline ends the pause before it begins, whatever the token.
    refine ⟨_, w, World.pause_of_expired duration hquiet.unfired hexpired, hquiet,
      fun _ _ => ?_, fun _ _ => ?_⟩
    · exact World.pause_of_expired (w := w.armed t) duration (fun _ => rfl) hexpired
    · omega
  have hintime := Bool.eq_false_iff.2 hexpired
  have hwake : w.now ≤ watch.cap (w.now + duration) :=
    World.le_cap hintime (Nat.le_add_right _ _)
  have hrun := World.pause_calm duration hquiet.unfired hintime fun _ t' hdue => by
    rw [hquiet] at hdue
    cases hdue
  refine ⟨_, _, hrun, hquiet.sleepUntil _, fun _ ht => ?_, fun hnow ht => ?_⟩
  · -- The pause is over by `t`, when the token is not due yet.
    rw [World.sleepUntil_now hwake] at ht
    have hrun' := World.pause_calm (w := w.armed t) duration (fun _ => rfl) hintime
      fun _ t' hdue => by
        cases hdue
        exact ht
    rw [hrun', ← hquiet.sleepUntil_armed hwake ht]
    rfl
  · -- The token is due before the pause is over.
    rw [World.sleepUntil_now hwake] at ht
    exact ⟨_, World.pause_alarm (w := w.armed t) duration hheeds rfl hintime rfl hnow ht, rfl, rfl⟩

/-- A pause is cut off by its interruption. -/
theorem Act.truncates_pause (duration : Nat) (hheeds : watch.heeds = true) (hquiet : w.Quiet) :
    (Act.pause watch duration : Act I σ _).Truncates t w fun _ y => y = some .cancelled := by
  obtain ⟨cause, w', hrun, hquiet', hsame, hcut⟩ := hquiet.pause (t := t) duration hheeds
  have hlead := w.leads_pause watch duration
  rw [hrun] at hlead
  refine ⟨cause, [], w', by rw [runIn_pause, hrun], hlead, hquiet', fun hnow ht => ?_,
    fun hnow ht => ?_⟩
  · rw [runIn_pause, hsame hnow ht]
  · obtain ⟨cut, hrun', hfired, htrace⟩ := hcut hnow ht
    refine ⟨_, cut, by rw [runIn_pause, hrun'], hfired, ?_, rfl⟩
    rw [htrace]
    exact (List.append_nil _).symm

/-- The exchange of a query that is made by `t`. -/
theorem upTo_callOf (q : Query I α) (hnow : w.now ≤ t) :
    upTo t [(w.callOf R q).exchange] = [(w.callOf R q).exchange] :=
  upTo_eq_self fun e he => by
    rw [List.mem_singleton.1 he]
    exact hnow

/-- A look is cut off while its answer is on its way. -/
theorem Act.truncates_look (q : Query I α) (hneutral : R.Neutral) (hheeds : watch.heeds = true)
    (hquiet : w.Quiet) :
    (Act.look R watch q).Truncates t w fun _ y => y = .error .cancelled := by
  have hasked : (w.ask R q.request).2.Quiet := hquiet
  obtain ⟨cause, w', hrun, hquiet', hsame, hcut⟩ :=
    hasked.pause (t := t) (R.answer q.request w.remote).1.delay hheeds
  have hlead := (w.look_cases R q watch).1
  have hdeliver (w' : World I σ) : w'.deliver (R.answer q.request w.remote).1 = w' :=
    World.deliver_eq_self (hneutral _ _)
  -- If the token fires on the way, it makes no difference whether the answer would have come.
  have hcut' (hnow : w.now ≤ t) (ht : t < w'.now) : ∃ y cut,
      (Act.look R watch q).runIn (w.armed t) = (some y, cut) ∧ cut.token.fired = true ∧
        cut.trace.toList = w.trace.toList ++ upTo t [(w.callOf R q).exchange] ∧
        y = .error .cancelled := by
    obtain ⟨cut, hrun', hfired, htrace⟩ := hcut hnow ht
    refine ⟨_, cut, ?_, hfired, ?_, rfl⟩
    · rw [runIn_look, World.look_of_cut (w := w.armed t) hrun']
    · rw [htrace, World.ask_trace, upTo_callOf q hnow]
      rfl
  cases cause with
  | some cause =>
    rw [World.look_of_cut hrun] at hlead
    refine ⟨.error cause, _, w', ?_, hlead, hquiet', fun hnow ht => ?_, hcut'⟩
    · rw [runIn_look, World.look_of_cut hrun]
    · rw [runIn_look, World.look_of_cut (w := w.armed t) (hsame hnow ht)]
  | none =>
    rw [World.look_of_arrival hrun, hdeliver] at hlead
    refine ⟨.ok (w.callOf R q).result, _, w', ?_, hlead, hquiet', fun hnow ht => ?_, hcut'⟩
    · rw [runIn_look, World.look_of_arrival hrun, hdeliver]
      rfl
    · rw [runIn_look, World.look_of_arrival (w := w.armed t) (hsame hnow ht)]
      have hsame' := hdeliver (w'.armed t)
      change (some (Except.ok _), (w'.armed t).deliver (R.answer q.request w.remote).1) = _
      rw [hsame']
      rfl

/-- A call is not cut off, but `t` may come while its answer is on its way. -/
theorem Act.truncates_call (q : Query I α) (hneutral : R.Neutral) (hquiet : w.Quiet) :
    (Act.call R q).Truncates t w fun calls _ => Caught t calls := by
  have hdeliver (w' : World I σ) : w'.deliver (R.answer q.request w.remote).1 = w' :=
    World.deliver_eq_self (hneutral _ _)
  have hasked : (w.ask R q.request).2.Quiet := hquiet
  have hwake : (w.ask R q.request).2.now ≤ w.now + (R.answer q.request w.remote).1.delay :=
    Nat.le_add_right _ _
  have hlead := w.leads_call R q
  have hcall : w.call R q = ((w.callOf R q).result,
      (w.ask R q.request).2.sleepUntil (w.now + (R.answer q.request w.remote).1.delay)) := by
    rw [← hdeliver ((w.ask R q.request).2.sleepUntil _)]
    rfl
  have hcall' : (w.armed t).call R q = ((w.callOf R q).result,
      ((w.ask R q.request).2.armed t).sleepUntil
        (w.now + (R.answer q.request w.remote).1.delay)) := by
    rw [← hdeliver (((w.ask R q.request).2.armed t).sleepUntil _)]
    rfl
  rw [hcall] at hlead
  refine ⟨_, _, _, by rw [runIn_call, hcall], hlead, hasked.sleepUntil _, fun _ ht => ?_,
    fun hnow ht => ?_⟩
  · rw [World.sleepUntil_now hwake] at ht
    rw [runIn_call, hcall', hasked.sleepUntil_armed hwake ht]
  · rw [World.sleepUntil_now hwake] at ht
    rw [upTo_callOf q hnow]
    refine ⟨_, _, by rw [runIn_call, hcall'], ?_, ?_, _, List.mem_singleton.2 rfl, hnow, ht⟩
    · exact World.fired_sleepUntil hnow ht
    · rw [World.sleepUntil_trace]
      exact World.ask_trace w R q.request

end Quiet

/-! ## 5. Tasks -/

namespace Task

variable {task : Task I σ ε α} {f : α → Task I σ ε β} {t : Nat} {w : World I σ}

section Idles

variable {S : Except ε α → Prop} {T : Except ε β → Prop}

theorem idles_bind (h : task.run.Idles S) (hok : ∀ x, S (.ok x) → (f x).run.Idles T)
    (herr : ∀ e, S (.error e) → T (.error e)) : (task >>= f).run.Idles T := by
  refine Act.Idles.bind h fun y hS => ?_
  cases y with
  | ok x => exact hok x hS
  | error e => exact .pure (herr e hS)

/-- A task that fails idly lets nothing else begin. -/
theorem idles_bind_of_fails {e : ε} (h : task.run.Idles (· = .error e)) :
    (task >>= f).run.Idles (· = .error e) := by
  refine idles_bind h (fun x hx => by cases hx) fun e' he' => ?_
  cases he'
  rfl

theorem idles_note_bind {n : Notice} {f : Unit → Task I σ ε β} (h : (f ()).run.Idles T) :
    (Task.note n >>= f).run.Idles T := by
  have hnote : (Task.note n : Task I σ ε Unit).run.Idles (· = .ok ()) := by
    exact fun w hfired => ⟨_, w.note n, runIn_note n w, rfl, rfl, hfired, rfl⟩
  exact idles_bind hnote (fun _ _ => h) fun _ he => by cases he

end Idles

variable {S : List (Exchange I) → Except ε α → Prop} {T : List (Exchange I) → Except ε β → Prop}

/-- Truncation goes through `bind` for tasks, too: a task that is cut off may have
succeeded or failed. -/
theorem truncates_bind (h : task.run.Truncates t w S)
    (hgo : ∀ x calls w', task.run.runIn w = (some (.ok x), w') → w.Leads calls w' → w'.Quiet →
      (f x).run.Truncates t w' fun later y => T (calls ++ later) y)
    (hidle : ∀ calls x, S calls (.ok x) → (f x).run.Idles (T calls))
    (herr : ∀ calls e, S calls (.error e) → T calls (.error e)) :
    (task >>= f).run.Truncates t w T := by
  refine Act.Truncates.bind h (fun result calls w' hrun hlead hquiet => ?_) fun calls y hS => ?_
  · cases result with
    | ok x => exact hgo x calls w' hrun hlead hquiet
    | error e => exact .pure hquiet
  · cases y with
    | ok x => exact hidle calls x hS
    | error e => exact .pure (herr calls e hS)

theorem truncates_note_bind {n : Notice} {f : Unit → Task I σ ε β} (hquiet : w.Quiet)
    (h : (f ()).run.Truncates t (w.note n) T) : (Task.note n >>= f).run.Truncates t w T := by
  have hnote : (Task.note n : Task I σ ε Unit).run.Truncates t w fun _ _ => False :=
    .of_instant (runIn_note n w) rfl rfl hquiet (runIn_note n (w.armed t))
  refine truncates_bind hnote (fun x calls w' hrun hlead _ => ?_) (fun _ _ h => h.elim)
    fun _ _ h => h.elim
  rw [runIn_note] at hrun
  cases hrun
  rw [hlead.unique (w.leads_note n)]
  exact h

end Task

end Settle
