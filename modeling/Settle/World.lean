/-
Time, cancellation and the remote side.

Operations run in a world: a clock that moves only when something sleeps or is
waited for, a token with which the caller can cancel, a remote side with a state
of its own, and a record of every exchange and every notice.

The token may be due to fire at some time. It fires only while time passes, and
only if time passes beyond that moment: whatever can be done at the very moment
without sleeping is still done first. When several things could end a pause they
are tried in a fixed order: cancellation, the deadline, the end of the pause. That is
the order in which the races of `poll`, of its `pause` and of the retries are biased.

An operation is a state monad over the world that may go on for ever. The last sections
say what each step of one does to the world it runs in; the proofs follow an operation
step by step with these lemmas and never unfold the monad.
-/
import Settle.Notice
import Settle.Outcome

set_option autoImplicit false

namespace Settle

/-! ## The remote side -/

/-- What can be asked of a remote side, and what each request is answered with. -/
structure Interface where
  Request : Type
  Response : Request → Type

/-- An answer on its way to the caller. -/
structure Answer (α : Type) where
  response : α
  /-- How long it takes until the answer arrives. -/
  delay : Nat := 0
  /-- Whether the caller's token is cancelled at the moment the answer arrives. -/
  cancels : Bool := false

/-- A remote side: a state machine with an answer to every request in every state. -/
structure Remote (I : Interface) (σ : Type) where
  answer : (q : I.Request) → σ → Answer (I.Response q) × σ
  /-- How many answers there are still to use up. A wait whose looks take no time gives up as
  endless once so many have come. That ends none too early if no request puts answers back, and one
  that uses none up gets the same answer ever after (`Remote.RunsDown`). -/
  unplayed : σ → Nat := fun _ => 0

/-- A request together with how its response is read. -/
structure Query (I : Interface) (α : Type) where
  request : I.Request
  read : I.Response request → α

/-- The same request, read further. -/
def Query.map {I : Interface} {α β : Type} (f : α → β) (q : Query I α) : Query I β :=
  ⟨q.request, f ∘ q.read⟩

/-- One request with its answer and the time at which it was made. -/
structure Exchange (I : Interface) where
  time : Nat
  request : I.Request
  answer : Answer (I.Response request)

/-! ## The token -/

/-- A cancellation token. -/
structure Token where
  fired : Bool := false
  /-- When the token is to fire, unless it does so earlier. -/
  due : Option Nat := none
  deriving DecidableEq

namespace Token

/-- When the token fires while time passes up to `wake`, if it does. -/
def alarm? (k : Token) (wake : Nat) : Option Nat :=
  if k.fired then none else k.due.filter (· < wake)

/-- The token after it has fired. -/
def fire (k : Token) : Token := { k with fired := true }

/-- The token once time has passed up to `wake`. -/
def passing (k : Token) (wake : Nat) : Token := if (k.alarm? wake).isSome then k.fire else k

end Token

/-! ## The world -/

/-- The world that an operation runs in. -/
structure World (I : Interface) (σ : Type) where
  now : Nat := 0
  token : Token := {}
  /-- Every exchange so far, oldest first. -/
  trace : Array (Exchange I) := #[]
  /-- Every notice so far, oldest first. -/
  log : Array Notice := #[]
  remote : σ

/-- What can cut a pause short. -/
structure Watch where
  /-- Whether the caller's token counts. -/
  heeds : Bool
  deadline : Option Nat

/-- Nothing cuts a pause short. -/
def Watch.nothing : Watch := ⟨false, none⟩

namespace Watch

/-- Whether the time is over at `t`. -/
def expired (v : Watch) (t : Nat) : Bool := v.deadline.any (· ≤ t)

/-- A time, or the deadline if that comes before it. -/
def cap (v : Watch) (t : Nat) : Nat := v.deadline.elim t (min t)

end Watch

namespace World

variable {I : Interface} {σ : Type}

/-- Lets time pass until `wake`, and nothing cuts it short. -/
def sleepUntil (w : World I σ) (wake : Nat) : World I σ :=
  if w.now < wake then { w with now := wake, token := w.token.passing wake } else w

/-- `pause`: lets `duration` pass unless the watch cuts it short, and says what did. -/
def pause (w : World I σ) (watch : Watch) (duration : Nat) : Option Interruption × World I σ :=
  if watch.heeds && w.token.fired then (some .cancelled, w)
  else if watch.expired w.now then (some .deadline, w)
  else if duration = 0 then (none, w)
  else
    let finish := w.now + duration
    let wake := watch.cap finish
    let cause := if watch.expired finish then some .deadline else none
    match w.token.alarm? wake with
    | some t =>
      if watch.heeds then
        (some .cancelled, { w with now := max w.now t, token := w.token.fire })
      else (cause, w.sleepUntil wake)
    | none => (cause, w.sleepUntil wake)

/-- Makes a request: the remote side decides on the answer, and the exchange is recorded. -/
def ask (w : World I σ) (R : Remote I σ) (q : I.Request) : Answer (I.Response q) × World I σ :=
  let (answer, remote) := R.answer q w.remote
  (answer, { w with remote, trace := w.trace.push ⟨w.now, q, answer⟩ })

/-- The moment an answer arrives. -/
def deliver {α : Type} (w : World I σ) (a : Answer α) : World I σ :=
  if a.cancels then { w with token := w.token.fire } else w

/-- Notes something in the log. -/
def note (w : World I σ) (n : Notice) : World I σ := { w with log := w.log.push n }

/-- The race in `poll` between a fetch, the token and the deadline: makes a request and waits for
the answer to arrive. An answer that the watch cuts off is lost. -/
def look {α : Type} (w : World I σ) (R : Remote I σ) (watch : Watch) (q : Query I α) :
    Except Interruption α × World I σ :=
  let (answer, w) := w.ask R q.request
  match w.pause watch answer.delay with
  | (some cause, w) => (.error cause, w)
  | (none, w) => (.ok (q.read answer.response), w.deliver answer)

/-- A call that is awaited by itself, as in the retries: makes a request and waits for the answer
however long it takes. -/
def call {α : Type} (w : World I σ) (R : Remote I σ) (q : Query I α) : α × World I σ :=
  let (answer, w) := w.ask R q.request
  (q.read answer.response, (w.sleepUntil (w.now + answer.delay)).deliver answer)

end World

/-! ## Activities -/

/-- An activity in a world. It has no result if it never ends. -/
abbrev Act (I : Interface) (σ : Type) := OptionT (StateM (World I σ))

/-- An activity that may fail. -/
abbrev Task (I : Interface) (σ ε : Type) := ExceptT ε (Act I σ)

namespace Act

variable {I : Interface} {σ : Type}

/-- An activity that goes on for ever. -/
def endless {α : Type} : Act I σ α := failure

/-- Lets time pass under a watch. -/
def pause (watch : Watch) (duration : Nat) : Act I σ (Option Interruption) :=
  modifyGet (·.pause watch duration)

/-- Notes something in the log. -/
def note (n : Notice) : Act I σ Unit := modify (·.note n)

/-- Makes a request and waits for the answer under a watch. -/
def look {α : Type} (R : Remote I σ) (watch : Watch) (q : Query I α) :
    Act I σ (Except Interruption α) :=
  modifyGet (·.look R watch q)

/-- Makes a request and waits for the answer. -/
def call {α : Type} (R : Remote I σ) (q : Query I α) : Act I σ α := modifyGet (·.call R q)

/-- Lets time pass. -/
def sleep (duration : Nat) : Act I σ Unit := modify fun w => w.sleepUntil (w.now + duration)

/-- Cancels the token. -/
def cancel : Act I σ Unit := modify fun w => { w with token := w.token.fire }

/-- Runs an activity in a world. -/
def runIn {α : Type} (a : Act I σ α) (w : World I σ) : Option α × World I σ := a.run w

/-! ## What activities do to the world -/

variable {α β : Type}

@[simp]
theorem runIn_pure (a : α) (w : World I σ) : (pure a : Act I σ α).runIn w = (some a, w) := rfl

@[simp]
theorem runIn_endless (w : World I σ) : (endless : Act I σ α).runIn w = (none, w) := rfl

/-- The second of two activities starts in the world that the first one leaves. -/
theorem runIn_bind (a : Act I σ α) (f : α → Act I σ β) (w : World I σ) :
    (a >>= f).runIn w =
      match a.runIn w with
      | (some x, w') => (f x).runIn w'
      | (none, w') => (none, w') := by
  simp only [runIn, OptionT.run_bind, Option.elimM]
  change StateT.run (_ >>= _) w = _
  rw [StateT.run_bind]
  cases h : StateT.run a.run w with
  | mk o w' =>
    have h' : OptionT.run a w = (o, w') := h
    rw [h']
    cases o <;> rfl

/-- After an activity that ends, the next one goes on with its result. -/
theorem runIn_bind_of_some {a : Act I σ α} {w w' : World I σ} {x : α}
    (h : a.runIn w = (some x, w')) (f : α → Act I σ β) : (a >>= f).runIn w = (f x).runIn w' := by
  rw [runIn_bind, h]

theorem runIn_map (f : α → β) (a : Act I σ α) (w : World I σ) :
    (f <$> a).runIn w = ((a.runIn w).1.map f, (a.runIn w).2) := by
  rw [map_eq_pure_bind, runIn_bind]
  cases a.runIn w with
  | mk o w' => cases o <;> rfl

@[simp]
theorem runIn_pause (watch : Watch) (duration : Nat) (w : World I σ) :
    (pause watch duration).runIn w =
      (some (w.pause watch duration).1, (w.pause watch duration).2) := rfl

@[simp]
theorem runIn_note (n : Notice) (w : World I σ) : (note n).runIn w = (some (), w.note n) := rfl

@[simp]
theorem runIn_look (R : Remote I σ) (watch : Watch) (q : Query I α) (w : World I σ) :
    (look R watch q).runIn w = (some (w.look R watch q).1, (w.look R watch q).2) := rfl

@[simp]
theorem runIn_call (R : Remote I σ) (q : Query I α) (w : World I σ) :
    (call R q).runIn w = (some (w.call R q).1, (w.call R q).2) := rfl

@[simp]
theorem runIn_sleep (duration : Nat) (w : World I σ) :
    (sleep duration).runIn w = (some (), w.sleepUntil (w.now + duration)) := rfl

end Act

namespace Task

variable {I : Interface} {σ ε : Type}

/-- Notes something in the log, which cannot fail. -/
def note (n : Notice) : Task I σ ε Unit := ExceptT.lift (Act.note n)

end Task

end Settle
