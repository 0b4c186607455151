/-
Repeating calls: `run`, `call_cancellable`.

A call that fails for a passing reason is made again, as a whole, a bounded number of
times with a fixed pause in between. `Retry.attempt` is one turn of the loop of `run`
and `Retry.attempts` the loop; it ends by itself, since every turn uses up one of the
repetitions that are left. The token is looked at before every attempt and during every
pause; a call on its way is left to finish, since nobody could tell what it did.
-/
import Settle.World

set_option autoImplicit false

namespace Settle

/-- The most attempts that are ever counted: `max_attempts` saturates at 32 bits. -/
def attemptLimit : Nat := 4294967295

/-- How often and how fast to repeat a call (`TransientRetry`). -/
structure Retry where
  /-- The repetitions after the first attempt. -/
  retries : Nat
  /-- The pause between attempts. -/
  delay : Nat
  deriving DecidableEq

/-- Why repeating came to nothing (`RetryHalt`). -/
inductive Halt (ε : Type) where
  /-- The last attempt failed for good, or there were no more. -/
  | failed (error : ε) (attempts : Nat)
  /-- The caller cancelled after some attempts. -/
  | cancelled (attempts : Nat)

/-- The error that a halt means to the caller of an operation, as `call_cancellable` maps it: that
of the last failure (`from_remote`), or a cancelled timeout. -/
def Halt.error {ε : Type} [RemoteFailure ε] : Halt ε → Error
  | .failed e attempts => .ofFailure e attempts
  | .cancelled _ => .timedOut true

namespace Retry

/-- `none`: a single attempt. -/
def once : Retry := ⟨0, 0⟩

/-- `max_attempts`: the first attempt and its repetitions. -/
def maxAttempts (r : Retry) : Nat := min (r.retries + 1) attemptLimit

variable {I : Interface} {σ ε α : Type} [RemoteFailure ε]

/-- One turn of the loop of `run`, after `made` attempts: the token, the call, and the class of its
failure (`classify`). It gives the result if the loop ends here, and else the passing failure after
which another attempt makes sense. -/
def attempt (heeds : Bool) (R : Remote I σ) (query : Query I (Except ε α)) (made : Nat) :
    Act I σ (Except (Halt ε) α ⊕ ε) := do
  match ← Act.pause ⟨heeds, none⟩ 0 with
  | some _ => return .inl (.error (.cancelled made))
  | none =>
    match ← Act.call R query with
    | .ok value => return .inl (.ok value)
    | .error e =>
      match RemoteFailure.classify e with
      | .transient => return .inr e
      | _ => return .inl (.error (.failed e (made + 1)))

/-- The loop of `run` after `made` attempts, with `left` repetitions allowed after the next one. A
passing failure that may be repeated is noted before the pause. -/
def attempts (r : Retry) (heeds : Bool) (R : Remote I σ) (query : Query I (Except ε α)) :
    Nat → Nat → Act I σ (Except (Halt ε) α)
  | 0, made => do
    match ← attempt heeds R query made with
    | .inl result => return result
    | .inr e => return .error (.failed e (made + 1))
  | left + 1, made => do
    match ← attempt heeds R query made with
    | .inl result => return result
    | .inr e =>
      Act.note (.retrying (made + 1) r.maxAttempts (RemoteFailure.message e))
      match ← Act.pause ⟨heeds, none⟩ r.delay with
      | some _ => return .error (.cancelled (made + 1))
      | none => r.attempts heeds R query left (made + 1)

/-- `run`: calls until an attempt succeeds, there is no use in another, or the caller cancels. -/
def run (r : Retry) (heeds : Bool) (R : Remote I σ) (query : Query I (Except ε α)) :
    Act I σ (Except (Halt ε) α) :=
  r.attempts heeds R query (r.maxAttempts - 1) 0

/-- `call_cancellable`: calls as `run` does, and gives the value or the error that the halt means. A
caller without a token is one that does not heed it (`call`). -/
def call (r : Retry) (heeds : Bool) (R : Remote I σ) (query : Query I (Except ε α)) :
    Task I σ Error α :=
  ExceptT.mk (Except.mapError Halt.error <$> r.run heeds R query)

end Retry

end Settle
