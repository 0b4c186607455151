/-
Waiting for a resource: `poll`.

`poll` looks at a resource again and again until what it sees settles the matter, its
time is over, or the caller cancels. `Wait.round` is one turn of its loop: it looks at
the token and the clock, fetches once, judges what came (`evaluate`), and pauses for a
tick (`pause`). The order of these tests is that of the program. Looks never overlap,
and each is counted as it begins, whether its answer is heard or not.

The count of looks has 32 bits and wraps around after that many, as that of the program
does unless it is built to stop at an overflow. Within a timeout of 2 ^ 32 - 1 ticks there
are never so many looks (`Wait.length_lt_of_timeout_le`).

The loop itself has no bound. `Wait.run` gives it one, so that it is a function: as many
rounds as there are milliseconds, and as many more as there are answers to use up. A wait
that runs out of it is endless. If the tick has some length, or else if the remote side
runs down (`Remote.RunsDown`), this happens to no wait that would have ended without the
bound: `Wait.run_eq_some_iff`.
-/
import Settle.Verdict
import Settle.World

set_option autoImplicit false

namespace Settle

/-- A wait under a policy, as `StatePoller` keeps it. -/
structure Wait where
  policy : ValidPolicy
  /-- Whether the caller's token ends the wait. -/
  heeds : Bool := false

namespace Wait

variable {I : Interface} {σ ε : Type}

/-- `finish_timed_out`: notes that the wait was cut short after so many looks, and gives the outcome
for the cause. -/
def giveUp (cause : Interruption) (looks : UInt32) : Act I σ Outcome := do
  Act.note (.gaveUp looks)
  return .timedOut cause

variable [RemoteFailure ε]

/-- One turn of the loop of `poll`, after `looks` looks and with `warned` for the unknown values
remarked on before. It gives the outcome if the wait ends in it, and else the unknown values
remarked on by now. A look that is cut off has been counted all the same. -/
def round (w : Wait) (R : Remote I σ) (operation : Operation)
    (query : Query I (Except ε Reading)) (watch : Watch) (looks : UInt32) (warned : List String) :
    Act I σ (Outcome ⊕ List String) := do
  match ← Act.pause watch 0 with
  | some cause => .inl <$> giveUp cause looks
  | none =>
    match ← Act.look R watch query with
    | .error cause => .inl <$> giveUp cause (looks + 1)
    | .ok response =>
      match w.policy.verdict operation response with
      | some outcome =>
        Act.note (.finished (looks + 1))
        return .inl outcome
      | none =>
        let remark := w.policy.remark warned response
        remark.forM Act.note
        match ← Act.pause watch w.policy.tick with
        | some cause => .inl <$> giveUp cause (looks + 1)
        | none => return .inr (Policy.warnedAfter warned remark)

/-- The loop of `poll`, at most `fuel` turns of it. -/
def rounds (w : Wait) (R : Remote I σ) (operation : Operation)
    (query : Query I (Except ε Reading)) (watch : Watch) :
    Nat → UInt32 → List String → Act I σ Outcome
  | 0, _, _ => Act.endless
  | fuel + 1, looks, warned => do
    match ← w.round R operation query watch looks warned with
    | .inl outcome => return outcome
    | .inr warned => w.rounds R operation query watch fuel (looks + 1) warned

/-- `poll`: waits until the resource that `query` looks at has settled. The deadline is the timeout
from now, and the initial delay counts towards it. -/
def run (w : Wait) (R : Remote I σ) (operation : Operation)
    (query : Query I (Except ε Reading)) : Act I σ Outcome := do
  let start ← get
  let watch : Watch := ⟨w.heeds, some (start.now + w.policy.timeout)⟩
  match ← Act.pause watch w.policy.initialDelay with
  | some cause => giveUp cause 0
  | none =>
    let fuel := w.policy.timeout + R.unplayed start.remote + 1
    w.rounds R operation query watch fuel 0 []

/-- `poll`, and `into_result` of its outcome: the status with which the wait has converged, or why
there is none. -/
def settle (w : Wait) (R : Remote I σ) (operation : Operation)
    (query : Query I (Except ε Reading)) : Task I σ Error String :=
  ExceptT.mk (Outcome.result <$> w.run R operation query)

end Wait

end Settle
