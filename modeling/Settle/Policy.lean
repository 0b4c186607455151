/-
Waiting policies: `PollPolicy`.

A policy says which states of a resource mean what, and when to look: how long to
wait before the first look and between looks, and how long in all. A policy makes
sense if there is something to wait for, some time to wait, and no state that
means two things. `validate` reports the first of these that does not hold, and a wait
takes only a policy for which they all do (`ValidPolicy`).

Times are whole milliseconds.
-/
import Settle.Error
import Settle.StateSet
import Settle.Text.Quoted

set_option autoImplicit false

namespace Settle

/-- What a state can mean to a wait: go on waiting, done, or failed. -/
inductive Meaning where
  | pending
  | target
  | fatal
  deriving DecidableEq

/-- The word for a meaning in messages. -/
def Meaning.name : Meaning → String
  | .pending => "pending"
  | .target => "target"
  | .fatal => "fatal"

/-- The vocabulary and timing of a wait (`PollPolicy`). -/
structure Policy where
  /-- The most time that the wait may take in all. -/
  timeout : Nat
  /-- What is waited for, as a noun in messages. -/
  subject : String := "resource"
  pending : StateSet := ∅
  target : StateSet := ∅
  /-- Without fatal states only a failed look ends the wait badly. -/
  fatal : StateSet := ∅
  /-- The time between looks. -/
  pollInterval : Nat := 10000
  /-- The least time between looks, whatever the interval says. -/
  minPollInterval : Nat := 0
  /-- The time before the first look. -/
  initialDelay : Nat := 0
  deriving DecidableEq

namespace Policy

/-- `tick_interval`: the time that passes between looks in effect. -/
def tick (p : Policy) : Nat := max p.pollInterval p.minPollInterval

/-- The states with a meaning. -/
def states (p : Policy) : Meaning → StateSet
  | .pending => p.pending
  | .target => p.target
  | .fatal => p.fatal

/-- Why a policy makes no sense. -/
inductive Defect where
  | noTarget
  | zeroTimeout
  /-- A state has two meanings. -/
  | overlap (state : String) (one other : Meaning)
  deriving DecidableEq

/-- How a defect reads for a policy on `subject`. -/
def Defect.message (subject : String) : Defect → String
  | .noTarget => subject ++ " poll policy has no target states"
  | .zeroTimeout => subject ++ " poll policy has a zero timeout"
  | .overlap state one other =>
    subject ++ " poll policy lists " ++ Text.quoted state ++ " as both " ++ one.name ++ " and "
      ++ other.name

/-- The pairs of meanings that must not share a state, in the order in which they are reported. -/
def exclusive : List (Meaning × Meaning) :=
  [(.pending, .target), (.pending, .fatal), (.target, .fatal)]

/-- The smallest state with both meanings. -/
def overlap? (p : Policy) (pair : Meaning × Meaning) : Option Defect :=
  ((p.states pair.1).firstShared? (p.states pair.2)).map (.overlap · pair.1 pair.2)

/-- What `validate` finds first: no target, no time, or a state with two meanings. -/
def defect? (p : Policy) : Option Defect :=
  if p.target.toList = [] then some .noTarget
  else if p.timeout = 0 then some .zeroTimeout
  else exclusive.findSome? p.overlap?

end Policy

/-- A policy that makes sense. -/
structure ValidPolicy extends Policy where
  valid : toPolicy.defect? = none

/-- `validate`: the policy, if it makes sense, and else what is wrong with it as an error of the
configuration. -/
def Policy.validate (p : Policy) : Except Error ValidPolicy :=
  match h : p.defect? with
  | some d => .error (.configuration (d.message p.subject))
  | none => .ok ⟨p, h⟩

end Settle
