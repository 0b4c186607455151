/-
Failed calls to a remote side: `classify`.

The waits and retries never look into the failures of a particular remote side.
They ask three things of them: whether the failure says that the resource does
not exist, whether it is a known passing condition, and how it reads. The class
of a failure follows from the first two.
-/
set_option autoImplicit false

namespace Settle

/-- What a type of failures can tell about each of them (`RemoteError`). Passing conditions are
opt-in: a remote side that knows of none leaves that question out. -/
class RemoteFailure (ε : Type) where
  /-- `is_not_found`: whether the failure says that the resource does not exist. -/
  isAbsent : ε → Bool
  /-- `is_transient`: whether the failure is a known passing condition of the service. -/
  isTransient : ε → Bool := fun _ => false
  /-- How the failure reads. -/
  message : ε → String

/-- What a failure means to the caller: the resource is gone, the call may be repeated, or
neither. -/
inductive FailureClass where
  | absent
  | transient
  | fatal
  deriving DecidableEq

namespace FailureClass

/-- Every class. -/
def all : List FailureClass := [.absent, .transient, .fatal]

/-- The word for a class. -/
def name : FailureClass → String
  | .absent => "not_found"
  | .transient => "transient"
  | .fatal => "fatal"

end FailureClass

/-- `classify`: the class of a failure. Absence comes first: a failure that is both describes a
resource that no longer exists. -/
def RemoteFailure.classify {ε : Type} [RemoteFailure ε] (e : ε) : FailureClass :=
  if isAbsent e then .absent
  else if isTransient e then .transient
  else .fatal

end Settle
