/-
Failed calls to the cloud.

A failed call tells which operation it was, in prose what went wrong, and, where
the endpoint has them, an HTTP status and an error code. Status and code decide
what the failure means. Only an old endpoint that gives neither is taken by its
word: there the prose decides whether the resource is missing. The two questions are
`is_not_found` and `is_transient`; `classify` makes a class of the answers.
-/
import Settle.RemoteFailure
import Settle.Text.Phrase

set_option autoImplicit false

namespace Settle.Cloud

/-- A failed call (`ApiError`). -/
structure ApiFailure where
  /-- The operation that failed. -/
  operation : String
  /-- The HTTP status. -/
  status : Option Nat := none
  /-- The error code. -/
  code : Option String := none
  text : String
  deriving DecidableEq

namespace ApiFailure

/-- HTTP statuses are below this. -/
def statusLimit : Nat := 65536

/-- The HTTP status of a missing resource. -/
def absentStatus : Nat := 404

/-- `http`: a failure with an HTTP status. -/
def http (operation : String) (status : Nat) (text : String) : ApiFailure :=
  { operation, status := some status, text }

/-- `coded`: a failure with an error code. -/
def coded (operation code text : String) : ApiFailure :=
  { operation, code := some code, text }

/-- `legacy`: a failure of an old endpoint, with nothing but prose. -/
def legacy (operation text : String) : ApiFailure := { operation, text }

/-- `not_found`: the failure of an operation on a resource that does not exist. -/
def missing (operation id : String) : ApiFailure :=
  http operation absentStatus (id ++ " not found")

/-- How a failed call reads. -/
def message (e : ApiFailure) : String := e.operation ++ " failed: " ++ e.text

/-- `TRANSIENT_CODES`: the error codes of a service that is unavailable for the moment. Only
creating and updating a cloud connection gives them. -/
def transientCodes : List String :=
  ["pcloudCloudconnectionsPostServiceUnavailable", "pcloudCloudconnectionsPutServiceUnavailable"]

/-- Whether an error code is that of a missing resource: such codes end alike. -/
def absentCode (code : String) : Bool := "NotFound".toList.isSuffixOf code.toList

/-- `has_structured_signal`: whether the failure has anything better than prose to go by. -/
def hasSignal (e : ApiFailure) : Bool := e.status.isSome || e.code.isSome

/-- `is_not_found` and `is_transient` of a failed call. The prose is looked at only without a
signal. -/
instance : RemoteFailure ApiFailure where
  isAbsent e :=
    e.status == some absentStatus || e.code.any absentCode
      || (!e.hasSignal && Text.reportsAbsence e.text)
  isTransient e := e.code.any (· ∈ transientCodes)
  message := message

end ApiFailure

end Settle.Cloud
