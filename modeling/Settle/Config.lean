/-
Configuration: `from_lookup`.

Timing that all waits of a caller share. It is read from named values, each of
which has a default; the first value that cannot be read is reported, in a fixed
order of names, and a default timeout of zero comes last of all.

Times are whole milliseconds of 64 bits, the number of retries has 32.
-/
import Settle.Policy
import Settle.Retry
import Settle.Text.Blank
import Settle.Text.Count

set_option autoImplicit false

namespace Settle

/-- The timing shared by all waits (`ConvergeConfig`). -/
structure Config where
  pollInterval : Nat := 10000
  minPollInterval : Nat := 10000
  jobPollInterval : Nat := 10000
  retries : Nat := 2
  retryDelay : Nat := 60000
  /-- The timeout of a wait whose caller gives none. -/
  defaultTimeout : Nat := 1800000
  deriving DecidableEq

namespace Config

/-- Times are below this many milliseconds. -/
def timeLimit : Nat := 18446744073709551616

/-- Numbers of retries are below this. -/
def retryLimit : Nat := 4294967296

/-- Why named values make no configuration. -/
inductive Defect where
  | unreadable (key : String) (cause : Text.CountDefect)
  | zeroTimeout
  deriving DecidableEq

/-- The names of the settings. -/
inductive Setting where
  | pollInterval
  | minPollInterval
  | jobPollInterval
  | retries
  | retryDelay
  | defaultTimeout
  deriving DecidableEq

/-- The name under which a setting is looked up. -/
def Setting.key : Setting → String
  | .pollInterval => "CONVERGE_POLL_INTERVAL_MS"
  | .minPollInterval => "CONVERGE_MIN_POLL_INTERVAL_MS"
  | .jobPollInterval => "CONVERGE_JOB_POLL_INTERVAL_MS"
  | .retries => "CONVERGE_TRANSIENT_RETRY_COUNT"
  | .retryDelay => "CONVERGE_TRANSIENT_RETRY_DELAY_MS"
  | .defaultTimeout => "CONVERGE_DEFAULT_TIMEOUT_MS"

/-- How a defect reads. -/
def Defect.message : Defect → String
  | .unreadable key cause => "invalid " ++ key ++ ": " ++ cause.message
  | .zeroTimeout => Setting.defaultTimeout.key ++ " must be greater than zero"

/-- A defect of any kind is an error of the configuration. -/
def Defect.error (d : Defect) : Error := .configuration d.message

/-- One setting from named values: a count below a limit, or the default if it is not there. -/
def readSetting (lookup : String → Option String) (setting : Setting) (limit default : Nat) :
    Except Defect Nat :=
  match lookup setting.key with
  | none => .ok default
  | some value =>
    (Text.count limit (Text.trimmed value.toList)).mapError (.unreadable setting.key)

/-- `from_lookup`: the configuration that named values give, or what is wrong with the first of them
that cannot be read. -/
def ofLookup (lookup : String → Option String) : Except Defect Config := do
  let defaults : Config := {}
  let retries ← readSetting lookup .retries retryLimit defaults.retries
  let pollInterval ← readSetting lookup .pollInterval timeLimit defaults.pollInterval
  let minPollInterval ← readSetting lookup .minPollInterval timeLimit defaults.minPollInterval
  let jobPollInterval ← readSetting lookup .jobPollInterval timeLimit defaults.jobPollInterval
  let retryDelay ← readSetting lookup .retryDelay timeLimit defaults.retryDelay
  let defaultTimeout ← readSetting lookup .defaultTimeout timeLimit defaults.defaultTimeout
  if defaultTimeout = 0 then throw .zeroTimeout
  return { pollInterval, minPollInterval, jobPollInterval, retries, retryDelay, defaultTimeout }

/-- `transient_retry`: how calls are repeated under a configuration. -/
def retry (c : Config) : Retry := ⟨c.retries, c.retryDelay⟩

/-- The timeout of a wait whose caller gives one or none. -/
def timeout (c : Config) (given : Option Nat) : Nat := given.getD c.defaultTimeout

/-- `policy`: one with the configured timing and no states yet. -/
def policy (c : Config) (timeout : Option Nat) : Policy :=
  { timeout := c.timeout timeout
    pollInterval := c.pollInterval
    minPollInterval := c.minPollInterval }

end Config

end Settle
