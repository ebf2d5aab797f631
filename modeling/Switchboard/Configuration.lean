import Switchboard.Failure
import Switchboard.Text.Blank
import Switchboard.Text.Numeral

namespace Switchboard

structure Configuration where
  /-- How long the engine itself waits for a locked store. -/
  busyTimeout : Nat
  pollInterval : Nat
  lockRetries : Nat
  /-- The pause before the first of these retries. -/
  retryBackoff : Nat
  deriving DecidableEq, Repr

namespace Configuration

def standard : Configuration :=
  { busyTimeout := 5000, pollInterval := 500, lockRetries := 5, retryBackoff := 50 }

def busyTimeoutName : String := "COORD_BUSY_TIMEOUT_MS"
def pollIntervalName : String := "COORD_POLL_INTERVAL_MS"
def lockRetriesName : String := "COORD_LOCK_RETRIES"
def retryBackoffName : String := "COORD_RETRY_BACKOFF_MS"

def maxLockRetries : Nat := 4294967295

/-- A setting that is absent or blank has its standard value; any other text has to denote a
positive number. -/
def positive (lookup : String → Option String) (name : String) (standard : Nat) :
    Except Failure Nat :=
  let value := Text.trim ((lookup name).getD "").toList
  if value.isEmpty then .ok standard
  else
    match Text.readNat64 value with
    | .ok n => if 0 < n then .ok n else .error (.badSetting name (String.ofList value))
    | .error _ => .error (.badSetting name (String.ofList value))

/-- The configuration that named texts describe. The first bad one is reported; that there are too
many retries is reported only when none is bad. -/
def ofLookup (lookup : String → Option String) : Except Failure Configuration := do
  let busyTimeout ← positive lookup busyTimeoutName standard.busyTimeout
  let pollInterval ← positive lookup pollIntervalName standard.pollInterval
  let lockRetries ← positive lookup lockRetriesName standard.lockRetries
  let retryBackoff ← positive lookup retryBackoffName standard.retryBackoff
  if lockRetries ≤ maxLockRetries then
    .ok { busyTimeout, pollInterval, lockRetries, retryBackoff }
  else .error (.settingOutOfRange lockRetriesName)

end Configuration

end Switchboard
