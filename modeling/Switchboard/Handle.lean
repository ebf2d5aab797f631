import Switchboard.Operation

namespace Switchboard

structure Handle where
  path : String
  config : Configuration
  ready : Bool := false
  deriving DecidableEq, Repr

namespace Handle

def perform {α : Type} (handle : Handle) (op : Operation α) (now : Timestamp) (store : Store) :
    Except Failure α × Run :=
  op.perform { path := handle.path, config := handle.config, now } { store, ready := handle.ready }

/-- The handle as an operation leaves it. -/
def after (handle : Handle) (run : Run) : Handle :=
  { handle with ready := run.ready }

def duration (milliseconds : Nat) : String :=
  if milliseconds < 1000 then s!"{milliseconds}ms"
  else
    let places := Text.dropEndWhile (· == '0') (Text.padded 3 (milliseconds % 1000)).toList
    let fraction := if places.isEmpty then "" else "." ++ String.ofList places
    s!"{milliseconds / 1000}{fraction}s"

def describe (handle : Handle) : String :=
  let config := handle.config
  let fields :=
    ["busy_timeout: " ++ duration config.busyTimeout,
     "poll_interval: " ++ duration config.pollInterval,
     "lock_retries: " ++ toString config.lockRetries,
     "retry_backoff: " ++ duration config.retryBackoff]
  "CoordDb \x7b path: " ++ Text.quoted handle.path ++ ", config: CoordConfig \x7b " ++
    ", ".intercalate fields ++ " \x7d, .. \x7d"

end Handle

end Switchboard
