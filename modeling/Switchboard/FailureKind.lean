import Switchboard.Text.Position

namespace Switchboard

inductive ProtocolCode where
  | notFound
  | invalid
  | conflict
  | busy
  | internal
  deriving DecidableEq, Repr

namespace ProtocolCode

def all : List ProtocolCode := [.notFound, .invalid, .conflict, .busy, .internal]

def text : ProtocolCode → String
  | .notFound => "NOTFOUND"
  | .invalid => "INVALID"
  | .conflict => "CONFLICT"
  | .busy => "BUSY"
  | .internal => "INTERNAL"

def advice : ProtocolCode → String × String
  | .notFound => ("Resource was not found", "List tasks and verify the identifier")
  | .invalid =>
    ("Invalid argument or configuration value",
     "Check priority/status spelling and COORD_* variables")
  | .conflict => ("Conflicting state transition", "Run list-tasks to inspect the current status")
  | .busy =>
    ("Database stayed locked past the retry budget",
     "Raise COORD_BUSY_TIMEOUT_MS or COORD_LOCK_RETRIES and retry")
  | .internal => ("Unexpected internal failure", "Inspect logs and retry command")

def ofText? (s : String) : Option ProtocolCode :=
  all.find? fun code => code.text == s

end ProtocolCode

inductive FailureKind where
  | database
  | busy
  | configuration
  | precondition
  | notFound
  | invalidValue
  | input
  | serialization
  | internal
  deriving DecidableEq, Repr

namespace FailureKind

def title : FailureKind → String
  | .database => "Database error"
  | .busy => "Database busy"
  | .configuration => "Configuration error"
  | .precondition => "Precondition failed"
  | .notFound => "Not found"
  | .invalidValue => "Invalid value"
  | .input => "IO error"
  | .serialization => "Serialization error"
  | .internal => "Internal error"

def code : FailureKind → ProtocolCode
  | .configuration | .invalidValue | .serialization => .invalid
  | .database | .input | .internal => .internal
  | .busy => .busy
  | .precondition => .conflict
  | .notFound => .notFound

/-- The exit code of a command that fails this way. A refused transition ends like a lost claim. -/
def exitCode : FailureKind → Nat
  | .precondition | .notFound => 1
  | .configuration | .invalidValue => 2
  | .database => 3
  | .busy => 4
  | .input => 7
  | .serialization => 8
  | .internal => 9

/-- What a failure of this kind shows of its detail. A text that could not be read as a document is
told with the position in it. -/
def shownDetail : FailureKind → String → String
  | .serialization, detail => Text.showPosition detail
  | _, detail => detail

def message (kind : FailureKind) (detail : String) : String :=
  kind.title ++ ": " ++ kind.shownDetail detail

end FailureKind

end Switchboard
