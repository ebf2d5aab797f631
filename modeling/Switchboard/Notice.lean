import Switchboard.Store.EngineError
import Switchboard.Task
import Switchboard.Text.Literal

namespace Switchboard

inductive Level where
  | debug
  | info
  | warn
  | error
  deriving DecidableEq, Repr

namespace Level

def rank : Level → Nat
  | .debug => 0
  | .info => 1
  | .warn => 2
  | .error => 3

def label : Level → String
  | .debug => "DEBUG"
  | .info => " INFO"
  | .warn => " WARN"
  | .error => "ERROR"

def ofName? : String → Option Level
  | "debug" => some .debug
  | "info" => some .info
  | "warn" => some .warn
  | "error" => some .error
  | _ => none

end Level

inductive Notice where
  | storeInitialized (path : String)
  | databaseBusy (attempt backoff : Nat)
  | rollbackFailed (cause : EngineError)
  | messageSent (id : Int) (mailbox : String)
  | messageClaimed (id : Int) (mailbox : String)
  | claimLost (id : Int) (mailbox : String)
  | mailboxDrained (count : Nat) (mailbox : String)
  | drainLost (mailbox : String)
  | receiveTimedOut (mailbox : String)
  | agentRegistered (agent : String) (pid : Option Int)
  | agentUnregistered (agent : String)
  | agentsCleaned (count : Nat)
  | eventLogged (id : Int) (kind tag : String)
  | taskSubmitted (id : Int) (taskType : String) (priority : Priority) (dependsOn : Option Int)
  | taskClaimed (id : Int) (dispatcher : String)
  | taskComplete (id : Int)
  | taskFailed (id : Int)
  deriving DecidableEq, Repr

namespace Notice

def level : Notice → Level
  | .databaseBusy .. => .warn
  | .rollbackFailed _ | .messageSent .. | .claimLost .. | .drainLost _ | .receiveTimedOut _
  | .eventLogged .. => .debug
  | _ => .info

def text : Notice → String
  | .storeInitialized _ => "coordination store initialized"
  | .databaseBusy .. => "database busy; retrying BEGIN IMMEDIATE"
  | .rollbackFailed cause => "rollback failed: " ++ cause.message
  | .messageSent .. => "message sent"
  | .messageClaimed .. => "message claimed"
  | .claimLost .. => "lost claim race; retrying"
  | .mailboxDrained .. => "mailbox drained"
  | .drainLost _ => "drain snapshot changed underneath; retrying"
  | .receiveTimedOut _ => "receive timed out"
  | .agentRegistered .. => "agent registered"
  | .agentUnregistered _ => "agent unregistered"
  | .agentsCleaned _ => "agents cleaned"
  | .eventLogged .. => "event logged"
  | .taskSubmitted .. => "task submitted"
  | .taskClaimed .. => "task claimed"
  | .taskComplete _ => "task complete"
  | .taskFailed _ => "task failed"

/-- A field that is present. Texts are quoted, numbers stand as they are. -/
def number (key : String) (n : Int) : List (String × String) := [(key, toString n)]

def optionalNumber (key : String) (n : Option Int) : List (String × String) :=
  (n.map fun n => (key, toString n)).toList

def quotedText (key s : String) : List (String × String) := [(key, Text.quoted s)]

def fields : Notice → List (String × String)
  | .storeInitialized path => [("path", path)]
  | .databaseBusy attempt backoff => number "attempt" attempt ++ number "backoff_ms" backoff
  | .rollbackFailed _ => []
  | .messageSent id mailbox | .messageClaimed id mailbox | .claimLost id mailbox =>
    number "id" id ++ quotedText "mailbox" mailbox
  | .mailboxDrained count mailbox => number "count" count ++ quotedText "mailbox" mailbox
  | .drainLost mailbox | .receiveTimedOut mailbox => quotedText "mailbox" mailbox
  | .agentRegistered agent pid => quotedText "agent" agent ++ optionalNumber "pid" pid
  | .agentUnregistered agent => quotedText "agent" agent
  | .agentsCleaned count => number "count" count
  | .eventLogged id kind tag =>
    number "id" id ++ quotedText "kind" kind ++ quotedText "tag" tag
  | .taskSubmitted id taskType priority dependsOn =>
    number "id" id ++ quotedText "task_type" taskType ++
      quotedText "priority" (Vocabulary.word priority) ++ optionalNumber "depends_on" dependsOn
  | .taskClaimed id dispatcher => number "id" id ++ quotedText "dispatcher" dispatcher
  | .taskComplete id | .taskFailed id => number "id" id

def line (notice : Notice) : String :=
  notice.level.label ++ " " ++ notice.text ++
    String.join (notice.fields.map fun (key, value) => " " ++ key ++ "=" ++ value)

def isOf (level : Level) (notice : Notice) : Bool :=
  level.rank ≤ notice.level.rank

end Notice

end Switchboard
