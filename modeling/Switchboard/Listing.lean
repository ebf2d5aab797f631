import Switchboard.Agent
import Switchboard.Event
import Switchboard.Message
import Switchboard.Task

namespace Switchboard

def Event.line (e : Event) : String :=
  "|".intercalate [toString e.id, e.createdAt.write .millis, e.kind, e.tag, e.body, e.agent]

def pidText : Option Int → String
  | some pid => toString pid
  | none => "none"

def AgentRecord.line (a : AgentRecord) : String :=
  " | ".intercalate
    [a.name, "pid=" ++ pidText a.pid, "status=" ++ Vocabulary.word a.status,
     "pending=" ++ toString a.pending, "since=" ++ a.since.write .millis]

namespace Task

/-- `key=value`, or nothing for an absent value. -/
def cell (key : String) (value : Option String) : List String :=
  (value.map fun v => key ++ "=" ++ v).toList

def identityCells (t : Task) : List String :=
  ["id=" ++ toString t.id, "type=" ++ t.taskType, "by=" ++ t.submittedBy,
   "prio=" ++ Vocabulary.word t.priority]

def requestCells (t : Task) : List String :=
  cell "problem" t.problemId ++ cell "scope" t.concernScope ++ cell "payload" t.payloadPath ++
    cell "depends_on" (t.dependsOn.map toString)

def outcomeCells (t : Task) : List String :=
  cell "claimed_by" t.claimedBy ++ cell "agent_file" t.agentFile ++ cell "model" t.model ++
    cell "output" t.outputPath ++ cell "error" t.error

def line (t : Task) : String :=
  " | ".intercalate
    (t.identityCells ++ ["status=" ++ Vocabulary.word t.status] ++ t.requestCells ++ t.outcomeCells)

/-- The row of a task that is offered for dispatch. -/
def dispatchLine (t : Task) : String :=
  " | ".intercalate (t.identityCells ++ t.requestCells)

end Task

namespace Listing

def lines {α : Type} (line : α → String) (items : List α) : String :=
  "\n".intercalate (items.map line)

def jsonLines {α : Type} (toJson : α → Json) (items : List α) : String :=
  lines (fun item => (toJson item).write) items

/-- The bodies of drained messages, with a line of three dashes between them. -/
def bodies (messages : List Message) : String :=
  "\n---\n".intercalate (messages.map (·.body))

end Listing

end Switchboard
