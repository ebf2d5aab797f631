import Switchboard.Agent
import Switchboard.Event
import Switchboard.Message
import Switchboard.Store.Record
import Switchboard.Task

namespace Switchboard

structure Registration where
  id : Int
  createdAt : Timestamp
  name : String
  pid : Option Int
  status : AgentStatus
  deriving DecidableEq

instance : Row Message := ⟨(·.id)⟩

instance : Row Event := ⟨(·.id)⟩

instance : Row Registration := ⟨(·.id)⟩

instance : Row Task := ⟨(·.id)⟩

def Message.columns : List (Column Message) :=
  [.time "created_at" (·.createdAt) fun createdAt m => { m with createdAt },
   .optionalText "sender" (·.sender) fun sender m => { m with sender },
   .text "target" (·.target) fun target m => { m with target },
   .text "body" (·.body) fun body m => { m with body },
   .flag "claimed" (·.claimed) fun claimed m => { m with claimed },
   .optionalText "claimed_by" (·.claimedBy) fun claimedBy m => { m with claimedBy },
   .optionalTime "claimed_at" (·.claimedAt) fun claimedAt m => { m with claimedAt }]

def Event.columns : List (Column Event) :=
  [.time "created_at" (·.createdAt) fun createdAt e => { e with createdAt },
   .text "kind" (·.kind) fun kind e => { e with kind },
   .text "tag" (·.tag) fun tag e => { e with tag },
   .text "body" (·.body) fun body e => { e with body },
   .text "agent" (·.agent) fun agent e => { e with agent }]

namespace Registration

def createdAtColumn : Column Registration :=
  .time "created_at" (·.createdAt) fun createdAt r => { r with createdAt }

def nameColumn : Column Registration := .text "name" (·.name) fun name r => { r with name }

def pidColumn : Column Registration := .optionalInt "pid" (·.pid) fun pid r => { r with pid }

def statusColumn : Column Registration :=
  .word "status" (·.status) fun status r => { r with status }

def columns : List (Column Registration) :=
  [createdAtColumn, nameColumn, pidColumn, statusColumn]

def listed : List (Column Registration) := [nameColumn, pidColumn, statusColumn, createdAtColumn]

end Registration

def Task.columns : List (Column Task) :=
  [.text "submitted_by" (·.submittedBy) fun submittedBy t => { t with submittedBy },
   .text "task_type" (·.taskType) fun taskType t => { t with taskType },
   .optionalText "problem_id" (·.problemId) fun problemId t => { t with problemId },
   .optionalText "concern_scope" (·.concernScope) fun concernScope t => { t with concernScope },
   .optionalText "payload_path" (·.payloadPath) fun payloadPath t => { t with payloadPath },
   .word "priority" (·.priority) fun priority t => { t with priority },
   .optionalInt "depends_on" (·.dependsOn) fun dependsOn t => { t with dependsOn },
   .word "status" (·.status) fun status t => { t with status },
   .optionalText "claimed_by" (·.claimedBy) fun claimedBy t => { t with claimedBy },
   .optionalText "agent_file" (·.agentFile) fun agentFile t => { t with agentFile },
   .optionalText "model" (·.model) fun model t => { t with model },
   .optionalText "output_path" (·.outputPath) fun outputPath t => { t with outputPath },
   .time "created_at" (·.createdAt) fun createdAt t => { t with createdAt },
   .optionalTime "claimed_at" (·.claimedAt) fun claimedAt t => { t with claimedAt },
   .optionalTime "completed_at" (·.completedAt) fun completedAt t => { t with completedAt },
   .optionalText "error" (·.error) fun error t => { t with error }]

namespace Entry

/-- The text of a stray cell. Columns of texts hold no other stray cells. -/
def strayText? {α : Type} (column : String) (e : Entry α) : Option String :=
  match e.stray? column with
  | some (.text s) => some s
  | some _ => some ""
  | none => none

/-- Nobody has claimed the message. A stray cell never says so. -/
def isUnclaimed (e : Entry Message) : Bool :=
  (e.stray? "claimed").isNone && !e.record.claimed

def waitsFor (name : String) (e : Entry Message) : Bool :=
  (e.stray? "claimed").isNone && e.record.waitsFor name

def isCleaned (e : Entry Registration) : Bool :=
  (e.stray? "status").isNone && e.record.status == .cleaned

def hasStatus (status : TaskStatus) (e : Entry Task) : Bool :=
  (e.stray? "status").isNone && e.record.status == status

/-- The place in the order of dispatch. A priority that is none of the words comes with the last. -/
def rank (e : Entry Task) : Nat :=
  if (e.stray? "priority").isSome then Priority.low.rank else e.record.priority.rank

end Entry

end Switchboard
