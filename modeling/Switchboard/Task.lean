import Switchboard.Message
import Switchboard.Vocabulary

namespace Switchboard

inductive TaskStatus where
  | pending
  | running
  | complete
  | failed
  deriving DecidableEq, Repr

instance : Vocabulary TaskStatus where
  all := [.pending, .running, .complete, .failed]
  word
    | .pending => "pending"
    | .running => "running"
    | .complete => "complete"
    | .failed => "failed"
  refusal s := "Unknown task status: " ++ s

inductive Priority where
  | high
  | normal
  | low
  deriving DecidableEq, Repr, Inhabited

instance : Vocabulary Priority where
  all := [.high, .normal, .low]
  word
    | .high => "high"
    | .normal => "normal"
    | .low => "low"
  refusal s := "Unknown task priority: " ++ s ++ " (expected high, normal or low)"

def Priority.rank : Priority → Nat
  | .high => 0
  | .normal => 1
  | .low => 2

/-- What a submitter says about a task. -/
structure NewTask where
  submittedBy : String
  taskType : String
  problemId : Option String := none
  concernScope : Option String := none
  payloadPath : Option String := none
  priority : Priority := .normal
  dependsOn : Option Int := none
  deriving DecidableEq, Repr

namespace NewTask

def withPriority (task : NewTask) (priority : Priority) : NewTask := { task with priority }

def dependingOn (task : NewTask) (id : Int) : NewTask := { task with dependsOn := some id }

end NewTask

structure Task where
  id : Int
  submittedBy : String
  taskType : String
  problemId : Option String
  concernScope : Option String
  payloadPath : Option String
  priority : Priority
  dependsOn : Option Int
  status : TaskStatus
  claimedBy : Option String
  agentFile : Option String
  model : Option String
  outputPath : Option String
  createdAt : Timestamp
  claimedAt : Option Timestamp
  completedAt : Option Timestamp
  error : Option String
  deriving DecidableEq

namespace Task

def queued (id : Int) (now : Timestamp) (new : NewTask) : Task :=
  { id
    submittedBy := new.submittedBy
    taskType := new.taskType
    problemId := new.problemId
    concernScope := new.concernScope
    payloadPath := new.payloadPath
    priority := new.priority
    dependsOn := new.dependsOn
    status := .pending
    claimedBy := none
    agentFile := none
    model := none
    outputPath := none
    createdAt := now
    claimedAt := none
    completedAt := none
    error := none }

def claimFor (dispatcher : String) (now : Timestamp) (t : Task) : Task :=
  { t with status := .running, claimedBy := some dispatcher, claimedAt := some now }

def completeWith (output : Option String) (now : Timestamp) (t : Task) : Task :=
  { t with status := .complete, outputPath := output, completedAt := some now }

def failWith (error : Option String) (now : Timestamp) (t : Task) : Task :=
  { t with status := .failed, error, completedAt := some now }

def routeTo (agentFile model : String) (t : Task) : Task :=
  { t with agentFile := some agentFile, model := some model }

def toJson (t : Task) : Json :=
  .object
    [("id", .int t.id),
     ("submitted_by", .text t.submittedBy),
     ("task_type", .text t.taskType),
     ("problem_id", .optionalText t.problemId),
     ("concern_scope", .optionalText t.concernScope),
     ("payload_path", .optionalText t.payloadPath),
     ("priority", Vocabulary.toJson t.priority),
     ("depends_on", .optionalInt t.dependsOn),
     ("status", Vocabulary.toJson t.status),
     ("claimed_by", .optionalText t.claimedBy),
     ("agent_file", .optionalText t.agentFile),
     ("model", .optionalText t.model),
     ("output_path", .optionalText t.outputPath),
     ("created_at", t.createdAt.toJson),
     ("claimed_at", (t.claimedAt.map Timestamp.toJson).getD .null),
     ("completed_at", (t.completedAt.map Timestamp.toJson).getD .null),
     ("error", .optionalText t.error)]

def ofJson? (json : Json) : Option Task := do
  let members ← json.record?
    ["id", "submitted_by", "task_type", "problem_id", "concern_scope", "payload_path", "priority",
     "depends_on", "status", "claimed_by", "agent_file", "model", "output_path", "created_at",
     "claimed_at", "completed_at", "error"]
  some
    { id := ← required? Json.int64? members "id"
      submittedBy := ← required? Json.text? members "submitted_by"
      taskType := ← required? Json.text? members "task_type"
      problemId := ← optional? Json.text? members "problem_id"
      concernScope := ← optional? Json.text? members "concern_scope"
      payloadPath := ← optional? Json.text? members "payload_path"
      priority := ← required? Vocabulary.ofJson? members "priority"
      dependsOn := ← optional? Json.int64? members "depends_on"
      status := ← required? Vocabulary.ofJson? members "status"
      claimedBy := ← optional? Json.text? members "claimed_by"
      agentFile := ← optional? Json.text? members "agent_file"
      model := ← optional? Json.text? members "model"
      outputPath := ← optional? Json.text? members "output_path"
      createdAt := ← required? Timestamp.ofJson? members "created_at"
      claimedAt := ← optional? Timestamp.ofJson? members "claimed_at"
      completedAt := ← optional? Timestamp.ofJson? members "completed_at"
      error := ← optional? Json.text? members "error" }

end Task

end Switchboard
