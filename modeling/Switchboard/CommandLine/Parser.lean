import Switchboard.CommandLine.Arguments
import Switchboard.CommandLine.Command
import Switchboard.Text.EditDistance

namespace Switchboard.CommandLine

def Subcommand.flags : Subcommand → FlagSpec
  | .send => { values := ["from"] }
  | .agents | .nextTask => { switches := ["json"] }
  | .log | .pipelineState => { values := ["agent"] }
  | .tail => { values := ["since", "limit"], switches := ["json"] }
  | .query => { values := ["tag", "agent", "since", "limit"], switches := ["json"] }
  | .submitTask => { values := ["problem", "scope", "payload", "priority", "depends-on"] }
  | .completeTask => { values := ["output"] }
  | .failTask => { values := ["error"] }
  | .listTasks => { values := ["status", "type"], switches := ["json"] }
  | _ => {}

namespace Take

def message : Take (Option String) := do
  match ← rest with
  | [] => pure none
  | words => pure (some (" ".intercalate words))

def newTask : Take NewTask := do
  let submittedBy ← required "submitted_by"
  let taskType ← required "task_type"
  let priority ← valueAs "priority" Vocabulary.read
  let dependsOn ← valueAs "depends-on" int64
  pure
    { submittedBy, taskType
      problemId := ← value "problem"
      concernScope := ← value "scope"
      payloadPath := ← value "payload"
      priority := priority.getD .normal
      dependsOn }

def command : Subcommand → Take Command
  | .init => pure .init
  | .send => do pure (.send (← required "target") (← value "from") (← message))
  | .recv => do pure (.recv (← required "name") (← optionalAs "timeout_seconds" nat64))
  | .check => do pure (.check (← required "name"))
  | .drain => do pure (.drain (← required "name"))
  | .register => do pure (.register (← required "name") (← optionalAs "pid" int64))
  | .unregister => do pure (.unregister (← required "name"))
  | .agents => do pure (.agents (← switch "json"))
  | .cleanup => do pure (.cleanup (← optional))
  | .log => do
    let kind ← required "kind"
    let tag ← optional
    let body ← optional
    let agent ← value "agent"
    pure (.log kind (tag.getD "") (body.getD "") (agent.getD ""))
  | .tail => do
    let kind ← optional
    let since ← valueAs "since" int64
    let limit ← valueAs "limit" positive
    pure (.tail kind since limit (← switch "json"))
  | .query => do
    let kind ← required "kind"
    let since ← valueAs "since" int64
    let limit ← valueAs "limit" positive
    pure (.query kind (← value "tag") (← value "agent") since limit (← switch "json"))
  | .submitTask => do pure (.submitTask (← newTask))
  | .claimTask => do pure (.claimTask (← required "dispatcher") (← requiredAs "task_id" int64))
  | .completeTask => do pure (.completeTask (← requiredAs "task_id" int64) (← value "output"))
  | .failTask => do pure (.failTask (← requiredAs "task_id" int64) (← value "error"))
  | .listTasks => do
    let status ← valueAs "status" Vocabulary.read
    pure (.listTasks status (← value "type") (← switch "json"))
  | .nextTask => do pure (.nextTask (← switch "json"))
  | .routeTask => do
    let id ← requiredAs "task_id" int64
    let agentFile ← required "agent_file"
    pure (.routeTask id agentFile (← required "model"))
  | .pipelineState => do
    let state ← optional
    pure (.pipelineState state ((← value "agent").getD ""))

def request (sub : Subcommand) : Take Request := do
  let store ← required "db"
  let command ← command sub
  finish (Vocabulary.word sub)
  pure { store, command }

end Take

def Subcommand.parse (sub : Subcommand) (words : List String) : Except UsageError Request := do
  let args ← Arguments.split (Vocabulary.word sub) sub.flags words
  (Take.request sub).run' args

/-- Read the words of a command line. Help asked for in the second place is given whatever the first
word is. -/
def Order.parse (words : List String) : Except UsageError Order :=
  match words with
  | [] => .error (.missing "command")
  | first :: rest =>
    if rest.head? = some "-h" ∨ rest.head? = some "--help" then .ok .help
    else if first ∈ ["-h", "--help", "help"] then .ok .help
    else if first ∈ ["-V", "-v", "--version"] then .ok .version
    else
      match Vocabulary.ofWord? first with
      | some (sub : Subcommand) => (sub.parse rest).map .run
      | none => .error (.unknownCommand first)

def maxEdits : Nat := 3

def nearer (a b : Subcommand × Nat) : Subcommand × Nat :=
  if b.2 < a.2 then b else a

/-- The subcommand nearest to a text, the first listed of several, unless all are too far. -/
def suggest (text : String) : Option Subcommand :=
  let candidates := (Vocabulary.all : List Subcommand).map fun sub =>
    (sub, Text.editDistance text.toList (Vocabulary.word sub).toList)
  match candidates.filter (·.2 ≤ maxEdits) with
  | [] => none
  | c :: cs => some (cs.foldl nearer c).1

end Switchboard.CommandLine
