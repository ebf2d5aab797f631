import Switchboard.Task

namespace Switchboard.CommandLine

inductive Subcommand where
  | init
  | send
  | recv
  | check
  | drain
  | register
  | unregister
  | agents
  | cleanup
  | log
  | tail
  | query
  | submitTask
  | claimTask
  | completeTask
  | failTask
  | listTasks
  | nextTask
  | routeTask
  | pipelineState
  deriving DecidableEq, Repr

instance : Vocabulary Subcommand where
  all :=
    [.init, .send, .recv, .check, .drain, .register, .unregister, .agents, .cleanup, .log, .tail,
     .query, .submitTask, .claimTask, .completeTask, .failTask, .listTasks, .nextTask, .routeTask,
     .pipelineState]
  word
    | .init => "init"
    | .send => "send"
    | .recv => "recv"
    | .check => "check"
    | .drain => "drain"
    | .register => "register"
    | .unregister => "unregister"
    | .agents => "agents"
    | .cleanup => "cleanup"
    | .log => "log"
    | .tail => "tail"
    | .query => "query"
    | .submitTask => "submit-task"
    | .claimTask => "claim-task"
    | .completeTask => "complete-task"
    | .failTask => "fail-task"
    | .listTasks => "list-tasks"
    | .nextTask => "next-task"
    | .routeTask => "route-task"
    | .pipelineState => "pipeline-state"
  refusal s := "Unknown command: " ++ s

inductive Command where
  | init
  /-- Without a body, the message is read from the input. -/
  | send (target : String) (sender body : Option String)
  /-- Without a limit, or with a limit of 0 seconds, the receiver waits for ever. -/
  | recv (name : String) (seconds : Option Nat)
  | check (name : String)
  | drain (name : String)
  | register (name : String) (pid : Option Int)
  | unregister (name : String)
  | agents (json : Bool)
  | cleanup (name : Option String)
  | log (kind tag body agent : String)
  | tail (kind : Option String) (since limit : Option Int) (json : Bool)
  | query (kind : String) (tag agent : Option String) (since limit : Option Int) (json : Bool)
  | submitTask (task : NewTask)
  | claimTask (dispatcher : String) (id : Int)
  | completeTask (id : Int) (output : Option String)
  | failTask (id : Int) (error : Option String)
  | listTasks (status : Option TaskStatus) (taskType : Option String) (json : Bool)
  | nextTask (json : Bool)
  | routeTask (id : Int) (agentFile model : String)
  | pipelineState (state : Option String) (agent : String)
  deriving DecidableEq, Repr

def Command.subcommand : Command → Subcommand
  | .init => .init
  | .send .. => .send
  | .recv .. => .recv
  | .check .. => .check
  | .drain .. => .drain
  | .register .. => .register
  | .unregister .. => .unregister
  | .agents .. => .agents
  | .cleanup .. => .cleanup
  | .log .. => .log
  | .tail .. => .tail
  | .query .. => .query
  | .submitTask .. => .submitTask
  | .claimTask .. => .claimTask
  | .completeTask .. => .completeTask
  | .failTask .. => .failTask
  | .listTasks .. => .listTasks
  | .nextTask .. => .nextTask
  | .routeTask .. => .routeTask
  | .pipelineState .. => .pipelineState

/-- A command and the path of the store it goes to. -/
structure Request where
  store : String
  command : Command
  deriving DecidableEq, Repr

inductive Order where
  | help
  | version
  | run (request : Request)
  deriving DecidableEq, Repr

end Switchboard.CommandLine
