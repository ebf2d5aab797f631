import Switchboard.Agent
import Switchboard.FailureKind
import Switchboard.Store.EngineError
import Switchboard.Task
import Switchboard.Text.Utf8

namespace Switchboard

/-- What a statement was to achieve. -/
inductive Action where
  | openStore (path : String)
  | inspectSchema
  | createSchema
  | beginTransaction
  | commitTransaction
  | mintId
  | sendMessage
  | readMailbox
  | claimMessage
  | drainMailbox
  | countMessages
  | loadMailbox
  | recordStatus (status : AgentStatus) (name : String)
  | listAgentsToClean
  | listAgents
  | loadAgentStatus
  | writeEvent
  | readEvents
  | submitTask
  | updateTask (id : Int)
  | recordRouting
  | loadTask (id : Int)
  | listTasks
  | selectNextTask
  deriving DecidableEq, Repr

def Action.text : Action → String
  | .openStore path => "open " ++ path
  | .inspectSchema => "inspect schema"
  | .createSchema => "create schema"
  | .beginTransaction => "begin transaction"
  | .commitTransaction => "commit transaction"
  | .mintId => "mint id"
  | .sendMessage => "send message"
  | .readMailbox => "read mailbox"
  | .claimMessage => "claim message"
  | .drainMailbox => "drain mailbox"
  | .countMessages => "count messages"
  | .loadMailbox => "load mailbox"
  | .recordStatus status name => "record " ++ Vocabulary.word status ++ " for " ++ name
  | .listAgentsToClean => "list agents to clean"
  | .listAgents => "list agents"
  | .loadAgentStatus => "load agent status"
  | .writeEvent => "write event"
  | .readEvents => "read events"
  | .submitTask => "submit task"
  | .updateTask id => "update task " ++ toString id
  | .recordRouting => "record routing"
  | .loadTask id => "load task " ++ toString id
  | .listTasks => "list tasks"
  | .selectNextTask => "select next task"

inductive Failure where
  | statement (action : Action) (cause : EngineError)
  /-- The store stayed locked through every retry. -/
  | lockedOut (path : String) (retries : Nat) (cause : EngineError)
  | strayWord (refusal : String)
  /-- The newest registration that was asked for holds such a word. -/
  | strayStatus (refusal : String)
  | unknownTask (id : Int)
  | unknownDependency (id : Int)
  | wrongStatus (id : Int) (actual expected : TaskStatus)
  | blankPipelineState
  | badSetting (name value : String)
  | settingOutOfRange (name : String)
  | undecodableInput (flaw : Text.Utf8.Flaw)
  deriving DecidableEq, Repr

namespace Failure

def kind : Failure → FailureKind
  | .statement .. | .strayStatus _ => .database
  | .lockedOut .. => .busy
  | .strayWord _ => .internal
  | .unknownTask _ | .unknownDependency _ => .notFound
  | .wrongStatus .. => .precondition
  | .blankPipelineState => .invalidValue
  | .badSetting .. | .settingOutOfRange _ => .configuration
  | .undecodableInput _ => .input

def detail : Failure → String
  | .statement action cause => "Failed to " ++ action.text ++ ": " ++ cause.message
  | .lockedOut path retries cause =>
    path ++ " still locked after " ++ toString retries ++ " retries: " ++ cause.message
  | .strayWord refusal | .strayStatus refusal => refusal
  | .unknownTask id => s!"task {id} does not exist"
  | .unknownDependency id => s!"dependency task {id} does not exist"
  | .wrongStatus id actual expected =>
    "task " ++ toString id ++ " is " ++ Vocabulary.word actual ++ ", expected " ++
      Vocabulary.word expected
  | .blankPipelineState => "pipeline state must not be empty"
  | .badSetting name value => name ++ " must be a positive integer, got '" ++ value ++ "'"
  | .settingOutOfRange name => name ++ " is out of range"
  | .undecodableInput flaw => flaw.message

def message (failure : Failure) : String :=
  failure.kind.message failure.detail

end Failure

end Switchboard
