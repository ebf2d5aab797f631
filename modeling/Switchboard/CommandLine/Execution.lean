import Switchboard.CommandLine.Command
import Switchboard.EventLog
import Switchboard.Listing
import Switchboard.Receive
import Switchboard.TaskQueue
import Switchboard.Text.Blank

namespace Switchboard.CommandLine

structure Output where
  text : String
  exitCode : Nat := 0
  deriving DecidableEq, Repr

/-- What a command can see besides the store. -/
structure Surroundings where
  input : List UInt8 := []
  parentPid : Option Int := none
  others : Receive.Others := {}
  /-- How many polls without a limit are watched. -/
  patience : Nat := 0

def Surroundings.reopening (around : Surroundings) (reopen : Store → Store) : Surroundings :=
  { around with others := around.others.reopening reopen }

def isLineEnd (c : Char) : Bool := c == '\n' || c == '\r'

def bodyOfInput (bytes : List UInt8) : Except Failure String :=
  match Text.Utf8.decode bytes with
  | .ok cs => .ok (String.ofList (Text.dropEndWhile isLineEnd cs))
  | .error flaw => .error (.undecodableInput flaw)

/-- One JSON object or one line of text for each item. Without items, the text is `whenEmpty`. -/
def listing {α : Type} (json : Bool) (toJson : α → Json) (line : α → String) (whenEmpty : String)
    (items : List α) : String :=
  if json then Listing.jsonLines toJson items
  else if items.isEmpty then whenEmpty
  else Listing.lines line items

def timeoutText : String := "TIMEOUT"
def noAgentsText : String := "No agents registered"
def noTasksText : String := "NO_TASKS"
def noRunnableTasksText : String := "NO_RUNNABLE_TASKS"

/-- The limit of a wait in milliseconds. A limit of 0 seconds is none. -/
def recvLimit (seconds : Option Nat) : Option Nat := (seconds.filter (0 < ·)).map (· * 1000)

def recvOutput : Receive.Reception → Option Output
  | .delivered message => some { text := message.body }
  | .timedOut => some { text := timeoutText, exitCode := 1 }
  | .stillWaiting => none

/-- Do what a command says. There is no output yet if it is still waiting for a message. -/
def Command.execute (around : Surroundings) : Command → Operation (Option Output)
  | .init => do
    Operation.init
    pure (some { text := "initialized:" ++ (← read).path })
  | .send target sender body => do
    let body ← match body with
      | some body => pure body
      | none => (bodyOfInput around.input : Except Failure String)
    let id ← Mailbox.send target body sender
    pure (some { text := s!"sent:{target}:{id}" })
  | .recv name seconds => do
    pure (recvOutput (← Receive.receive around.others around.patience name (recvLimit seconds)))
  | .check name => do
    let count ← Mailbox.check name
    pure (some { text := toString count })
  | .drain name => do
    let messages ← Mailbox.drain name
    pure (some { text := Listing.bodies messages })
  | .register name pid => do
    let pid := pid.orElse fun _ => around.parentPid
    discard (Registry.register name pid)
    pure (some { text := "registered:" ++ name ++ ":" ++ pidText pid })
  | .unregister name => do
    discard (Registry.unregister name)
    pure (some { text := "unregistered:" ++ name })
  | .agents json => do
    let agents ← Registry.roster
    pure (some { text := listing json AgentRecord.toJson AgentRecord.line noAgentsText agents })
  | .cleanup name => do
    discard (Registry.cleanup name)
    pure (some { text := "cleaned:" ++ name.getD "all" })
  | .log kind tag body agent => do
    let id ← EventLog.log kind tag body agent
    pure (some { text := s!"logged:{id}:{kind}:{tag}" })
  | .tail kind since limit json => do
    let events ← EventLog.tail { kind, since, limit }
    pure (some { text := listing json Event.toJson Event.line "" events })
  | .query kind tag agent since limit json => do
    let events ← EventLog.query { kind := some kind, tag, agent, since, limit }
    pure (some { text := listing json Event.toJson Event.line "" events })
  | .submitTask task => do
    let id ← TaskQueue.submit task
    pure (some { text := s!"task:{id}" })
  | .claimTask dispatcher id => do
    TaskQueue.claim dispatcher id
    pure (some { text := s!"claimed:{id}" })
  | .completeTask id output => do
    TaskQueue.complete id output
    pure (some { text := s!"completed:{id}" })
  | .failTask id error => do
    TaskQueue.fail id error
    pure (some { text := s!"failed:{id}" })
  | .listTasks status taskType json => do
    let tasks ← TaskQueue.list status taskType
    pure (some { text := listing json Task.toJson Task.line noTasksText tasks })
  | .nextTask json => do
    let task ← TaskQueue.nextRunnable
    let shown := if json then fun t => t.toJson.write else Task.dispatchLine
    pure (some { text := (task.map shown).getD noRunnableTasksText })
  | .routeTask id agentFile model => do
    TaskQueue.route id agentFile model
    pure (some { text := s!"routed:{id}" })
  | .pipelineState state agent => do
    match state with
    | some state =>
      discard (EventLog.setPipelineState state agent)
      pure (some { text := "pipeline-state:" ++ state })
    | none => pure (some { text := ← EventLog.pipelineState })

end Switchboard.CommandLine
