import Switchboard.CommandLine.Execution
import Switchboard.Proofs.Reception

namespace Switchboard

def Reply.exitCode : Reply → Nat
  | .reception .timedOut => 1
  | _ => 0

namespace CommandLine

open Operation

namespace Command

/-- What a command asks of the store, if a message that it has to read can be read. -/
def errand (around : Surroundings) : Command → Except Failure Errand
  | .init => .ok (.call .init)
  | .send target sender (some body) => .ok (.call (.send target body sender))
  | .send target sender none =>
    (bodyOfInput around.input).map fun body => .call (.send target body sender)
  | .recv name seconds => .ok (.receive name (recvLimit seconds))
  | .check name => .ok (.call (.check name))
  | .drain name => .ok (.call (.drain name))
  | .register name pid => .ok (.call (.register name (pid.orElse fun _ => around.parentPid)))
  | .unregister name => .ok (.call (.unregister name))
  | .agents _ => .ok (.call .roster)
  | .cleanup name => .ok (.call (.cleanup name))
  | .log kind tag body agent => .ok (.call (.log kind tag body agent))
  | .tail kind since limit _ => .ok (.call (.tail { kind, since, limit }))
  | .query kind tag agent since limit _ =>
    .ok (.call (.query { kind := some kind, tag, agent, since, limit }))
  | .submitTask task => .ok (.call (.submit task))
  | .claimTask dispatcher id => .ok (.call (.claim dispatcher id))
  | .completeTask id output => .ok (.call (.complete id output))
  | .failTask id error => .ok (.call (.fail id error))
  | .listTasks status taskType _ => .ok (.call (.list status taskType))
  | .nextTask _ => .ok (.call .nextRunnable)
  | .routeTask id agentFile model => .ok (.call (.route id agentFile model))
  | .pipelineState (some state) agent => .ok (.call (.setPipelineState state agent))
  | .pipelineState none _ => .ok (.call .pipelineState)

/-- What is printed of a reply, without the end of the last line. -/
def rendering (path : String) (parentPid : Option Int) : Command → Reply → String
  | .init, _ => "initialized:" ++ path
  | .send target _ _, .answer (.id id) => s!"sent:{target}:{id}"
  | .recv _ _, .reception (.delivered message) => message.body
  | .recv _ _, .reception .timedOut => timeoutText
  | .check _, .answer (.count count) => toString count
  | .drain _, .answer (.messages messages) => Listing.bodies messages
  | .register name pid, _ =>
    "registered:" ++ name ++ ":" ++ pidText (pid.orElse fun _ => parentPid)
  | .unregister name, _ => "unregistered:" ++ name
  | .agents json, .answer (.roster records) =>
    listing json AgentRecord.toJson AgentRecord.line noAgentsText records
  | .cleanup name, _ => "cleaned:" ++ name.getD "all"
  | .log kind tag _ _, .answer (.id id) => s!"logged:{id}:{kind}:{tag}"
  | .tail _ _ _ json, .answer (.events events)
  | .query _ _ _ _ _ json, .answer (.events events) =>
    listing json Event.toJson Event.line "" events
  | .submitTask _, .answer (.id id) => s!"task:{id}"
  | .claimTask _ id, _ => s!"claimed:{id}"
  | .completeTask id _, _ => s!"completed:{id}"
  | .failTask id _, _ => s!"failed:{id}"
  | .listTasks _ _ json, .answer (.tasks tasks) =>
    listing json Task.toJson Task.line noTasksText tasks
  | .nextTask json, .answer (.task task) =>
    (task.map (if json then fun t => t.toJson.write else Task.dispatchLine)).getD
      noRunnableTasksText
  | .routeTask id _ _, _ => s!"routed:{id}"
  | .pipelineState (some state) _, _ => "pipeline-state:" ++ state
  | .pipelineState none _, .answer (.text text) => text
  | _, _ => ""

/-- What a command comes to after a reply. There is nothing yet while it waits. -/
def output (path : String) (parentPid : Option Int) (command : Command) : Reply → Option Output
  | .reception .stillWaiting => none
  | reply =>
    some { text := command.rendering path parentPid reply, exitCode := reply.exitCode }

end Command

section Execution

variable {α : Type} {context : Context} {run : Run} {shown : Reply → Option Output}

theorem perform_printed (op : Operation α) (f : α → Answer) (next : α → Operation (Option Output))
    (h : ∀ a left, perform (next a) context left = (.ok (shown (.answer (f a))), left)) :
    perform (op >>= next) context run =
      ((perform (Reply.answer <$> f <$> op) context run).1.map shown,
        (perform (Reply.answer <$> f <$> op) context run).2) := by
  rw [perform_bind, perform_map, perform_map]
  obtain ⟨failure | a, left⟩ := perform op context run
  · rfl
  · exact h a left

theorem perform_done (op : Operation α) (f : α → Answer) (output : Option Output)
    (h : ∀ a, shown (.answer (f a)) = output) :
    perform (discard op >>= fun _ => pure output) context run =
      ((perform (Reply.answer <$> f <$> op) context run).1.map shown,
        (perform (Reply.answer <$> f <$> op) context run).2) := by
  rw [perform_bind, perform_discard, perform_map, perform_map]
  obtain ⟨failure | a, left⟩ := perform op context run
  · rfl
  · simp [Except.map, h]

variable (around : Surroundings)

theorem perform_execute (command : Command) :
    perform (command.execute around) context run =
      match command.errand around with
      | .error failure => (.error failure, run)
      | .ok errand =>
        let done := perform (errand.operation around.others around.patience) context run
        (done.1.map (command.output context.path around.parentPid), done.2) := by
  cases command with
  | send target sender body =>
    cases body with
    | some body => exact perform_printed (Mailbox.send target body sender) _ _ fun _ _ => rfl
    | none =>
      rw [Command.errand]
      change perform (liftM (bodyOfInput around.input) >>= _) context run = _
      rw [perform_bind, perform_liftM]
      cases bodyOfInput around.input with
      | error failure => rfl
      | ok body => exact perform_printed (Mailbox.send target body sender) _ _ fun _ _ => rfl
  | recv name seconds =>
    change perform (Receive.receive _ _ _ _ >>= _) context run =
      ((perform (Reply.reception <$> Receive.receive _ _ _ _) context run).1.map _,
        (perform (Reply.reception <$> Receive.receive _ _ _ _) context run).2)
    rw [perform_bind, perform_map]
    obtain ⟨failure | reception, left⟩ :=
      perform (Receive.receive around.others around.patience name (recvLimit seconds)) context run
    · rfl
    · cases reception <;> rfl
  | register name pid => exact perform_done _ _ _ fun _ => rfl
  | unregister name => exact perform_done _ _ _ fun _ => rfl
  | cleanup name => exact perform_done _ _ _ fun _ => rfl
  | pipelineState state agent =>
    cases state with
    | some state => exact perform_done _ _ _ fun _ => rfl
    | none => exact perform_printed _ _ _ fun _ _ => rfl
  | _ => exact perform_printed _ _ _ fun _ _ => rfl

end Execution

end CommandLine

end Switchboard
