import Switchboard.EventLog
import Switchboard.Mailbox
import Switchboard.Registry
import Switchboard.TaskQueue

namespace Switchboard

inductive Answer where
  | done
  | id (id : Int)
  | count (count : Int)
  | message (message : Option Message)
  | messages (messages : List Message)
  | names (names : List String)
  | roster (agents : List AgentRecord)
  | status (status : Option AgentStatus)
  | event (event : Option Event)
  | events (events : List Event)
  | text (text : String)
  | task (task : Option Task)
  | tasks (tasks : List Task)
  deriving DecidableEq

inductive Call where
  | connect
  | init
  | send (target body : String) (sender : Option String)
  | tryReceive (name : String)
  | drain (name : String)
  | check (name : String)
  | history (name : String)
  | register (name : String) (pid : Option Int)
  | recordStatus (name : String) (status : AgentStatus)
  | unregister (name : String)
  | cleanup (name : Option String)
  | roster
  | status (name : String)
  | log (kind tag body agent : String)
  | setPipelineState (state agent : String)
  | tail (filter : EventFilter)
  | query (filter : EventFilter)
  | latest (filter : EventFilter)
  | pipelineState
  | submit (new : NewTask)
  | claim (dispatcher : String) (id : Int)
  | complete (id : Int) (output : Option String)
  | fail (id : Int) (error : Option String)
  | route (id : Int) (agentFile model : String)
  | find (id : Int)
  | list (status : Option TaskStatus) (taskType : Option String)
  | nextRunnable

instance decidableEqExcept {ε α : Type} [DecidableEq ε] [DecidableEq α] :
    DecidableEq (Except ε α)
  | .ok a, .ok b => decidable_of_iff (a = b) (by simp)
  | .error e, .error e' => decidable_of_iff (e = e') (by simp)
  | .ok _, .error _ => isFalse nofun
  | .error _, .ok _ => isFalse nofun

namespace Call

def operation : Call → Operation Answer
  | connect => (fun _ => .done) <$> Operation.connect
  | init => (fun _ => .done) <$> Operation.init
  | send target body sender => .id <$> Mailbox.send target body sender
  | tryReceive name => .message <$> Mailbox.tryReceive name
  | drain name => .messages <$> Mailbox.drain name
  | check name => .count <$> Mailbox.check name
  | history name => .messages <$> Mailbox.history name
  | register name pid => .id <$> Registry.register name pid
  | recordStatus name newest => .id <$> Registry.recordStatus name newest
  | unregister name => .id <$> Registry.unregister name
  | cleanup name => .names <$> Registry.cleanup name
  | roster => .roster <$> Registry.roster
  | status name => .status <$> Registry.status name
  | log kind tag body agent => .id <$> EventLog.log kind tag body agent
  | setPipelineState state agent => .id <$> EventLog.setPipelineState state agent
  | tail filter => .events <$> EventLog.tail filter
  | query filter => .events <$> EventLog.query filter
  | latest filter => .event <$> EventLog.latest filter
  | pipelineState => .text <$> EventLog.pipelineState
  | submit new => .id <$> TaskQueue.submit new
  | claim dispatcher id => (fun _ => .done) <$> TaskQueue.claim dispatcher id
  | complete id output => (fun _ => .done) <$> TaskQueue.complete id output
  | fail id error => (fun _ => .done) <$> TaskQueue.fail id error
  | route id agentFile model => (fun _ => .done) <$> TaskQueue.route id agentFile model
  | find id => .task <$> TaskQueue.find id
  | list wanted taskType => .tasks <$> TaskQueue.list wanted taskType
  | nextRunnable => .task <$> TaskQueue.nextRunnable

end Call

structure Attempt where
  call : Call
  context : Context
  /-- What the call starts from, except for the store, which it finds as others have left it. -/
  run : Run

namespace Attempt

def atEpoch (call : Call) (faults : List (Option EngineError)) : Attempt where
  call
  context := { path := "coord.db", config := .standard, now := .epoch }
  run := { store := {}, faults }

def perform (attempt : Attempt) (store : Store) : Except Failure Answer × Run :=
  Operation.perform attempt.call.operation attempt.context { attempt.run with store }

def answer (attempt : Attempt) (store : Store) : Except Failure Answer :=
  (attempt.perform store).1

def after (attempt : Attempt) (store : Store) : Store :=
  (attempt.perform store).2.store

section Outcome

variable {attempt : Attempt} {store : Store} {answer : Except Failure Answer} {left : Run}

theorem answer_of_perform (h : attempt.perform store = (answer, left)) :
    attempt.answer store = answer := by
  rw [Attempt.answer, h]

theorem after_of_perform (h : attempt.perform store = (answer, left)) :
    attempt.after store = left.store := by
  rw [after, h]

end Outcome

end Attempt

structure Client where
  context : Context
  /-- What the call starts from, except for the store. -/
  run : Run

namespace Client

def attempt (client : Client) (call : Call) : Attempt := ⟨call, client.context, client.run⟩

/-- A client at the epoch with a handle that is new. -/
def atEpoch : Client where
  context := { path := "coord.db", config := .standard, now := .epoch }
  run := { store := {} }

end Client

structure Deed where
  call : Call
  now : Timestamp
  answer : Answer

namespace Attempt

def deed? (attempt : Attempt) (store : Store) : Option Deed :=
  match attempt.answer store with
  | .ok answer => some ⟨attempt.call, attempt.context.now, answer⟩
  | .error _ => none

theorem deed?_of_ok {attempt : Attempt} {store : Store} {answer : Answer}
    (h : attempt.answer store = .ok answer) :
    attempt.deed? store = some ⟨attempt.call, attempt.context.now, answer⟩ := by
  rw [deed?, h]

theorem deed?_of_error {attempt : Attempt} {store : Store} {failure : Failure}
    (h : attempt.answer store = .error failure) : attempt.deed? store = none := by
  rw [deed?, h]

theorem deed?_eq_some {attempt : Attempt} {store : Store} {d : Deed}
    (h : attempt.deed? store = some d) :
    attempt.call = d.call ∧ attempt.answer store = .ok d.answer := by
  unfold deed? at h
  split at h
  · cases h
    exact ⟨rfl, ‹_›⟩
  · cases h

end Attempt

namespace Store

def after (store : Store) (attempts : List Attempt) : Store :=
  attempts.foldl (fun store attempt => attempt.after store) store

def deeds (store : Store) : List Attempt → List Deed
  | [] => []
  | attempt :: later => (attempt.deed? store).toList ++ (attempt.after store).deeds later

@[simp]
theorem after_cons (store : Store) (attempt : Attempt) (later : List Attempt) :
    store.after (attempt :: later) = (attempt.after store).after later := rfl

theorem after_append (store : Store) (earlier later : List Attempt) :
    store.after (earlier ++ later) = (store.after earlier).after later :=
  List.foldl_append

theorem deeds_append (store : Store) (earlier later : List Attempt) :
    store.deeds (earlier ++ later) = store.deeds earlier ++ (store.after earlier).deeds later := by
  induction earlier generalizing store with
  | nil => rfl
  | cons attempt earlier ih =>
    rw [List.cons_append, deeds, deeds, ih, List.append_assoc]
    rfl

/-- Behind every deed there is an attempt that did it. -/
theorem mem_deeds {store : Store} {attempts : List Attempt} {d : Deed}
    (h : d ∈ store.deeds attempts) :
    ∃ before attempt later, attempts = before ++ attempt :: later ∧
      attempt.deed? (store.after before) = some d := by
  induction attempts generalizing store with
  | nil => cases h
  | cons attempt attempts ih =>
    rw [deeds, List.mem_append, Option.mem_toList] at h
    obtain hdeed | hlater := h
    · exact ⟨[], attempt, attempts, rfl, hdeed⟩
    · obtain ⟨before, other, later, rfl, hdeed⟩ := ih hlater
      exact ⟨attempt :: before, other, later, rfl, hdeed⟩

end Store

end Switchboard
