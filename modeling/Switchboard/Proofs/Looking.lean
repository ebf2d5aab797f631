import Switchboard.Proofs.Call
import Switchboard.Proofs.Connection

namespace Switchboard

open Operation

namespace Mailbox

theorem settles_check (name : String) : Settles (check name) :=
  settles_connect_bind ((keeps_statement (Statement.looks_rows Message _)).bind fun _ =>
    keeps_pure _)

theorem settles_history (name : String) : Settles (history name) :=
  settles_connect_bind ((keeps_statement (Statement.looks_select Message _)).bind fun _ =>
    keeps_pure _)

end Mailbox

namespace Registry

theorem settles_roster : Settles roster := by
  refine settles_connect_bind (Keeps.bind (keeps_statement ?_) fun _ => keeps_liftM _)
  apply (Statement.looks_rows Registration _).bind
  intro _
  apply (Statement.looks_rows Message _).bind
  intro _
  exact (Statement.looks_read _).bind fun _ => Statement.looks_pure _

theorem settles_status (name : String) : Settles (status name) := by
  refine settles_connect_bind ((keeps_statement (Statement.looks_rows Registration _)).bind
    fun rows => ?_)
  cases newest? name rows with
  | none => exact keeps_pure none
  | some e =>
    dsimp only
    split
    · exact keeps_throw _
    · exact keeps_pure _

end Registry

namespace EventLog

theorem settles_readEvents (choose : List (Entry Event) → List (Entry Event)) :
    Settles (readEvents choose) :=
  settles_connect_bind ((keeps_statement (Statement.looks_select Event _)).bind fun _ =>
    keeps_pure _)

theorem settles_latest (filter : EventFilter) : Settles (latest filter) :=
  (settles_readEvents _).bind fun _ => (keeps_pure _).settles

theorem settles_pipelineState : Settles pipelineState := by
  apply (settles_latest _).bind
  intro event
  cases event with
  | none => exact (keeps_pure _).settles
  | some event => exact (keeps_pure _).settles

end EventLog

namespace TaskQueue

theorem keeps_readFirst (entries : List (Entry Task)) : Keeps (readFirst entries) := by
  cases entries with
  | nil => exact keeps_pure none
  | cons e _ => exact (keeps_liftM _).map some

theorem keeps_load (id : Int) : Keeps (load id) :=
  (keeps_statement (Statement.looks_select Task _)).bind keeps_readFirst

theorem settles_find (id : Int) : Settles (find id) :=
  settles_connect_bind (keeps_load id)

theorem settles_list (status : Option TaskStatus) (taskType : Option String) :
    Settles (list status taskType) :=
  settles_connect_bind ((keeps_statement (Statement.looks_select Task _)).bind fun _ =>
    keeps_liftM _)

theorem settles_nextRunnable : Settles nextRunnable := by
  refine settles_connect_bind (Keeps.bind (keeps_statement ?_) keeps_readFirst)
  exact (Statement.looks_rows Task _).bind fun _ => Statement.looks_read _

end TaskQueue

namespace Call

def looks : Call → Bool
  | connect | init | check _ | history _ | roster | status _ | tail _ | query _ | latest _
  | pipelineState | find _ | list _ _ | nextRunnable => true
  | _ => false

theorem settles_operation {call : Call} (h : call.looks) : Settles call.operation := by
  cases call with
  | connect => exact settles_connect.map _
  | init => exact settles_init.map _
  | check name => exact (Mailbox.settles_check name).map _
  | history name => exact (Mailbox.settles_history name).map _
  | roster => exact Registry.settles_roster.map _
  | status name => exact (Registry.settles_status name).map _
  | tail filter => exact (EventLog.settles_readEvents _).map _
  | query filter => exact (EventLog.settles_readEvents _).map _
  | latest filter => exact (EventLog.settles_latest filter).map _
  | pipelineState => exact EventLog.settles_pipelineState.map _
  | find id => exact (TaskQueue.settles_find id).map _
  | list wanted taskType => exact (TaskQueue.settles_list wanted taskType).map _
  | nextRunnable => exact TaskQueue.settles_nextRunnable.map _
  | _ => cases h

end Call

theorem Attempt.answer_eq_map {α : Type} {attempt : Attempt} {store : Store} {op : Operation α}
    {f : α → Answer} (hcall : attempt.call.operation = f <$> op) :
    attempt.answer store =
      (Operation.perform op attempt.context { attempt.run with store }).1.map f := by
  rw [Attempt.answer, Attempt.perform, hcall, perform_map]

/-- An attempt answers what its operation does. -/
theorem Attempt.answer_eq_ok {α : Type} {attempt : Attempt} {store : Store} {op : Operation α}
    {f : α → Answer} {answer : Answer} (hcall : attempt.call.operation = f <$> op) :
    attempt.answer store = .ok answer ↔
      ∃ a left, Operation.perform op attempt.context { attempt.run with store } = (.ok a, left) ∧
        f a = answer := by
  unfold Attempt.answer Attempt.perform
  rw [hcall, perform_map]
  obtain ⟨failure | a, left⟩ :=
    Operation.perform op attempt.context { attempt.run with store } <;> simp [Except.map]

end Switchboard
