import Switchboard.Proofs.Aside
import Switchboard.Proofs.Call
import Switchboard.Proofs.Mailbox.Snapshot

namespace Switchboard

open Operation

namespace Passing

variable {R : Run → Run → Prop} (hR : Passing R)

include hR

theorem stays_mintId : Stays R mintId := hR.stays_statement _ _

theorem stays_claimOldest (name : String) : Stays R (Mailbox.claimOldest name) := by
  refine hR.stays_bind (hR.stays_statement _ _) fun oldest => ?_
  cases oldest with
  | nil => exact hR.stays_pure _
  | cons e _ =>
    refine hR.stays_bind hR.stays_read fun _ => ?_
    refine hR.stays_bind (hR.stays_statement _ _) fun count => ?_
    split <;> exact hR.stays_pure _

theorem stays_passes (name : String) : Stays R (Mailbox.passes name) :=
  hR.stays_bind hR.stays_get fun _ => hR.stays_pure _

theorem stays_claimAll (name : String) : Stays R (Mailbox.claimAll name) := by
  refine hR.stays_bind (hR.stays_statement _ _) fun entries => ?_
  cases entries.getLast? with
  | none => exact hR.stays_pure _
  | some newest =>
    refine hR.stays_bind hR.stays_read fun _ => ?_
    refine hR.stays_bind (hR.stays_statement _ _) fun count => ?_
    split <;> exact hR.stays_pure _

theorem stays_append (name : String) (pid : List (Entry Registration) → Cell)
    (status : AgentStatus) : Stays R (Registry.append name pid status) := by
  refine hR.stays_bind hR.stays_mintId fun _ => ?_
  refine hR.stays_bind hR.stays_read fun _ => ?_
  exact hR.stays_bind (hR.stays_statement _ _) fun _ => hR.stays_pure _

theorem stays_mark (name : String) (status : AgentStatus) :
    Stays R (discard (Registry.appendStatus name status)) :=
  (hR.stays_append name _ status).map _

theorem stays_cleanAll : Stays R Registry.cleanAll := by
  refine hR.stays_bind (hR.stays_statement _ _) fun rows => ?_
  refine hR.stays_bind ?_ fun _ => hR.stays_pure _
  generalize (Registry.present rows).map (·.record.name) = names
  induction names with
  | nil => exact hR.stays_pure _
  | cons name names ih => exact hR.stays_bind (hR.stays_mark name .cleaned) fun _ => ih

theorem stays_cleanUp (who : Option String) :
    Stays R (who.elim Registry.cleanAll Registry.cleanOne) := by
  cases who with
  | none => exact hR.stays_cleanAll
  | some name => exact hR.stays_bind (hR.stays_mark name .cleaned) fun _ => hR.stays_pure _

theorem stays_readFirst (entries : List (Entry Task)) : Stays R (TaskQueue.readFirst entries) := by
  cases entries with
  | nil => exact hR.stays_pure none
  | cons e _ => exact (hR.stays_liftM _).map some

theorem stays_load (id : Int) : Stays R (TaskQueue.load id) :=
  hR.stays_bind (hR.stays_statement _ _) hR.stays_readFirst

theorem stays_enqueue (new : NewTask) : Stays R (TaskQueue.enqueue new) := by
  have hqueue : Stays R (do
      let id ← mintId
      let task := Task.queued id (← read).now new
      statement .submitTask (Statement.insert task)
      pure id) := by
    refine hR.stays_bind hR.stays_mintId fun id => hR.stays_bind hR.stays_read fun _ => ?_
    exact hR.stays_bind (hR.stays_statement _ _) fun _ => hR.stays_pure _
  unfold TaskQueue.enqueue
  cases new.dependsOn with
  | none => exact hqueue
  | some dependency =>
    refine hR.stays_bind (hR.stays_load dependency) fun found => ?_
    cases found with
    | none => exact hR.stays_bind (hR.stays_throw _) fun _ => hqueue
    | some _ => exact hqueue

theorem stays_advance (id : Int) (expected : TaskStatus) (columns : List String)
    (change : Task → Task) (keepsId : ∀ t, (change t).id = t.id) :
    Stays R (TaskQueue.advance id expected columns change keepsId) := by
  refine hR.stays_bind (hR.stays_statement _ _) fun count => ?_
  split
  · refine hR.stays_bind (hR.stays_load id) fun found => ?_
    cases found <;> exact hR.stays_throw _
  · exact hR.stays_pure _

end Passing

namespace Operation

variable {α β : Type} {lines : Context → α → List Notice} {context : Context} {run : Run}

/-- What is told of an outcome: `lines` of an answer, and nothing of a failure. -/
def linesOf (lines : α → List Notice) : Except Failure α → List Notice
  | .ok a => lines a
  | .error _ => []

abbrev Silent (op : Operation α) : Prop := Stays (fun before after => after.told = before.told) op

/-- Of its success the operation tells `lines`, and of a failure nothing. -/
def Announces (lines : Context → α → List Notice) (op : Operation α) : Prop :=
  ∀ (context : Context) (run : Run), (perform op context run).2.told =
    run.told ++ linesOf (lines context) (perform op context run).1

theorem Silent.announces {op : Operation α} (h : Silent op) : Announces (fun _ _ => []) op := by
  intro context run
  rw [h context run]
  cases (perform op context run).1 <;> simp [linesOf]

theorem Silent.bind_announces {lines : Context → β → List Notice} {op : Operation α}
    {next : α → Operation β} (h : Silent op) (hnext : ∀ a, Announces lines (next a)) :
    Announces lines (op >>= next) := by
  intro context run
  have hop := h context run
  rw [perform_bind]
  generalize perform op context run = result at hop ⊢
  obtain ⟨failure | a, middle⟩ := result
  · simpa [linesOf] using hop
  · exact hop ▸ hnext a context middle

theorem told_map {lines : β → List Notice} {op : Operation α} {f : α → β}
    (h : (perform op context run).2.told =
      run.told ++ linesOf (fun a => lines (f a)) (perform op context run).1) :
    (perform (f <$> op) context run).2.told =
      run.told ++ linesOf lines (perform (f <$> op) context run).1 := by
  rw [perform_map]
  generalize perform op context run = result at h ⊢
  obtain ⟨failure | a, middle⟩ := result <;> exact h

theorem Announces.map {lines : Context → β → List Notice} {op : Operation α} {f : α → β}
    (h : Announces (fun context a => lines context (f a)) op) : Announces lines (f <$> op) :=
  fun context run => told_map (h context run)

theorem told_notify (context : Context) (run : Run) {notice : Notice} (h : notice.level = .info) :
    (perform (notify notice) context run).2.told = run.told ++ [notice] := by
  change Run.told { run with notices := notice :: run.notices } = _
  simp [Run.told, h]

theorem announces_notify {notice : Notice} (h : notice.level = .info) :
    Announces (fun _ _ => [notice]) (notify notice) := fun context run => told_notify context run h

theorem announces_report {notice : Notice} {a : α} (h : notice.level = .info)
    (hlines : ∀ context, lines context a = [notice]) :
    Announces lines (do notify notice; pure a) := by
  intro context run
  change (perform (notify notice) context run).2.told = run.told ++ lines context a
  rw [told_notify context run h, hlines]

theorem silent_connect : Silent connect := Run.passing_told.stays_connect fun _ => rfl

theorem silent_connect_bind {next : Operation α} (h : Silent next) :
    Silent (connect >>= fun _ => next) :=
  Run.passing_told.stays_bind silent_connect fun _ => h

theorem announces_connect_transaction {lines : Context → β → List Notice} {body : Operation α}
    {next : α → Operation β} (hbody : Silent body) (hnext : ∀ a, Announces lines (next a)) :
    Announces lines (do
      connect
      let a ← transaction body
      next a) :=
  silent_connect.bind_announces fun _ =>
    Silent.bind_announces (Run.passing_told.stays_transaction hbody) hnext

end Operation

namespace Call

def lines (context : Context) : Call → Answer → List Notice
  | .init, _ => [.storeInitialized context.path]
  | .tryReceive name, .message message => (message.map fun m => .messageClaimed m.id name).toList
  | .drain name, .messages messages => [.mailboxDrained messages.length name]
  | .register name pid, _ => [.agentRegistered name pid]
  | .unregister name, _ => [.agentUnregistered name]
  | .cleanup _, .names names => [.agentsCleaned names.length]
  | .submit new, .id id => [.taskSubmitted id new.taskType new.priority new.dependsOn]
  | .claim dispatcher id, _ => [.taskClaimed id dispatcher]
  | .complete id _, _ => [.taskComplete id]
  | .fail id _, _ => [.taskFailed id]
  | _, _ => []

end Call

theorem Operation.silent_look {α β : Type} {action : Action} {s : Statement α}
    {next : α → Operation β} (h : ∀ a, Silent (next a)) :
    Silent (connect >>= fun _ => statement action s >>= next) :=
  silent_connect_bind (Run.passing_told.stays_bind (Run.passing_told.stays_statement _ _) h)

theorem Mailbox.silent_send (target body : String) (sender : Option String) :
    Silent (send target body sender) := by
  have hR := Run.passing_told
  refine silent_connect_bind (hR.stays_bind (hR.stays_transaction ?_) fun id => ?_)
  · refine hR.stays_bind hR.stays_mintId fun _ => hR.stays_bind hR.stays_read fun _ => ?_
    exact hR.stays_bind (hR.stays_statement _ _) fun _ => hR.stays_pure _
  · exact hR.stays_bind (hR.stays_notify nofun) fun _ => hR.stays_pure _

theorem EventLog.silent_log (kind tag body agent : String) : Silent (log kind tag body agent) := by
  have hR := Run.passing_told
  refine silent_connect_bind (hR.stays_bind (hR.stays_transaction ?_) fun id => ?_)
  · refine hR.stays_bind hR.stays_mintId fun _ => hR.stays_bind hR.stays_read fun _ => ?_
    exact hR.stays_bind (hR.stays_statement _ _) fun _ => hR.stays_pure _
  · exact hR.stays_bind (hR.stays_notify nofun) fun _ => hR.stays_pure _

theorem EventLog.silent_setPipelineState (state agent : String) :
    Silent (setPipelineState state agent) := by
  unfold setPipelineState
  split
  · exact Run.passing_told.stays_throw _
  · exact silent_log _ _ _ _

theorem EventLog.silent_readEvents (choose : List (Entry Event) → List (Entry Event)) :
    Silent (readEvents choose) := silent_look fun _ => Run.passing_told.stays_pure _

theorem EventLog.silent_latest (filter : EventFilter) : Silent (latest filter) :=
  Run.passing_told.stays_bind (silent_readEvents _) fun _ => Run.passing_told.stays_pure _

theorem EventLog.silent_pipelineState : Silent pipelineState := by
  refine Run.passing_told.stays_bind (silent_latest _) fun event => ?_
  cases event <;> exact Run.passing_told.stays_pure _

theorem Registry.silent_recordStatus (name : String) (status : AgentStatus) :
    Silent (recordStatus name status) :=
  silent_connect_bind (Run.passing_told.stays_transaction (Run.passing_told.stays_append _ _ _))

theorem Registry.silent_status (name : String) : Silent (status name) := by
  have hR := Run.passing_told
  refine silent_connect_bind (hR.stays_bind (hR.stays_statement _ _) fun rows => ?_)
  cases newest? name rows with
  | none => exact hR.stays_pure none
  | some e =>
    dsimp only
    split
    · exact hR.stays_throw _
    · exact hR.stays_pure _

theorem TaskQueue.silent_route (id : Int) (agentFile model : String) :
    Silent (route id agentFile model) := by
  have hR := Run.passing_told
  refine silent_connect_bind (hR.stays_transaction
    (hR.stays_bind (hR.stays_statement _ _) fun _ => ?_))
  split
  · exact hR.stays_throw _
  · exact hR.stays_pure _

theorem Mailbox.silent_check (name : String) : Silent (check name) :=
  silent_look fun _ => Run.passing_told.stays_pure _

theorem Mailbox.silent_history (name : String) : Silent (history name) :=
  silent_look fun _ => Run.passing_told.stays_pure _

theorem Registry.silent_roster : Silent roster :=
  silent_look fun _ => Run.passing_told.stays_liftM _

theorem TaskQueue.silent_find (id : Int) : Silent (find id) :=
  silent_connect_bind (Run.passing_told.stays_load id)

theorem TaskQueue.silent_list (status : Option TaskStatus) (taskType : Option String) :
    Silent (list status taskType) := silent_look fun _ => Run.passing_told.stays_liftM _

theorem TaskQueue.silent_nextRunnable : Silent nextRunnable :=
  silent_look Run.passing_told.stays_readFirst

theorem Mailbox.announces_claimNext (name : String) (passes : Nat) :
    Announces (fun _ message => (message.map fun m => .messageClaimed m.id name).toList)
      (claimNext name passes) := by
  have hR := Run.passing_told
  induction passes with
  | zero => exact Silent.announces (hR.stays_pure none)
  | succ passes ih =>
    refine Silent.bind_announces (hR.stays_transaction (hR.stays_claimOldest name))
      fun attempt => ?_
    cases attempt with
    | claimed message => exact announces_report rfl fun _ => rfl
    | empty => exact Silent.announces (hR.stays_pure none)
    | lost id => exact Silent.bind_announces (hR.stays_notify nofun) fun _ => ih

theorem Mailbox.announces_tryReceive (name : String) :
    Announces (fun _ message => (message.map fun m => .messageClaimed m.id name).toList)
      (tryReceive name) :=
  silent_connect.bind_announces fun _ =>
    Silent.bind_announces (Run.passing_told.stays_passes name) fun passes =>
      announces_claimNext name passes

theorem Mailbox.announces_drainNext (name : String) (passes : Nat) :
    Announces (fun _ messages => [.mailboxDrained messages.length name])
      (drainNext name (passes + 1)) := by
  have hsilent : Silent (transactionIf Option.isSome (claimAll name)) :=
    Run.passing_told.stays_transactionIf (Run.passing_told.stays_claimAll name) _
  intro context run
  have htold := hsilent context run
  rw [drainNext, perform_bind]
  rcases htransaction : perform (transactionIf Option.isSome (claimAll name)) context run with
    ⟨failure | answer, left⟩
  · rw [htransaction] at htold
    simpa [linesOf] using htold
  · rw [htransaction] at htold
    obtain ⟨messages, -, rfl, -⟩ := drainTransaction_cases htransaction
    rw [← htold]
    exact told_notify context left rfl

theorem Mailbox.announces_drain (name : String) :
    Announces (fun _ messages => [.mailboxDrained messages.length name]) (drain name) :=
  silent_connect.bind_announces fun _ context run => announces_drainNext name _ context run

theorem Registry.announces_unregister (name : String) :
    Announces (fun _ _ => [.agentUnregistered name]) (unregister name) :=
  Silent.bind_announces (silent_recordStatus name .exited) fun _ =>
    announces_report rfl fun _ => rfl

theorem TaskQueue.announces_move {body : Context → Operation Unit} {notice : Notice}
    (h : ∀ context, Silent (body context)) (hlevel : notice.level = .info) :
    Announces (fun _ _ => [notice]) (do
      connect
      let context ← read
      transaction (body context)
      notify notice) :=
  silent_connect.bind_announces fun _ =>
    Silent.bind_announces Run.passing_told.stays_read fun context =>
      Silent.bind_announces (Run.passing_told.stays_transaction (h context)) fun _ =>
        announces_notify hlevel

theorem Registry.announces_register (name : String) (pid : Option Int) :
    Announces (fun _ _ => [.agentRegistered name pid]) (register name pid) :=
  announces_connect_transaction (Run.passing_told.stays_append _ _ _) fun _ =>
    announces_report rfl fun _ => rfl

theorem Registry.announces_cleanup (who : Option String) :
    Announces (fun _ names => [.agentsCleaned names.length]) (cleanup who) :=
  announces_connect_transaction (Run.passing_told.stays_cleanUp who) fun _ =>
    announces_report rfl fun _ => rfl

theorem TaskQueue.announces_submit (new : NewTask) :
    Announces (fun _ id => [.taskSubmitted id new.taskType new.priority new.dependsOn])
      (submit new) :=
  announces_connect_transaction (Run.passing_told.stays_enqueue new) fun _ =>
    announces_report rfl fun _ => rfl

theorem Operation.announces_init :
    Announces (fun context _ => [.storeInitialized context.path]) init := by
  have hcreate : Silent createSchema :=
    Run.passing_told.stays_bind
      (Run.passing_told.stays_transaction (Run.passing_told.stays_createTables _)) fun _ _ _ => rfl
  refine Silent.bind_announces Run.passing_told.stays_openStore fun _ => ?_
  refine Silent.bind_announces hcreate fun _ context run => ?_
  exact told_notify context run rfl

theorem Call.announces_operation (call : Call) :
    Announces (fun context => call.lines context) call.operation := by
  cases call with
  | drain name => exact Announces.map (Mailbox.announces_drain name)
  | init => exact Announces.map announces_init
  | tryReceive name => exact Announces.map (Mailbox.announces_tryReceive name)
  | register name pid => exact Announces.map (Registry.announces_register name pid)
  | unregister name => exact Announces.map (Registry.announces_unregister name)
  | cleanup who => exact Announces.map (Registry.announces_cleanup who)
  | submit new => exact Announces.map (TaskQueue.announces_submit new)
  | claim dispatcher id =>
    exact Announces.map
      (TaskQueue.announces_move (fun _ => Run.passing_told.stays_advance _ _ _ _ _) rfl)
  | complete id output =>
    exact Announces.map
      (TaskQueue.announces_move (fun _ => Run.passing_told.stays_advance _ _ _ _ _) rfl)
  | fail id error =>
    exact Announces.map
      (TaskQueue.announces_move (fun _ => Run.passing_told.stays_advance _ _ _ _ _) rfl)
  | connect => exact Announces.map (Silent.announces silent_connect)
  | send target body sender =>
    exact Announces.map (Silent.announces (Mailbox.silent_send target body sender))
  | check name => exact Announces.map (Silent.announces (Mailbox.silent_check name))
  | history name => exact Announces.map (Silent.announces (Mailbox.silent_history name))
  | recordStatus name status =>
    exact Announces.map (Silent.announces (Registry.silent_recordStatus name status))
  | roster => exact Announces.map (Silent.announces Registry.silent_roster)
  | status name => exact Announces.map (Silent.announces (Registry.silent_status name))
  | log kind tag body agent =>
    exact Announces.map (Silent.announces (EventLog.silent_log kind tag body agent))
  | setPipelineState state agent =>
    exact Announces.map (Silent.announces (EventLog.silent_setPipelineState state agent))
  | tail filter => exact Announces.map (Silent.announces (EventLog.silent_readEvents _))
  | query filter => exact Announces.map (Silent.announces (EventLog.silent_readEvents _))
  | latest filter => exact Announces.map (Silent.announces (EventLog.silent_latest filter))
  | pipelineState => exact Announces.map (Silent.announces EventLog.silent_pipelineState)
  | route id agentFile model =>
    exact Announces.map (Silent.announces (TaskQueue.silent_route id agentFile model))
  | find id => exact Announces.map (Silent.announces (TaskQueue.silent_find id))
  | list wanted taskType =>
    exact Announces.map (Silent.announces (TaskQueue.silent_list wanted taskType))
  | nextRunnable => exact Announces.map (Silent.announces TaskQueue.silent_nextRunnable)

theorem Attempt.told_perform (attempt : Attempt) (store : Store) :
    (attempt.perform store).2.told =
      attempt.run.told ++
        linesOf (attempt.call.lines attempt.context) (attempt.answer store) :=
  attempt.call.announces_operation attempt.context { attempt.run with store }

end Switchboard
