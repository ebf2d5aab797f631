import Switchboard.Proofs.Mailbox.Snapshot
import Switchboard.Proofs.Numbering

namespace Switchboard

namespace Operation

variable {α β : Type} {context : Context} {run left : Run} {failure : Failure}

def Recovers (op : Operation α) : Prop :=
  ∀ (context : Context) (run left : Run) (failure : Failure),
    perform op context run = (.error failure, left) → run.store.Settled left.store

def Succeeds (op : Operation α) : Prop :=
  ∀ (context : Context) (run left : Run) (failure : Failure),
    perform op context run ≠ (.error failure, left)

theorem Settles.recovers {op : Operation α} (h : Settles op) : Recovers op :=
  fun _ _ _ _ hop => h.settled hop

theorem recovers_transactionIf (keep : α → Bool) (body : Operation α) :
    Recovers (transactionIf keep body) :=
  fun _ _ _ _ hop => .inl (perform_transactionIf_error hop)

theorem recovers_transaction (body : Operation α) : Recovers (transaction body) :=
  recovers_transactionIf _ body

theorem Settles.bind_recovers {op : Operation α} {next : α → Operation β} (h : Settles op)
    (hnext : ∀ a, Recovers (next a)) : Recovers (op >>= next) := by
  intro context run left failure hop
  obtain hfirst | ⟨a, middle, hfirst, hrest⟩ := perform_bind_error.1 hop
  · exact h.settled hfirst
  · exact (h.settled hfirst).trans (hnext a context middle left failure hrest)

theorem Recovers.bind {op : Operation α} {next : α → Operation β} (h : Recovers op)
    (hnext : ∀ a, Succeeds (next a)) : Recovers (op >>= next) := by
  intro context run left failure hop
  obtain hfirst | ⟨a, middle, hfirst, hrest⟩ := perform_bind_error.1 hop
  · exact h context run left failure hfirst
  · exact absurd hrest (hnext a context middle left failure)

theorem Recovers.map {op : Operation α} (h : Recovers op) (f : α → β) : Recovers (f <$> op) :=
  fun context run left failure hop => h context run left failure (perform_map_error.1 hop)

theorem succeeds_notify (notice : Notice) : Succeeds (notify notice) := fun _ _ _ _ => nofun

theorem succeeds_report (notice : Notice) (a : α) :
    Succeeds (do notify notice; pure a : Operation α) := fun _ _ _ _ => nofun

theorem recovers_connect_transaction (body : Operation α) {next : α → Operation β}
    (h : ∀ a, Succeeds (next a)) :
    Recovers (do
      connect
      let a ← transaction body
      next a) :=
  settles_connect.bind_recovers fun _ => (recovers_transaction body).bind h

end Operation

open Operation

theorem Mailbox.recovers_send (target body : String) (sender : Option String) :
    Recovers (send target body sender) :=
  recovers_connect_transaction _ fun _ => succeeds_report _ _

theorem Mailbox.recovers_tryReceive (name : String) : Recovers (tryReceive name) :=
  fun _ _ _ _ => tryReceive_error

theorem Mailbox.recovers_drain (name : String) : Recovers (drain name) :=
  fun _ _ _ _ => drain_error

theorem Registry.recovers_register (name : String) (pid : Option Int) :
    Recovers (register name pid) :=
  recovers_connect_transaction _ fun _ => succeeds_report _ _

theorem Registry.recovers_recordStatus (name : String) (status : AgentStatus) :
    Recovers (recordStatus name status) :=
  settles_connect.bind_recovers fun _ => recovers_transaction _

theorem Registry.recovers_unregister (name : String) : Recovers (unregister name) :=
  (recovers_recordStatus name .exited).bind fun _ => succeeds_report _ _

theorem Registry.recovers_cleanup (who : Option String) : Recovers (cleanup who) :=
  recovers_connect_transaction _ fun _ => succeeds_report _ _

theorem EventLog.recovers_log (kind tag body agent : String) : Recovers (log kind tag body agent) :=
  recovers_connect_transaction _ fun _ => succeeds_report _ _

theorem EventLog.recovers_setPipelineState (state agent : String) :
    Recovers (setPipelineState state agent) := by
  unfold setPipelineState
  split
  · exact (keeps_throw _).settles.recovers
  · exact recovers_log _ _ _ _

theorem TaskQueue.recovers_submit (new : NewTask) : Recovers (submit new) :=
  recovers_connect_transaction _ fun _ => succeeds_report _ _

theorem TaskQueue.recovers_move {body : Context → Operation Unit} (notice : Notice) :
    Recovers (do
      connect
      let context ← read
      transaction (body context)
      notify notice) :=
  settles_connect.bind_recovers fun _ => keeps_read.settles.bind_recovers fun _ =>
    (recovers_transaction _).bind fun _ => succeeds_notify _

theorem TaskQueue.recovers_route (id : Int) (agentFile model : String) :
    Recovers (route id agentFile model) :=
  settles_connect.bind_recovers fun _ => recovers_transaction _

theorem Call.recovers_operation (call : Call) : Recovers call.operation := by
  cases call with
  | send target body sender => exact (Mailbox.recovers_send target body sender).map _
  | tryReceive name => exact (Mailbox.recovers_tryReceive name).map _
  | drain name => exact (Mailbox.recovers_drain name).map _
  | register name pid => exact (Registry.recovers_register name pid).map _
  | recordStatus name newest => exact (Registry.recovers_recordStatus name newest).map _
  | unregister name => exact (Registry.recovers_unregister name).map _
  | cleanup who => exact (Registry.recovers_cleanup who).map _
  | log kind tag body agent => exact (EventLog.recovers_log kind tag body agent).map _
  | setPipelineState state agent =>
    exact (EventLog.recovers_setPipelineState state agent).map _
  | submit new => exact (TaskQueue.recovers_submit new).map _
  | claim dispatcher id => exact (TaskQueue.recovers_move _).map _
  | complete id output => exact (TaskQueue.recovers_move _).map _
  | fail id error => exact (TaskQueue.recovers_move _).map _
  | route id agentFile model => exact (TaskQueue.recovers_route id agentFile model).map _
  | _ => exact (settles_operation rfl).recovers

/-- A call that fails leaves every row as it was. Tables that were missing may have been made, but
there is nothing in them. Whichever call comes next, the ids that it takes and answers are those
that it would have taken anyway. -/
theorem failed_call_leaves_no_trace (store : Store) (attempt : Attempt) (failure : Failure)
    (h : attempt.answer store = .error failure) :
    (attempt.after store).tables.SameContent store.tables ∧
      store.Settled (attempt.after store) ∧
      ∀ next : Attempt, ∀ found, found = store ∨ found = attempt.after store →
        (∃ n, Tables.Mints n store.tables (next.after found).tables) ∧
          ∀ id, next.answer found = .ok (.id id) → id = store.tables.lastId + 1 := by
  have hsettled : store.Settled (attempt.after store) :=
    attempt.call.recovers_operation attempt.context { attempt.run with store } _ failure
      (Prod.ext h rfl)
  refine ⟨hsettled.sameContent, hsettled, fun next found hfound => ?_⟩
  have hsame : found.tables.SameContent store.tables := by
    obtain rfl | rfl := hfound
    · exact .refl _
    · exact hsettled.sameContent
  constructor
  · obtain ⟨n, hn⟩ := next.call.writes_operation _ Tables.writing_mints next.context { next.run with store := found }
    exact ⟨0 + n, hsame.mints.trans hn⟩
  · intro id hid
    have hnext : next.perform found = (.ok (.id id), (next.perform found).2) := Prod.ext hid rfl
    rw [← hsame.lastId]
    exact Call.answersNext_operation hnext

/-- The first message of a store, which the engine refuses to keep after the tables have been made
and an id has been taken. -/
def Attempt.unkept : Attempt :=
  .atEpoch (.send "worker" "hello" none)
    (List.replicate 20 none ++ [some (.other 13 "database or disk is full")])

theorem unkept_message_leaves_no_trace :
    Attempt.unkept.answer {} =
        .error (.statement .commitTransaction (.other 13 "database or disk is full")) ∧
      (Attempt.unkept.after {}).tables.SameContent {} ∧
      Store.Settled {} (Attempt.unkept.after {}) :=
  have h : Attempt.unkept.answer {} =
      .error (.statement .commitTransaction (.other 13 "database or disk is full")) := by
    decide +kernel
  have htrace := failed_call_leaves_no_trace {} Attempt.unkept _ h
  ⟨h, htrace.1, htrace.2.1⟩

end Switchboard
