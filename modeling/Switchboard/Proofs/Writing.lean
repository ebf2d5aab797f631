import Switchboard.Proofs.Ledger
import Switchboard.Proofs.Looking

namespace Switchboard

/-- The table of a type is the one of its name. -/
class Placed (α : Type) [Stored α] : Prop where
  has_name (tables : Tables) :
    tables.has (Stored.name α) = (Stored.table tables : Table (Entry α)).isPresent
  isForeign_name (tables : Tables) :
    tables.isForeign (Stored.name α) = (Stored.table tables : Table (Entry α)).isForeign
  has_setTable (rows : Rows (Entry α)) (tables : Tables) (name : TableName) :
    (Stored.setTable (.holding rows) tables).has name =
      (tables.has name || decide (name = Stored.name α))
  isForeign_setTable (rows : Rows (Entry α)) (tables : Tables) (name : TableName) :
    (Stored.setTable (.holding rows) tables).isForeign name =
      (tables.isForeign name && decide (name ≠ Stored.name α))

instance : Placed Message where
  has_name _ := rfl
  isForeign_name _ := rfl
  has_setTable _ _ name := by
    cases name <;> simp [Tables.has, Stored.setTable, Stored.name, Table.isPresent]
  isForeign_setTable _ _ name := by
    cases name <;> simp [Tables.isForeign, Stored.setTable, Stored.name, Table.isForeign]

instance : Placed Event where
  has_name _ := rfl
  isForeign_name _ := rfl
  has_setTable _ _ name := by
    cases name <;> simp [Tables.has, Stored.setTable, Stored.name, Table.isPresent]
  isForeign_setTable _ _ name := by
    cases name <;> simp [Tables.isForeign, Stored.setTable, Stored.name, Table.isForeign]

instance : Placed Registration where
  has_name _ := rfl
  isForeign_name _ := rfl
  has_setTable _ _ name := by
    cases name <;> simp [Tables.has, Stored.setTable, Stored.name, Table.isPresent]
  isForeign_setTable _ _ name := by
    cases name <;> simp [Tables.isForeign, Stored.setTable, Stored.name, Table.isForeign]

instance : Placed Task where
  has_name _ := rfl
  isForeign_name _ := rfl
  has_setTable _ _ name := by
    cases name <;> simp [Tables.has, Stored.setTable, Stored.name, Table.isPresent]
  isForeign_setTable _ _ name := by
    cases name <;> simp [Tables.isForeign, Stored.setTable, Stored.name, Table.isForeign]

/-- A relation between stores that goes along with everything that is written. -/
structure Writing (R : Store → Store → Prop) : Prop where
  refl (store : Store) : R store store
  trans {first second third : Store} : R first second → R second third → R first third
  complete (store : Store) : R store { store with tables := store.tables.completed }
  mint {store : Store} {sequence next : Sequence} {id : Int} :
    store.tables.sequence = some sequence → sequence.next? = some (id, next) →
    R store { store with tables := { store.tables with sequence := some next } }
  replace {α : Type} [Stored α] [Recorded α] [Placed α] (store : Store) (rows : Rows (Entry α)) :
    R store { store with tables := Stored.setTable (.holding rows) store.tables }

namespace Operation

variable {α β : Type} {context : Context} {run left : Run}

def Writes (op : Operation α) : Prop :=
  ∀ (R : Store → Store → Prop), Writing R → ∀ (context : Context) (run : Run),
    R run.store (perform op context run).2.store

theorem Settles.writes {op : Operation α} (h : Settles op) : Writes op := by
  intro R hR context run
  obtain hsame | hcompleted := h context run
  · exact hsame ▸ hR.refl _
  · exact hcompleted ▸ hR.complete _

theorem Keeps.writes {op : Operation α} (h : Keeps op) : Writes op := h.settles.writes

theorem Writes.bind {op : Operation α} {next : α → Operation β} (h : Writes op)
    (hnext : ∀ a, Writes (next a)) : Writes (op >>= next) := by
  intro R hR context run
  have hop := h R hR context run
  rw [perform_bind]
  generalize perform op context run = result at hop ⊢
  obtain ⟨failure | a, middle⟩ := result
  · exact hop
  · exact hR.trans hop (hnext a R hR context middle)

theorem Writes.map {op : Operation α} (h : Writes op) (f : α → β) : Writes (f <$> op) := by
  intro R hR context run
  rw [perform_map]
  exact h R hR context run

theorem writes_statement {action : Action} {s : Statement α}
    (h : ∀ R, Writing R → ∀ store a after, s.run store = .ok (a, after) → R store after) :
    Writes (statement action s) := by
  intro R hR context run
  rcases hop : perform (statement action s) context run with ⟨failure | a, left⟩
  · obtain rfl := perform_statement_error hop
    exact hR.refl _
  · obtain ⟨store, hstore, rfl⟩ := perform_statement_ok hop
    exact h R hR _ _ _ hstore

theorem writes_mintId : Writes mintId := by
  refine writes_statement fun R hR store id after h => ?_
  obtain ⟨sequence, next, hsequence, hnext, rfl⟩ := Statement.mint_ok h
  exact hR.mint hsequence hnext

theorem writes_insert {α : Type} [Stored α] [Recorded α] [Placed α] {action : Action} (record : α) :
    Writes (statement action (Statement.insert record)) := by
  refine writes_statement fun R hR store _ after h => ?_
  obtain ⟨rows, placed, -, -, rfl⟩ := Statement.insertEntry_ok h
  exact hR.replace _ _

theorem writes_update {α : Type} [Stored α] [Recorded α] [Placed α] {action : Action}
    {p : Entry α → Bool} {columns : List String} {f : α → α}
    {keepsId : ∀ a, Row.id (f a) = Row.id a} :
    Writes (statement action (Statement.update p columns f keepsId)) := by
  refine writes_statement fun R hR store _ after h => ?_
  obtain ⟨rows, changed, -, -, -, rfl⟩ := Statement.update_ok h
  exact hR.replace _ _

theorem Writes.transactionIf {body : Operation α} (h : Writes body) (keep : α → Bool) :
    Writes (transactionIf keep body) := by
  intro R hR context run
  rcases hop : perform (Operation.transactionIf keep body) context run with ⟨failure | a, left⟩
  · have hkept : left.store = run.store := perform_transactionIf_error hop
    exact hkept ▸ hR.refl _
  · obtain ⟨started, done, hstarted, hbody, hleft⟩ := perform_transactionIf_ok hop
    dsimp only
    rw [hleft]
    split
    · have hwritten := h R hR context started
      rwa [hbody, hstarted] at hwritten
    · exact hR.refl _

theorem Writes.transaction {body : Operation α} (h : Writes body) : Writes (transaction body) :=
  h.transactionIf _

theorem writes_report (notice : Notice) (a : α) :
    Writes (do notify notice; pure a : Operation α) :=
  ((keeps_notify notice).bind fun _ => keeps_pure a).writes

theorem writes_connect_transaction {body : Operation α} {next : α → Operation β} (h : Writes body)
    (hnext : ∀ a, Writes (next a)) :
    Writes (do
      connect
      let a ← transaction body
      next a) :=
  settles_connect.writes.bind fun _ => h.transaction.bind hnext

theorem writes_connect_bind {op : Operation α} (h : Writes op) :
    Writes (connect >>= fun _ => op) :=
  settles_connect.writes.bind fun _ => h

theorem writes_insertNext {α : Type} [Stored α] [Recorded α] [Placed α] {action : Action}
    (record : Int → Context → α) :
    Writes (do
      let id ← mintId
      let context ← read
      statement action (Statement.insert (record id context))
      pure id) :=
  writes_mintId.bind fun _ => keeps_read.writes.bind fun _ => (writes_insert _).bind fun _ =>
    (keeps_pure _).writes

end Operation

open Operation

namespace Mailbox

theorem writes_send (target body : String) (sender : Option String) :
    Writes (send target body sender) :=
  writes_connect_transaction (writes_insertNext _) fun _ => writes_report _ _

theorem writes_claimOldest (name : String) : Writes (claimOldest name) := by
  apply (keeps_statement (Statement.looks_select Message _)).writes.bind
  intro oldest
  cases oldest with
  | nil => exact (keeps_pure _).writes
  | cons e _ =>
    apply keeps_read.writes.bind
    intro _
    apply writes_update.bind
    intro count
    split
    · exact (keeps_pure _).writes
    · exact (keeps_pure _).writes

theorem writes_claimNext (name : String) (passes : Nat) : Writes (claimNext name passes) := by
  induction passes with
  | zero => exact (keeps_pure none).writes
  | succ passes ih =>
    apply (writes_claimOldest name).transaction.bind
    intro attempt
    cases attempt with
    | claimed message => exact writes_report _ _
    | empty => exact (keeps_pure none).writes
    | lost id => exact (keeps_notify _).writes.bind fun _ => ih

theorem keeps_passes (name : String) : Keeps (passes name) :=
  keeps_get.bind fun _ => keeps_pure _

theorem writes_tryReceive (name : String) : Writes (tryReceive name) :=
  writes_connect_bind ((keeps_passes name).writes.bind fun _ => writes_claimNext name _)

theorem writes_claimAll (name : String) : Writes (claimAll name) := by
  apply (keeps_statement (Statement.looks_select Message _)).writes.bind
  intro entries
  cases entries.getLast? with
  | none => exact (keeps_pure _).writes
  | some newest =>
    apply keeps_read.writes.bind
    intro _
    apply writes_update.bind
    intro count
    split
    · exact (keeps_pure _).writes
    · exact (keeps_pure _).writes

theorem writes_drainNext (name : String) (passes : Nat) : Writes (drainNext name passes) := by
  induction passes with
  | zero => exact (keeps_pure []).writes
  | succ passes ih =>
    apply ((writes_claimAll name).transactionIf _).bind
    intro messages
    cases messages with
    | some messages => exact writes_report _ _
    | none => exact (keeps_notify _).writes.bind fun _ => ih

theorem writes_drain (name : String) : Writes (drain name) :=
  writes_connect_bind ((keeps_passes name).writes.bind fun _ => writes_drainNext name _)

end Mailbox

namespace Registry

theorem writes_append (name : String) (pid : List (Entry Registration) → Cell)
    (status : AgentStatus) : Writes (append name pid status) := by
  apply writes_mintId.bind
  intro _
  apply keeps_read.writes.bind
  intro _
  refine Writes.bind (writes_statement ?_) fun _ => (keeps_pure _).writes
  intro R hR store a after h
  obtain ⟨found, _, hget, hinsert⟩ := Statement.run_bind_ok.1 h
  cases hget
  obtain ⟨rows, placed, -, -, rfl⟩ := Statement.insertEntry_ok hinsert
  exact hR.replace _ _

theorem writes_register (name : String) (pid : Option Int) : Writes (register name pid) :=
  writes_connect_transaction (writes_append _ _ _) fun _ => writes_report _ _

theorem writes_recordStatus (name : String) (status : AgentStatus) :
    Writes (recordStatus name status) :=
  writes_connect_bind (writes_append _ _ _).transaction

theorem writes_unregister (name : String) : Writes (unregister name) :=
  (writes_recordStatus name .exited).bind fun _ => writes_report _ _

theorem writes_appendAll (names : List String) :
    Writes (names.forM fun name => discard (appendStatus name .cleaned)) := by
  induction names with
  | nil => exact (keeps_pure ()).writes
  | cons name names ih => exact ((writes_append name _ _).map _).bind fun _ => ih

theorem writes_cleanup (who : Option String) : Writes (cleanup who) := by
  refine writes_connect_transaction ?_ fun _ => writes_report _ _
  cases who with
  | none =>
    apply (keeps_statement (Statement.looks_rows Registration _)).writes.bind
    intro _
    exact (writes_appendAll _).bind fun _ => (keeps_pure _).writes
  | some name => exact ((writes_append name _ _).map _).bind fun _ => (keeps_pure _).writes

end Registry

namespace EventLog

theorem writes_log (kind tag body agent : String) : Writes (log kind tag body agent) :=
  writes_connect_transaction (writes_insertNext _) fun _ => writes_report _ _

theorem writes_setPipelineState (state agent : String) : Writes (setPipelineState state agent) := by
  unfold setPipelineState
  split
  · exact (keeps_throw _).writes
  · exact writes_log _ _ _ _

end EventLog

namespace TaskQueue

theorem writes_enqueue (new : NewTask) : Writes (enqueue new) := by
  unfold enqueue
  cases new.dependsOn with
  | none => exact writes_insertNext fun id context => Task.queued id context.now new
  | some dependency =>
    apply (keeps_load dependency).writes.bind
    intro found
    cases found with
    | none => exact (keeps_throw _).writes
    | some _ => exact writes_insertNext fun id context => Task.queued id context.now new

theorem writes_submit (new : NewTask) : Writes (submit new) :=
  writes_connect_transaction (writes_enqueue new) fun _ => writes_report _ _

theorem writes_advance {id : Int} {expected : TaskStatus} {columns : List String}
    {change : Task → Task} {keepsId : ∀ t, (change t).id = t.id} :
    Writes (advance id expected columns change keepsId) := by
  apply writes_update.bind
  intro count
  split
  · apply (keeps_load id).writes.bind
    intro found
    cases found with
    | none => exact (keeps_throw _).writes
    | some _ => exact (keeps_throw _).writes
  · exact (keeps_pure ()).writes

theorem writes_move {body : Context → Operation Unit} {notice : Notice}
    (h : ∀ context, Writes (body context)) :
    Writes (do
      connect
      let context ← read
      transaction (body context)
      notify notice) :=
  writes_connect_bind (keeps_read.writes.bind fun context =>
    (h context).transaction.bind fun _ => (keeps_notify _).writes)

theorem writes_route (id : Int) (agentFile model : String) : Writes (route id agentFile model) := by
  refine writes_connect_bind (Writes.transaction (writes_update.bind fun count => ?_))
  split
  · exact (keeps_throw _).writes
  · exact (keeps_pure ()).writes

end TaskQueue

namespace Call

theorem writes_operation (call : Call) : Writes call.operation := by
  cases call with
  | send target body sender => exact (Mailbox.writes_send target body sender).map _
  | tryReceive name => exact (Mailbox.writes_tryReceive name).map _
  | drain name => exact (Mailbox.writes_drain name).map _
  | register name pid => exact (Registry.writes_register name pid).map _
  | recordStatus name newest => exact (Registry.writes_recordStatus name newest).map _
  | unregister name => exact (Registry.writes_unregister name).map _
  | cleanup who => exact (Registry.writes_cleanup who).map _
  | log kind tag body agent => exact (EventLog.writes_log kind tag body agent).map _
  | setPipelineState state agent => exact (EventLog.writes_setPipelineState state agent).map _
  | submit new => exact (TaskQueue.writes_submit new).map _
  | claim dispatcher id => exact (TaskQueue.writes_move fun _ => TaskQueue.writes_advance).map _
  | complete id output => exact (TaskQueue.writes_move fun _ => TaskQueue.writes_advance).map _
  | fail id error => exact (TaskQueue.writes_move fun _ => TaskQueue.writes_advance).map _
  | route id agentFile model => exact (TaskQueue.writes_route id agentFile model).map _
  | _ => exact (settles_operation rfl).writes

end Call

/-- Between the stores before and after attempts there is every relation that goes along with what is
written. -/
theorem Writing.after {R : Store → Store → Prop} (hR : Writing R) (store : Store)
    (attempts : List Attempt) : R store (store.after attempts) := by
  induction attempts generalizing store with
  | nil => exact hR.refl store
  | cons attempt later ih =>
    have hattempt : R store (attempt.after store) :=
      attempt.call.writes_operation R hR attempt.context { attempt.run with store }
    exact hR.trans hattempt (ih _)

end Switchboard
