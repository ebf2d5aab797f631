import Switchboard.Proofs.Call
import Switchboard.Proofs.Outcome

namespace Switchboard

/-- The notice tells that an attempt to take the lock has been put off. -/
def Notice.tellsBusy : Notice → Bool
  | .databaseBusy .. => true
  | _ => false

/-- The engine has not done what it was to do. All other failures are refusals of the operations. -/
def Failure.ofEngine : Failure → Bool
  | .statement .. | .lockedOut .. => true
  | _ => false

namespace Operation

variable {α β : Type} {P : Failure → Prop}

/-- The operation is put together from these parts, and throws only such failures. It does not look at
the time that has passed, nor at what has been told, and only the transactions in it wait for the
lock. -/
inductive Composed (P : Failure → Prop) : {α : Type} → Operation α → Prop where
  | pure {α : Type} (a : α) : Composed P (pure a : Operation α)
  | throw {α : Type} {failure : Failure} (h : P failure) :
    Composed P (throw failure : Operation α)
  | read : Composed P (read : Operation Context)
  | look {α : Type} (next : Store → Bool → Operation α)
      (h : ∀ store ready, Composed P (next store ready)) :
    Composed P (get >>= fun run => next run.store run.ready)
  | noteReady : Composed P (modify fun run => { run with ready := true } : Operation PUnit)
  | notify {notice : Notice} (h : notice.tellsBusy = false) : Composed P (notify notice)
  | statement {α : Type} (action : Action) (s : Statement α) : Composed P (statement action s)
  | bind {α β : Type} {op : Operation α} {next : α → Operation β} (h : Composed P op)
      (hnext : ∀ a, Composed P (next a)) :
    Composed P (op >>= next)
  | transactionIf {α : Type} (keep : α → Bool) {body : Operation α} (h : Composed P body) :
    Composed P (transactionIf keep body)

namespace Composed

theorem map {op : Operation α} (h : Composed P op) (f : α → β) : Composed P (f <$> op) := by
  rw [map_eq_pure_bind]
  exact h.bind fun a => .pure _

theorem liftM (hP : ∀ failure, P failure) (result : Except Failure α) :
    Composed P (liftM result : Operation α) := by
  cases result with
  | ok a => exact .pure a
  | error failure => exact .throw (hP failure)

theorem transaction {body : Operation α} (h : Composed P body) : Composed P (transaction body) :=
  h.transactionIf _

theorem report {notice : Notice} (h : notice.tellsBusy = false) (a : α) :
    Composed P (do Operation.notify notice; Pure.pure a) :=
  (notify h).bind fun _ => .pure a

end Composed

section Failing

variable {context : Context} {run left : Run} {failure : Failure}

theorem statement_failure {action : Action} {s : Statement α}
    (h : perform (statement action s) context run = (.error failure, left)) :
    failure.ofEngine := by
  obtain hs | ⟨result, middle, -, hnext⟩ := perform_bind_error.1 h
  · exact absurd hs perform_carryOut_ne_error
  · cases result <;> cases hnext
    rfl

theorem takeLock_failure {attempt : UInt32} {backoff : Duration} {retries : Nat}
    (h : perform (takeLock attempt backoff retries) context run = (.error failure, left)) :
    failure.ofEngine := by
  induction retries generalizing attempt backoff run with
  | zero =>
    obtain hlock | ⟨result, middle, -, hnext⟩ := perform_bind_error.1 h
    · exact absurd hlock perform_carryOut_ne_error
    · cases result with
      | ok _ => cases hnext
      | error cause =>
        dsimp only at hnext
        split at hnext <;> cases hnext <;> rfl
  | succ retries ih =>
    obtain hlock | ⟨result, middle, -, hnext⟩ := perform_bind_error.1 h
    · exact absurd hlock perform_carryOut_ne_error
    · cases result with
      | ok _ => cases hnext
      | error cause =>
        dsimp only at hnext
        split at hnext
        · exact ih hnext
        · cases hnext
          rfl

theorem commit_failure {before : Store}
    (h : perform (commit before) context run = (.error failure, left)) : failure.ofEngine := by
  obtain hlock | ⟨result, middle, -, hnext⟩ := perform_bind_error.1 h
  · exact absurd hlock perform_carryOut_ne_error
  · cases result <;> cases hnext
    rfl

theorem transactionIf_failure {keep : α → Bool} {body : Operation α}
    (h : perform (transactionIf keep body) context run = (.error failure, left)) :
    failure.ofEngine ∨ ∃ started done, perform body context started = (.error failure, done) := by
  obtain hbegin | ⟨_, started, -, h₁⟩ := perform_bind_error.1 h
  · exact .inl (takeLock_failure hbegin)
  obtain hget | ⟨_, _, hget, h₂⟩ := perform_bind_error.1 h₁
  · cases hget
  cases hget
  obtain hbody | ⟨result, done, hbody, h₃⟩ := perform_bind_error.1 h₂
  · cases hbody
  rw [perform_outcome] at hbody
  obtain ⟨hresult, hdone⟩ := Prod.mk.inj hbody
  cases result with
  | ok a =>
    dsimp only at h₃
    split at h₃
    · obtain hcommit | ⟨_, _, -, hpure⟩ := perform_bind_error.1 h₃
      · exact .inl (commit_failure hcommit)
      · cases hpure
    · obtain ⟨_, hundo, -⟩ := perform_rollback started.store none context done
      obtain hrollback | ⟨_, _, -, hpure⟩ := perform_bind_error.1 h₃
      · cases hundo.symm.trans hrollback
      · cases hpure
  | error reason =>
    obtain ⟨_, hundo, -⟩ := perform_rollback started.store (some reason) context done
    obtain hrollback | ⟨_, undone, hrollback, hthrow⟩ := perform_bind_error.1 h₃
    · cases hundo.symm.trans hrollback
    · cases hthrow
      exact .inr ⟨started, done, Prod.ext (Except.ok.inj hresult) hdone⟩

theorem Composed.fails {op : Operation α} (h : Composed P op)
    (hop : perform op context run = (.error failure, left)) : failure.ofEngine ∨ P failure := by
  induction h generalizing run left with
  | pure | read | noteReady | notify => cases hop
  | throw h =>
    cases hop
    exact .inr h
  | look next _ ih =>
    obtain hget | ⟨_, _, hget, hnext⟩ := perform_bind_error.1 hop
    · cases hget
    · cases hget
      exact ih _ _ hnext
  | statement => exact .inl (statement_failure hop)
  | bind _ _ ih ihnext =>
    obtain hfirst | ⟨a, middle, -, hnext⟩ := perform_bind_error.1 hop
    · exact ih hfirst
    · exact ihnext a hnext
  | transactionIf keep _ ih =>
    obtain hengine | ⟨started, done, hbody⟩ := transactionIf_failure hop
    · exact .inl hengine
    · exact ih hbody

end Failing

theorem composed_openStore : Composed P openStore :=
  Composed.read.bind fun _ => .statement _ _

theorem composed_createTable (name : TableName) : Composed P (createTable name) := by
  refine (Composed.statement _ _).bind fun _ => ?_
  split
  · exact .pure _
  · exact .statement _ _

theorem composed_createSchema : Composed P createSchema := by
  refine Composed.bind (Composed.transaction ?_) fun _ => .noteReady
  generalize TableName.all = names
  induction names with
  | nil => exact .pure _
  | cons name names ih => exact (composed_createTable name).bind fun _ => ih

theorem composed_inspectSchema : Composed P inspectSchema := by
  refine Composed.bind ?_ fun found => .pure _
  generalize TableName.all = names
  induction names with
  | nil => exact .pure []
  | cons name names ih =>
    rw [List.mapM_cons]
    exact (Composed.statement _ _).bind fun _ => ih.bind fun _ => .pure _

theorem composed_completeSchema (ready : Bool) : Composed P (unless ready do
    if ← inspectSchema then modify fun run => { run with ready := true }
    else createSchema) := by
  split
  · exact .pure _
  · refine composed_inspectSchema.bind fun complete => ?_
    split
    · exact .noteReady
    · exact composed_createSchema

theorem composed_connect : Composed P connect :=
  composed_openStore.bind fun _ => Composed.look _ fun _ => composed_completeSchema

theorem composed_init : Composed P init :=
  composed_openStore.bind fun _ => composed_createSchema.bind fun _ =>
    Composed.read.bind fun _ => .notify rfl

theorem composed_look {action : Action} {s : Statement α} {next : α → Operation β}
    (h : ∀ a, Composed P (next a)) : Composed P (connect >>= fun _ => statement action s >>= next) :=
  composed_connect.bind fun _ => (Composed.statement _ _).bind h

theorem composed_connect_transaction {body : Operation α} {next : α → Operation β}
    (h : Composed P body) (hnext : ∀ a, Composed P (next a)) :
    Composed P (do
      connect
      let a ← transaction body
      next a) :=
  composed_connect.bind fun _ => h.transaction.bind hnext

theorem composed_insertNext [Stored α] (action : Action) (record : Int → Context → α) :
    Composed P (do
      let id ← mintId
      let context ← read
      statement action (Statement.insert (record id context))
      pure id) :=
  (Composed.statement _ _).bind fun _ => Composed.read.bind fun _ =>
    (Composed.statement _ _).bind fun _ => .pure _

end Operation

open Operation

variable {P : Failure → Prop}

namespace Mailbox

theorem composed_claimOldest (name : String) : Composed P (claimOldest name) := by
  refine (Composed.statement _ _).bind fun oldest => ?_
  cases oldest with
  | nil => exact .pure _
  | cons e _ =>
    refine Composed.read.bind fun _ => (Composed.statement _ _).bind fun count => ?_
    split <;> exact .pure _

theorem composed_claimNext (name : String) (passes : Nat) : Composed P (claimNext name passes) := by
  induction passes with
  | zero => exact .pure none
  | succ passes ih =>
    refine (composed_claimOldest name).transaction.bind fun attempt => ?_
    cases attempt with
    | claimed message => exact .report rfl _
    | empty => exact .pure none
    | lost id => exact (Composed.notify rfl).bind fun _ => ih

theorem composed_passes (name : String) : Composed P (passes name) :=
  Composed.look (fun store _ => pure ((waiting name (store.tables.rows Message)).length + 1))
    fun _ _ => .pure _

theorem composed_tryReceive (name : String) : Composed P (tryReceive name) :=
  composed_connect.bind fun _ => (composed_passes name).bind fun _ => composed_claimNext name _

theorem composed_claimAll (name : String) : Composed P (claimAll name) := by
  refine (Composed.statement _ _).bind fun entries => ?_
  cases entries.getLast? with
  | none => exact .pure _
  | some newest =>
    refine Composed.read.bind fun _ => (Composed.statement _ _).bind fun count => ?_
    split <;> exact .pure _

theorem composed_drainNext (name : String) (passes : Nat) : Composed P (drainNext name passes) := by
  induction passes with
  | zero => exact .pure []
  | succ passes ih =>
    refine ((composed_claimAll name).transactionIf _).bind fun messages => ?_
    cases messages with
    | some messages => exact .report rfl _
    | none => exact (Composed.notify rfl).bind fun _ => ih

theorem composed_drain (name : String) : Composed P (drain name) :=
  composed_connect.bind fun _ => (composed_passes name).bind fun _ => composed_drainNext name _

end Mailbox

namespace Registry

theorem composed_append (name : String) (pid : List (Entry Registration) → Cell)
    (status : AgentStatus) : Composed P (append name pid status) :=
  (Composed.statement _ _).bind fun _ => Composed.read.bind fun _ =>
    (Composed.statement _ _).bind fun _ => .pure _

theorem composed_recordStatus (name : String) (status : AgentStatus) :
    Composed P (recordStatus name status) :=
  composed_connect.bind fun _ => (composed_append _ _ _).transaction

theorem composed_cleanup (who : Option String) : Composed P (cleanup who) := by
  refine composed_connect_transaction ?_ fun _ => .report rfl _
  cases who with
  | some name => exact ((composed_append name _ _).map _).bind fun _ => .pure _
  | none =>
    refine (Composed.statement _ _).bind fun rows => Composed.bind ?_ fun _ => .pure _
    generalize (present rows).map (·.record.name) = names
    induction names with
    | nil => exact .pure _
    | cons name names ih => exact ((composed_append name _ _).map _).bind fun _ => ih

theorem composed_status (hP : ∀ failure, P failure) (name : String) :
    Composed P (status name) := by
  refine composed_look fun rows => ?_
  cases newest? name rows with
  | none => exact .pure none
  | some e =>
    dsimp only
    split
    · exact .throw (hP _)
    · exact .pure _

end Registry

namespace EventLog

theorem composed_log (kind tag body agent : String) : Composed P (log kind tag body agent) :=
  composed_connect_transaction (composed_insertNext _ _) fun _ => .report rfl _

theorem composed_setPipelineState {state agent : String}
    (hP : Text.isBlankText state → P .blankPipelineState) :
    Composed P (setPipelineState state agent) := by
  unfold setPipelineState
  split
  · exact .throw (hP ‹_›)
  · exact composed_log _ _ _ _

theorem composed_latest (filter : EventFilter) : Composed P (latest filter) :=
  Composed.bind (composed_look fun _ => .pure _) fun _ => .pure _

theorem composed_pipelineState : Composed P pipelineState := by
  refine (composed_latest _).bind fun event => ?_
  cases event <;> exact .pure _

end EventLog

namespace TaskQueue

section Refusing

variable (hP : ∀ failure, P failure)

include hP

theorem composed_readFirst (entries : List (Entry Task)) : Composed P (readFirst entries) := by
  cases entries with
  | nil => exact .pure none
  | cons e _ => exact (Composed.liftM hP _).map some

theorem composed_load (id : Int) : Composed P (load id) :=
  (Composed.statement _ _).bind (composed_readFirst hP)

theorem composed_enqueue (new : NewTask) : Composed P (enqueue new) := by
  have hqueue : Composed P _ :=
    composed_insertNext .submitTask fun id context => Task.queued id context.now new
  unfold enqueue
  cases new.dependsOn with
  | none => exact hqueue
  | some dependency =>
    refine (composed_load hP dependency).bind fun found => ?_
    cases found with
    | none => exact (Composed.throw (hP _)).bind fun _ => hqueue
    | some _ => exact hqueue

theorem composed_advance (id : Int) (expected : TaskStatus) (columns : List String)
    (change : Task → Task) (keepsId : ∀ t, (change t).id = t.id) :
    Composed P (advance id expected columns change keepsId) := by
  refine (Composed.statement _ _).bind fun count => ?_
  split
  · refine (composed_load hP id).bind fun found => ?_
    cases found <;> exact .throw (hP _)
  · exact .pure _

theorem composed_route (id : Int) (agentFile model : String) :
    Composed P (route id agentFile model) := by
  refine composed_connect.bind fun _ => Composed.transaction
    ((Composed.statement _ _).bind fun count => ?_)
  split
  · exact .throw (hP _)
  · exact .pure _

end Refusing

theorem composed_move {body : Context → Operation Unit} {notice : Notice}
    (hnotice : notice.tellsBusy = false) (h : ∀ context, Composed P (body context)) :
    Composed P (do
      connect
      let context ← read
      transaction (body context)
      Operation.notify notice) :=
  composed_connect.bind fun _ => Composed.read.bind fun context =>
    (h context).transaction.bind fun _ => .notify hnotice

end TaskQueue

theorem Call.composed_operation (call : Call) : Composed (fun _ => True) call.operation := by
  have hP (failure : Failure) : True := trivial
  cases call with
  | connect => exact composed_connect.map _
  | init => exact composed_init.map _
  | send target body sender =>
    exact (composed_connect_transaction (composed_insertNext _ _) fun _ => .report rfl _).map _
  | tryReceive name => exact (Mailbox.composed_tryReceive name).map _
  | drain name => exact (Mailbox.composed_drain name).map _
  | check name => exact (composed_look fun _ => .pure _).map _
  | history name => exact (composed_look fun _ => .pure _).map _
  | register name pid =>
    exact (composed_connect_transaction (Registry.composed_append _ _ _) fun _ =>
      .report rfl _).map _
  | recordStatus name newest => exact (Registry.composed_recordStatus name newest).map _
  | unregister name =>
    exact ((Registry.composed_recordStatus name .exited).bind fun _ => .report rfl _).map _
  | cleanup who => exact (Registry.composed_cleanup who).map _
  | roster => exact (composed_look fun _ => Composed.liftM hP _).map _
  | status name => exact (Registry.composed_status hP name).map _
  | log kind tag body agent => exact (EventLog.composed_log kind tag body agent).map _
  | setPipelineState state agent => exact (EventLog.composed_setPipelineState fun _ => trivial).map _
  | tail filter => exact (composed_look fun _ => .pure _).map _
  | query filter => exact (composed_look fun _ => .pure _).map _
  | latest filter => exact (EventLog.composed_latest filter).map _
  | pipelineState => exact EventLog.composed_pipelineState.map _
  | submit new =>
    exact (composed_connect_transaction (TaskQueue.composed_enqueue hP new) fun _ => .report rfl _).map _
  | claim dispatcher id =>
    exact (TaskQueue.composed_move rfl fun _ => TaskQueue.composed_advance hP _ _ _ _ _).map _
  | complete id output =>
    exact (TaskQueue.composed_move rfl fun _ => TaskQueue.composed_advance hP _ _ _ _ _).map _
  | fail id error =>
    exact (TaskQueue.composed_move rfl fun _ => TaskQueue.composed_advance hP _ _ _ _ _).map _
  | route id agentFile model => exact (TaskQueue.composed_route hP id agentFile model).map _
  | find id => exact (composed_connect.bind fun _ => TaskQueue.composed_load hP id).map _
  | list wanted taskType => exact (composed_look fun _ => Composed.liftM hP _).map _
  | nextRunnable => exact (composed_look (TaskQueue.composed_readFirst hP)).map _

end Switchboard
