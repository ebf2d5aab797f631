import Switchboard.Proofs.Writing

namespace Switchboard

namespace Tables

variable {first second third : Tables} {m n : Nat}

/-- So many ids are given out from one state of the tables to the next, none of them left out. -/
structure Mints (n : Nat) (before after : Tables) : Prop where
  lastId : after.lastId = before.lastId + n
  minted : after.minted =
    ((List.range n).map fun k : Nat => before.lastId + 1 + k).reverse ++ before.minted

theorem SameContent.mints (h : second.SameContent first) : Mints 0 first second :=
  ⟨by simpa using h.lastId, h.minted⟩

theorem Mints.trans (h : Mints m first second) (h' : Mints n second third) :
    Mints (m + n) first third := by
  constructor
  · rw [h'.lastId, h.lastId]
    omega
  · rw [h'.minted, h.minted, h.lastId, List.range_add, List.map_append, List.reverse_append,
      List.append_assoc, List.map_map]
    congr 2
    apply List.map_congr_left
    intro k _
    simp only [Function.comp_apply]
    omega

theorem mints_setTable {α : Type} [Stored α] [Recorded α] (table : Table (Entry α))
    (tables : Tables) : Mints 0 tables (Stored.setTable table tables) := by
  constructor
  · simp [lastId, Recorded.sequence_setTable, Recorded.start_setTable]
  · simp [minted, Recorded.sequence_setTable]

theorem mints_mint {tables : Tables} {sequence next : Sequence} {id : Int}
    (hsequence : tables.sequence = some sequence) (hnext : sequence.next? = some (id, next)) :
    id = tables.lastId + 1 ∧ Mints 1 tables { tables with sequence := some next } := by
  unfold Sequence.next? at hnext
  split at hnext
  · cases hnext
    refine ⟨by simp [lastId, hsequence], ?_, ?_⟩
    · simp [lastId, hsequence]
    · simp [minted, lastId, hsequence]
  · cases hnext

theorem writing_mints :
    Writing fun before after => ∃ n, Mints n before.tables after.tables where
  refl store := ⟨0, (SameContent.refl store.tables).mints⟩
  trans := by
    rintro first second third ⟨m, h⟩ ⟨n, h'⟩
    exact ⟨m + n, h.trans h'⟩
  complete store := ⟨0, store.tables.completed_sameContent.mints⟩
  mint hsequence hnext := ⟨1, (mints_mint hsequence hnext).2⟩
  replace store rows := ⟨0, mints_setTable _ _⟩

theorem writing_bounded : Writing fun before after =>
    before.tables.lastId ≤ Sequence.maxId → after.tables.lastId ≤ Sequence.maxId where
  refl _ := id
  trans h h' := h' ∘ h
  complete store h := by rwa [store.tables.completed_sameContent.lastId]
  mint {store sequence next id} hsequence hnext _ := by
    obtain ⟨rfl, hmints⟩ := mints_mint hsequence hnext
    unfold Sequence.next? at hnext
    split at hnext
    · rename_i hleft
      have hlast : sequence.last = store.tables.lastId := by simp [lastId, hsequence]
      rw [hmints.lastId, ← hlast]
      omega
    · cases hnext
  replace store rows h := by
    rw [(mints_setTable _ _).lastId]
    omega

end Tables

theorem Store.lastId_le {store : Store} (h : store.tables = {}) (attempts : List Attempt) :
    (store.after attempts).tables.lastId ≤ Sequence.maxId :=
  Tables.writing_bounded.after store attempts (by rw [h]; decide)

namespace Operation

variable {α β : Type} {context : Context} {run left : Run}

def AnswersNext (op : Operation Int) : Prop :=
  ∀ (context : Context) (run left : Run) (id : Int),
    perform op context run = (.ok id, left) → id = run.store.tables.lastId + 1

theorem Settles.bind_answersNext {op : Operation α} {next : α → Operation Int} (h : Settles op)
    (hnext : ∀ a, AnswersNext (next a)) : AnswersNext (op >>= next) := by
  intro context run left id hop
  obtain ⟨a, middle, hfirst, hrest⟩ := perform_bind_ok.1 hop
  rw [← (h.settled hfirst).sameContent.lastId]
  exact hnext a context middle left id hrest

theorem AnswersNext.transaction {body : Operation Int} (h : AnswersNext body) :
    AnswersNext (transaction body) := by
  intro context run left id hop
  obtain ⟨started, done, hstarted, hbody, -⟩ := perform_transaction_ok hop
  rw [← hstarted]
  exact h context started done id hbody

theorem AnswersNext.report {op : Operation Int} (h : AnswersNext op) (notice : Int → Notice) :
    AnswersNext (do let id ← op; notify (notice id); pure id) := by
  intro context run left id hop
  obtain ⟨answer, middle, hfirst, hrest⟩ := perform_bind_ok.1 hop
  cases hrest
  exact h context run middle _ hfirst

def Returns (op : Operation α) (a : α) : Prop :=
  ∀ (context : Context) (run left : Run) (b : α), perform op context run = (.ok b, left) → b = a

theorem returns_pure (a : α) : Returns (pure a : Operation α) a := by
  intro context run left b hop
  cases hop
  rfl

theorem Returns.bind {op : Operation α} {next : α → Operation β} {b : β}
    (h : ∀ a, Returns (next a) b) : Returns (op >>= next) b := by
  intro context run left c hop
  obtain ⟨a, middle, -, hrest⟩ := perform_bind_ok.1 hop
  exact h a context middle left c hrest

theorem answersNext_mintId_bind {next : Int → Operation Int} (h : ∀ id, Returns (next id) id) :
    AnswersNext (mintId >>= next) := by
  intro context run left id hop
  obtain ⟨minted, middle, hmint, hrest⟩ := perform_bind_ok.1 hop
  obtain ⟨store, hstore, rfl⟩ := perform_statement_ok hmint
  obtain ⟨sequence, next, hsequence, hnext, -⟩ := Statement.mint_ok hstore
  rw [h minted context _ left id hrest]
  exact (Tables.mints_mint hsequence hnext).1

theorem answersNext_insertNext {α : Type} [Stored α] {action : Action}
    (record : Int → Context → α) :
    AnswersNext (do
      let id ← mintId
      let context ← read
      statement action (Statement.insert (record id context))
      pure id) :=
  answersNext_mintId_bind fun _ => .bind fun _ => .bind fun _ => returns_pure _

end Operation

open Operation

namespace Mailbox

theorem answersNext_send (target body : String) (sender : Option String) :
    AnswersNext (send target body sender) :=
  settles_connect.bind_answersNext fun _ => (answersNext_insertNext _).transaction.report _

end Mailbox

namespace Registry

theorem answersNext_append (name : String) (pid : List (Entry Registration) → Cell)
    (status : AgentStatus) : AnswersNext (append name pid status) :=
  answersNext_mintId_bind fun _ => .bind fun _ => .bind fun _ => returns_pure _

theorem answersNext_register (name : String) (pid : Option Int) :
    AnswersNext (register name pid) :=
  settles_connect.bind_answersNext fun _ =>
    (answersNext_append _ _ _).transaction.report fun _ => .agentRegistered name pid

theorem answersNext_recordStatus (name : String) (status : AgentStatus) :
    AnswersNext (recordStatus name status) :=
  settles_connect.bind_answersNext fun _ => (answersNext_append _ _ _).transaction

theorem answersNext_unregister (name : String) : AnswersNext (unregister name) :=
  (answersNext_recordStatus name .exited).report fun _ => .agentUnregistered name

end Registry

namespace EventLog

theorem answersNext_log (kind tag body agent : String) : AnswersNext (log kind tag body agent) :=
  settles_connect.bind_answersNext fun _ =>
    (answersNext_insertNext _).transaction.report fun id => .eventLogged id kind tag

theorem answersNext_setPipelineState (state agent : String) :
    AnswersNext (setPipelineState state agent) := by
  unfold setPipelineState
  split
  · intro context run left id hop
    cases hop
  · exact answersNext_log _ _ _ _

end EventLog

namespace TaskQueue

theorem answersNext_enqueue (new : NewTask) : AnswersNext (enqueue new) := by
  have hinsert : AnswersNext (do
      let id ← mintId
      let context ← read
      statement .submitTask (Statement.insert (Task.queued id context.now new))
      pure id) := answersNext_insertNext fun id context => Task.queued id context.now new
  unfold enqueue
  cases new.dependsOn with
  | none => exact hinsert
  | some dependency =>
    apply (keeps_load dependency).settles.bind_answersNext
    intro found
    cases found with
    | none =>
      intro context run left id hop
      cases hop
    | some _ => exact hinsert

theorem answersNext_submit (new : NewTask) : AnswersNext (submit new) :=
  settles_connect.bind_answersNext fun _ =>
    (answersNext_enqueue new).transaction.report fun id =>
      .taskSubmitted id new.taskType new.priority new.dependsOn

end TaskQueue

namespace Call

theorem answersNext_operation {call : Call} {context : Context} {run left : Run} {id : Int}
    (h : perform call.operation context run = (.ok (.id id), left)) :
    id = run.store.tables.lastId + 1 := by
  have hmap : ∀ {op : Operation Int}, AnswersNext op →
      perform (Answer.id <$> op) context run = (.ok (.id id), left) →
      id = run.store.tables.lastId + 1 := by
    intro op hop hperform
    obtain ⟨_, hid, ⟨⟩⟩ := perform_map_ok.1 hperform
    exact hop context run left id hid
  cases call with
  | send target body sender => exact hmap (Mailbox.answersNext_send target body sender) h
  | register name pid => exact hmap (Registry.answersNext_register name pid) h
  | recordStatus name newest => exact hmap (Registry.answersNext_recordStatus name newest) h
  | unregister name => exact hmap (Registry.answersNext_unregister name) h
  | log kind tag body agent => exact hmap (EventLog.answersNext_log kind tag body agent) h
  | setPipelineState state agent =>
    exact hmap (EventLog.answersNext_setPipelineState state agent) h
  | submit new => exact hmap (TaskQueue.answersNext_submit new) h
  | _ =>
    obtain ⟨_, -, hanswer⟩ := perform_map_ok.1 h
    cases hanswer

end Call

end Switchboard
