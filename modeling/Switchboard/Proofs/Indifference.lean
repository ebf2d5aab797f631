import Switchboard.Handle
import Switchboard.Proofs.Aside
import Switchboard.Proofs.Availability
import Switchboard.Proofs.Directory
import Switchboard.Proofs.Reception

namespace Switchboard

namespace Store

/-- Missing tables can be made: the file can be written, nobody holds the lock, and none of the
tables is of somebody else's making. -/
def canBeCompleted (store : Store) : Bool :=
  !store.locked && !store.readOnly && TableName.all.all (!store.tables.isForeign ·)

/-- The store with the tables that it lacks, if they can be made. -/
def furnished (store : Store) : Store :=
  if store.canBeCompleted then { store with tables := store.tables.completed } else store

variable {store : Store}

theorem canBeCompleted_iff :
    store.canBeCompleted ↔
      store.locked = false ∧ store.readOnly = false ∧ store.tables.Own := by
  have hown : TableName.all.all (!store.tables.isForeign ·) = true ↔ store.tables.Own := by
    rw [List.all_eq_true]
    refine ⟨fun h name => ?_, fun h name _ => by simp [h name]⟩
    simpa using h name name.mem_all
  rw [canBeCompleted, Bool.and_eq_true, Bool.and_eq_true, hown]
  simp [and_assoc]

theorem furnished_of_has (h : ∀ name, store.tables.has name) : store.furnished = store := by
  unfold furnished
  split
  · rw [Tables.completed_of_has h]
  · rfl

@[simp]
theorem furnished_furnished (store : Store) : store.furnished.furnished = store.furnished := by
  by_cases h : store.canBeCompleted
  · have hfurnished : store.furnished = { store with tables := store.tables.completed } := if_pos h
    rw [hfurnished]
    exact furnished_of_has store.tables.has_completed
  · have hfurnished : store.furnished = store := if_neg h
    rw [hfurnished, hfurnished]

theorem furnished_of_readOnly (store : Store) (h : store.readOnly) : store.furnished = store := by
  unfold furnished canBeCompleted
  rw [h]
  simp

@[simp]
theorem unopenable_furnished (store : Store) : store.furnished.unopenable = store.unopenable := by
  unfold furnished
  split <;> rfl

theorem furnished_sameContent (store : Store) :
    store.furnished.tables.SameContent store.tables := by
  unfold furnished
  split
  · exact store.tables.completed_sameContent
  · exact .refl _

end Store

def Run.Informed (run : Run) : Prop := run.ready → ∀ name, run.store.tables.has name

def Run.anew (run : Run) : Run := { run with store := run.store.furnished, ready := false }

theorem Statement.eq_false_of_failIf_ok {condition : Bool} {cause : EngineError}
    {store after : Store} (h : (failIf condition cause).run store = .ok ((), after)) :
    condition = false := by
  cases condition with
  | false => rfl
  | true => cases h

theorem Tables.has_of_isForeign {tables : Tables} {name : TableName}
    (h : tables.isForeign name = true) : tables.has name := by
  have hpresent {α : Type} [Row α] {table : Table α} (h : table.isForeign = true) :
      table.isPresent := by
    cases table with
    | foreign => rfl
    | _ => cases h
  cases name with
  | sequence => cases h
  | _ => exact hpresent h

theorem Tables.isForeign_ensure_of_isForeign {tables : Tables} {made name : TableName}
    (h : tables.isForeign name = true) : (tables.ensure made).isForeign name = true := by
  by_cases hmade : tables.has made
  · rw [Tables.ensure, if_pos hmade]
    exact h
  · have hne : made ≠ name := by
      rintro rfl
      exact hmade (Tables.has_of_isForeign h)
    rw [Tables.ensure, if_neg hmade]
    cases made <;> cases name <;> first | exact h | exact absurd rfl hne

namespace Operation

variable {context : Context} {run left : Run} {names : List TableName} {name : TableName}

theorem tryLock_ok {whenBusy : EngineError → Operation Unit}
    (h : perform (tryLock whenBusy) context run = (.ok (), left)) :
    (run.store.locked && !run.store.readOnly) = false ∨
      ∃ cause middle, middle.store = run.store ∧
        perform (whenBusy cause) context middle = (.ok (), left) := by
  obtain ⟨result, middle, hlock, hnext⟩ := perform_bind_ok.1 h
  cases result with
  | ok _ =>
    obtain ⟨store, hstore, -⟩ := perform_carryOut_ok hlock
    obtain ⟨found, _, hget, hfree⟩ := Statement.run_bind_ok.1 hstore
    cases hget
    exact .inl (Statement.eq_false_of_failIf_ok hfree)
  | error cause =>
    dsimp only at hnext
    split at hnext
    · exact .inr ⟨cause, middle, (keeps_carryOut Statement.looks_takeLock).store_eq hlock, hnext⟩
    · cases hnext

theorem takeLock_ok {attempt : UInt32} {backoff : Duration} {retries : Nat}
    (h : perform (takeLock attempt backoff retries) context run = (.ok (), left)) :
    (run.store.locked && !run.store.readOnly) = false := by
  induction retries generalizing attempt backoff run with
  | zero =>
    obtain hfree | ⟨cause, middle, -, hbusy⟩ := tryLock_ok h
    · exact hfree
    · obtain ⟨_, _, _, hthrow⟩ := perform_bind_ok.1 hbusy
      cases hthrow
  | succ retries ih =>
    obtain hfree | ⟨cause, middle, hstore, hbusy⟩ := tryLock_ok h
    · exact hfree
    · obtain ⟨_, _, htell, h₁⟩ := perform_bind_ok.1 hbusy
      cases htell
      obtain ⟨_, _, hrest, hagain⟩ := perform_bind_ok.1 h₁
      cases hrest
      -- A refused attempt leaves the store as it was, so the retry meets the same lock.
      have hfree := ih hagain
      rwa [← hstore]

theorem transaction_free {α : Type} {body : Operation α} {a : α}
    (h : perform (transaction body) context run = (.ok a, left)) :
    (run.store.locked && !run.store.readOnly) = false := by
  obtain ⟨_, started, hbegin, -⟩ := perform_bind_ok.1 h
  obtain ⟨_, _, hread, hlock⟩ := perform_bind_ok.1 hbegin
  cases hread
  exact takeLock_ok hlock

theorem createTable_has (hreadOnly : run.store.readOnly = true)
    (h : perform (createTable name) context run = (.ok (), left)) : run.store.tables.has name := by
  obtain ⟨_, middle, hcreate, -⟩ := perform_bind_ok.1 h
  obtain ⟨store, hstore, -⟩ := perform_statement_ok hcreate
  obtain ⟨found, _, hget, hmake⟩ := Statement.run_bind_ok.1 hstore
  cases hget
  split at hmake
  · assumption
  · obtain ⟨_, _, hwritable, -⟩ := Statement.run_bind_ok.1 hmake
    cases hreadOnly.symm.trans (Statement.eq_false_of_failIf_ok hwritable)

theorem createTables_has (hreadOnly : run.store.readOnly = true)
    (h : perform (names.forM createTable) context run = (.ok (), left)) :
    ∀ name ∈ names, run.store.tables.has name := by
  induction names generalizing run with
  | nil => exact nofun
  | cons made names ih =>
    obtain ⟨_, middle, hmade, hnames⟩ := perform_bind_ok.1 h
    have hhas := createTable_has hreadOnly hmade
    have hsame : middle.store = run.store := by
      rw [createTable_ok hmade, Tables.ensure, if_pos hhas]
    rw [← hsame] at hhas hreadOnly ⊢
    exact List.forall_mem_cons.2 ⟨hhas, ih hreadOnly hnames⟩

theorem createTable_own (h : perform (createTable name) context run = (.ok (), left)) :
    run.store.tables.isForeign name = false := by
  obtain ⟨_, middle, hcreate, hindex⟩ := perform_bind_ok.1 h
  obtain ⟨store, hstore, rfl⟩ := perform_statement_ok hcreate
  obtain rfl := statement_createTable_ok hstore
  split at hindex
  · rename_i hsequence
    rw [hsequence]
    rfl
  · rename_i htable
    obtain ⟨after, hafter, -⟩ := perform_statement_ok hindex
    obtain ⟨found, _, hget, hmake⟩ := Statement.run_bind_ok.1 hafter
    cases hget
    refine Bool.eq_false_iff.2 fun hforeign => ?_
    -- The table stays of somebody else's making, so its index cannot be made.
    rw [if_pos (Tables.isForeign_ensure_of_isForeign hforeign)] at hmake
    cases name <;> first | exact htable rfl | cases hmake

theorem createTables_own (h : perform (names.forM createTable) context run = (.ok (), left)) :
    ∀ name ∈ names, run.store.tables.isForeign name = false := by
  induction names generalizing run with
  | nil => exact nofun
  | cons made names ih =>
    obtain ⟨_, middle, hmade, hnames⟩ := perform_bind_ok.1 h
    refine List.forall_mem_cons.2 ⟨createTable_own hmade, fun name hname => ?_⟩
    have hlater := ih hnames name hname
    refine Bool.eq_false_iff.2 fun hforeign => ?_
    rw [createTable_ok hmade, Tables.isForeign_ensure_of_isForeign hforeign] at hlater
    cases hlater

theorem createSchema_furnishes (h : perform createSchema context run = (.ok (), left)) :
    left.store = run.store.furnished := by
  rw [createSchema_ok h]
  -- Without a gap nothing is written, and success tells nothing of the lock or of the file.
  by_cases hhas : ∀ name, run.store.tables.has name
  · rw [Store.furnished_of_has hhas, Tables.completed_of_has hhas]
  obtain ⟨_, middle, htransaction, -⟩ := perform_bind_ok.1 h
  have hfree := transaction_free htransaction
  obtain ⟨started, done, hstarted, hbody, -⟩ := perform_transaction_ok htransaction
  have hwritable : run.store.readOnly = false := by
    refine Bool.eq_false_iff.2 fun hreadOnly => ?_
    rw [← hstarted] at hhas hreadOnly
    exact hhas fun name => createTables_has hreadOnly hbody name name.mem_all
  have hown : run.store.tables.Own := by
    intro name
    rw [← hstarted]
    exact createTables_own hbody name name.mem_all
  have hunlocked : run.store.locked = false := by simpa [hwritable] using hfree
  exact (if_pos (Store.canBeCompleted_iff.2 ⟨hunlocked, hwritable, hown⟩)).symm

end Operation

namespace Operation

variable {α β : Type}

/-- The operation fails and leaves behind the store and the handle as they were. -/
def FailsIdly (op : Operation α) (context : Context) (run : Run) (failure : Failure) : Prop :=
  ∃ left, perform op context run = (.error failure, left) ∧ left.store = run.store ∧
    left.ready = run.ready

/-- The operation goes as it does for a new handle in a store without gaps: both open the store, find
every table and are the same from then on, or both fail at once for the same reason. -/
def Indifferent (op : Operation α) : Prop :=
  ∀ (context : Context) (run : Run), run.faults = [] → run.Informed →
    (perform op context run = perform op context run.anew ∧ run.store.unopenable = none ∧
        ∀ name, run.store.furnished.tables.has name) ∨
      ∃ failure, FailsIdly op context run failure ∧ FailsIdly op context run.anew failure

theorem indifferent_throw (failure : Failure) : Indifferent (throw failure : Operation α) :=
  fun _ run _ _ => .inr ⟨failure, ⟨run, rfl, rfl, rfl⟩, run.anew, rfl, rfl, rfl⟩

theorem FailsIdly.bind {op : Operation α} {context : Context} {run : Run} {failure : Failure}
    (h : FailsIdly op context run failure) (next : α → Operation β) :
    FailsIdly (op >>= next) context run failure := by
  obtain ⟨left, hop, hidle⟩ := h
  exact ⟨left, perform_bind_error.2 (.inl hop), hidle⟩

theorem Indifferent.bind {op : Operation α} (h : Indifferent op) (next : α → Operation β) :
    Indifferent (op >>= next) := by
  intro context run hfaults hinformed
  obtain ⟨hsame, hfound⟩ | ⟨failure, hhere, hthere⟩ := h context run hfaults hinformed
  · exact .inl ⟨by rw [perform_bind, perform_bind, hsame], hfound⟩
  · exact .inr ⟨failure, hhere.bind next, hthere.bind next⟩

theorem Indifferent.map {op : Operation α} (h : Indifferent op) (f : α → β) :
    Indifferent (f <$> op) := by
  rw [map_eq_pure_bind]
  exact h.bind _

theorem createSchema_error_idle {context : Context} {run left : Run} {failure : Failure}
    (h : perform createSchema context run = (.error failure, left)) :
    left.store = run.store ∧ left.ready = run.ready := by
  have hstays : Stays (fun before after => after.ready = before.ready)
      (transaction (TableName.all.forM createTable)) :=
    Run.passing_ready.stays_transaction (Run.passing_ready.stays_createTables _)
  refine ⟨createSchema_error h, ?_⟩
  obtain htransaction | ⟨_, _, _, hnote⟩ := perform_bind_error.1 h
  · exact hstays.of_perform htransaction
  · cases hnote

theorem createSchema_failsIdly {context : Context} {run : Run}
    (hmissing : ¬ ∀ name, run.store.tables.has name) (hcannot : ¬ run.store.canBeCompleted) :
    ∃ failure, FailsIdly createSchema context run failure := by
  rcases hop : perform createSchema context run with ⟨failure | _, left⟩
  · exact ⟨failure, left, hop, createSchema_error_idle hop⟩
  · have hfurnished : run.store.furnished = run.store := if_neg hcannot
    have hcompleted := (createSchema_ok hop).symm.trans (createSchema_furnishes hop)
    rw [hfurnished] at hcompleted
    refine absurd (fun name => ?_) hmissing
    rw [← hcompleted]
    exact run.store.tables.has_completed name

section Connect

variable {context : Context} {run : Run}

theorem connect_failsIdly_of_unopenable {cause : EngineError} (hfaults : run.faults = [])
    (hunopenable : run.store.unopenable = some cause) :
    FailsIdly connect context run (.statement (.openStore context.path) cause) := by
  refine FailsIdly.bind ⟨run, ?_, rfl, rfl⟩ _
  rw [perform_openStore hfaults, hunopenable]

theorem connect_failsIdly_of_missing (hfaults : run.faults = [])
    (hopenable : run.store.unopenable = none) (hready : run.ready = false)
    (hmissing : ¬ ∀ name, run.store.tables.has name) (hcannot : ¬ run.store.canBeCompleted) :
    ∃ failure, FailsIdly connect context run failure := by
  unfold FailsIdly
  rw [perform_connect_of_missing hfaults hopenable hready hmissing]
  exact createSchema_failsIdly hmissing hcannot

theorem perform_connect_anew (hfaults : run.faults = []) (hopenable : run.store.unopenable = none)
    (hhas : ∀ name, run.store.furnished.tables.has name) :
    perform connect context run.anew = (.ok (), { run.anew with ready := true }) :=
  perform_connect_of_has hfaults (run.store.unopenable_furnished.trans hopenable) hhas

theorem perform_connect_of_canBeCompleted (hfaults : run.faults = [])
    (hopenable : run.store.unopenable = none) (hready : run.ready = false)
    (hmissing : ¬ ∀ name, run.store.tables.has name) (hcan : run.store.canBeCompleted) :
    perform connect context run = perform connect context run.anew ∧
      ∀ name, run.store.furnished.tables.has name := by
  have hfurnished :
      run.store.furnished = { run.store with tables := run.store.tables.completed } := if_pos hcan
  obtain ⟨hunlocked, hwritable, hown⟩ := Store.canBeCompleted_iff.1 hcan
  have hhas : ∀ name, run.store.furnished.tables.has name := by
    rw [hfurnished]
    exact run.store.tables.has_completed
  refine ⟨?_, hhas⟩
  rw [perform_connect_of_missing hfaults hopenable hready hmissing,
    perform_createSchema hfaults hunlocked hwritable hown,
    perform_connect_anew hfaults hopenable hhas, Run.anew, hfurnished]
  rfl

end Connect

theorem indifferent_connect : Indifferent connect := by
  intro context run hfaults hinformed
  cases hopenable : run.store.unopenable with
  | some cause =>
    have hunopenable := run.store.unopenable_furnished.trans hopenable
    exact .inr ⟨_, connect_failsIdly_of_unopenable hfaults hopenable,
      connect_failsIdly_of_unopenable (hfaults : run.anew.faults = []) hunopenable⟩
  | none =>
    by_cases hhas : ∀ name, run.store.tables.has name
    · have hfurnished := Store.furnished_of_has hhas
      have hhas' := hhas
      rw [← hfurnished] at hhas'
      refine .inl ⟨?_, rfl, hhas'⟩
      rw [perform_connect_anew hfaults hopenable hhas', Run.anew, hfurnished]
      exact perform_connect_of_has hfaults hopenable hhas
    -- With a table missing, the handle has not seen the schema complete: it looks as a new one does.
    have hready : run.ready = false := Bool.eq_false_iff.2 (mt hinformed hhas)
    by_cases hcan : run.store.canBeCompleted
    · obtain ⟨hsame, hcompleted⟩ :=
        perform_connect_of_canBeCompleted hfaults hopenable hready hhas hcan
      exact .inl ⟨hsame, rfl, hcompleted⟩
    · have hsame : run.anew = run := by
        rw [Run.anew, Store.furnished, if_neg hcan, ← hready]
      obtain ⟨failure, hfails⟩ : ∃ failure, FailsIdly connect context run failure :=
        connect_failsIdly_of_missing hfaults hopenable hready hhas hcan
      exact .inr ⟨failure, hfails, hsame.symm ▸ hfails⟩

end Operation

open Operation

theorem EventLog.indifferent_setPipelineState (state agent : String) :
    Indifferent (EventLog.setPipelineState state agent) := by
  unfold setPipelineState
  split
  · exact indifferent_throw _
  · exact indifferent_connect.bind _

theorem Registry.indifferent_recordStatus (name : String) (status : AgentStatus) :
    Indifferent (Registry.recordStatus name status) := indifferent_connect.bind _

theorem EventLog.indifferent_query (filter : EventFilter) : Indifferent (EventLog.query filter) :=
  indifferent_connect.bind _

def Errand.initialises : Errand → Bool
  | .call .init => true
  | _ => false

theorem Errand.indifferent_operation {errand : Errand} (h : errand.initialises = false)
    (others : Receive.Others) (patience : Nat) :
    Indifferent (errand.operation others patience) := by
  cases errand with
  | receive name limit =>
    exact (((Registry.indifferent_recordStatus name .waiting).map _).bind _).map _
  | call call =>
    refine Indifferent.map ?_ _
    cases call with
    | init => cases h
    | connect => exact indifferent_connect.map _
    | unregister name => exact ((Registry.indifferent_recordStatus name .exited).bind _).map _
    | setPipelineState state agent =>
      exact (EventLog.indifferent_setPipelineState state agent).map _
    | latest filter => exact ((EventLog.indifferent_query _).bind _).map _
    | pipelineState => exact (((EventLog.indifferent_query _).bind _).bind _).map _
    | _ => exact (indifferent_connect.bind _).map _

theorem Receive.Others.byCalls_idle : Receive.Others.ByCalls {} where
  beforePoll _ _ := ⟨[], rfl⟩
  afterPolls _ := ⟨[], rfl⟩

theorem Store.writing_unopenable :
    Writing fun before after => after.unopenable = before.unopenable where
  refl _ := rfl
  trans h h' := h'.trans h
  complete _ := rfl
  mint _ _ := rfl
  replace _ _ := rfl

/-- The store has been opened, and no table is missing from then on. -/
structure Store.Opened (before after : Store) : Prop where
  openable : before.unopenable = none
  stays : after.unopenable = none
  has : ∀ name, after.tables.has name
  complete : before.readOnly → ∀ name, before.tables.has name

theorem Store.Opened.of_furnished {store after : Store} (hopenable : store.unopenable = none)
    (hhas : ∀ name, store.furnished.tables.has name) (hstays : after.unopenable = none)
    (htended : ∀ name, store.furnished.tables.has name → after.tables.has name) :
    store.Opened after := by
  refine ⟨hopenable, hstays, fun name => htended name (hhas name), fun hreadOnly => ?_⟩
  rwa [store.furnished_of_readOnly hreadOnly] at hhas

namespace Operation

variable {α : Type} {op : Operation α} {context : Context} {run : Run}

theorem Writes.has (h : Writes op) {name : TableName} (hhas : run.store.tables.has name) :
    (perform op context run).2.store.tables.has name :=
  (h _ Store.writing_tended context run).has name hhas

theorem Writes.unopenable (h : Writes op) (context : Context) (run : Run) :
    (perform op context run).2.store.unopenable = run.store.unopenable :=
  h _ Store.writing_unopenable context run

theorem FailsIdly.map {β : Type} {failure : Failure} (h : FailsIdly op context run failure)
    (f : α → β) : FailsIdly (f <$> op) context run failure := by
  rw [map_eq_pure_bind]
  exact h.bind _

theorem Indifferent.opened_or_failed (h : Indifferent op) (hwrites : Writes op)
    (hfaults : run.faults = []) (hinformed : run.Informed) :
    run.store.Opened (perform op context run).2.store ∨
      ∃ failure, FailsIdly op context run failure := by
  obtain ⟨hsame, hopenable, hhas⟩ | ⟨failure, hfails, -⟩ := h context run hfaults hinformed
  · have hstays := (hwrites.unopenable context run).trans hopenable
    refine .inl (.of_furnished hopenable hhas hstays fun name hname => ?_)
    rw [hsame]
    exact hwrites.has hname
  · exact .inr ⟨failure, hfails⟩

theorem unopenable_of_openStore_ok {left : Run} (h : perform openStore context run = (.ok (), left)) :
    run.store.unopenable = none := by
  obtain ⟨_, _, hread, hopen⟩ := perform_bind_ok.1 h
  cases hread
  obtain ⟨after, hstore, -⟩ := perform_statement_ok hopen
  obtain ⟨found, _, hget, hfile⟩ := Statement.run_bind_ok.1 hstore
  cases hget
  cases hunopenable : run.store.unopenable with
  | none => rfl
  | some cause =>
    rw [hunopenable] at hfile
    cases hfile

theorem unopenable_of_connect_ok {left : Run} (h : perform connect context run = (.ok (), left)) :
    run.store.unopenable = none := by
  obtain ⟨_, _, hopen, -⟩ := perform_bind_ok.1 h
  exact unopenable_of_openStore_ok hopen

theorem init_furnishes_or_fails (context : Context) (run : Run) :
    ((perform init context run).2.store = run.store.furnished ∧ run.store.unopenable = none ∧
        ∀ name, run.store.furnished.tables.has name) ∨
      ∃ failure, FailsIdly init context run failure := by
  have hready : Stays (fun before after => after.ready = before.ready) openStore :=
    Run.passing_ready.stays_openStore
  rcases hop : perform init context run with ⟨failure | _, left⟩
  · refine .inr ⟨failure, left, hop, ?_⟩
    obtain hopen | ⟨_, opened, hopen, h₁⟩ := perform_bind_error.1 hop
    · exact ⟨keeps_openStore.store_eq hopen, hready.of_perform hopen⟩
    have hopened := keeps_openStore.store_eq hopen
    obtain hschema | ⟨_, made, _, hnotify⟩ := perform_bind_error.1 h₁
    · obtain ⟨hstore, hidle⟩ := createSchema_error_idle hschema
      exact ⟨hstore.trans hopened, hidle.trans (hready.of_perform hopen)⟩
    · cases hnotify
  · obtain ⟨_, opened, hopen, h₁⟩ := perform_bind_ok.1 hop
    have hopened := keeps_openStore.store_eq hopen
    obtain ⟨_, made, hschema, hnotify⟩ := perform_bind_ok.1 h₁
    cases hnotify
    have hmade := createSchema_furnishes hschema
    rw [hopened] at hmade
    refine .inl ⟨hmade, unopenable_of_openStore_ok hopen, fun name => ?_⟩
    rw [← hmade, createSchema_ok hschema]
    exact opened.store.tables.has_completed name

end Operation

namespace Errand

variable {errand : Errand} {others : Receive.Others} {patience : Nat} {context : Context} {run : Run}

theorem furnishes_or_fails (h : errand.initialises) (others : Receive.Others) (patience : Nat)
    (context : Context) (run : Run) :
    ((perform (errand.operation others patience) context run).2.store = run.store.furnished ∧
        run.store.unopenable = none ∧ ∀ name, run.store.furnished.tables.has name) ∨
      ∃ failure, FailsIdly (errand.operation others patience) context run failure := by
  cases errand with
  | receive name limit => cases h
  | call call =>
    cases call with
    | init =>
      obtain hfurnished | ⟨failure, hfails⟩ := init_furnishes_or_fails context run
      · refine .inl ?_
        change (perform (Reply.answer <$> (fun _ => Answer.done) <$> init) context run).2.store = _ ∧ _
        rw [perform_map, perform_map]
        exact hfurnished
      · exact .inr ⟨failure, (hfails.map _).map _⟩
    | _ => cases h

theorem opened_or_failed (errand : Errand) (hothers : others.ByCalls) (patience : Nat)
    (context : Context) (hfaults : run.faults = []) (hinformed : run.Informed) :
    run.store.Opened (perform (errand.operation others patience) context run).2.store ∨
      ∃ failure, FailsIdly (errand.operation others patience) context run failure := by
  have hwrites := errand.writes_operation hothers patience
  cases hkind : errand.initialises with
  | false =>
    exact (indifferent_operation hkind others patience).opened_or_failed hwrites hfaults hinformed
  | true =>
    obtain ⟨hstore, hopenable, hhas⟩ | hfails := furnishes_or_fails hkind others patience context run
    · have hstays := (hwrites.unopenable context run).trans hopenable
      refine .inl (.of_furnished hopenable hhas hstays fun name => ?_)
      rw [hstore]
      exact id
    · exact .inr hfails

/-- An errand that does not fail leaves a store that somebody has made, whatever the others have done
meanwhile. -/
theorem isMade_of_ok {reply : Reply} {left : Run} (hfaults : run.faults = [])
    (hready : run.ready = false)
    (h : perform (errand.operation others patience) context run = (.ok reply, left)) :
    Directory.isMade left.store := by
  cases errand with
  | call call =>
    have hinformed : run.Informed := fun hknown => absurd hknown (by simp [hready])
    change perform ((Errand.call call).operation {} patience) context run = _ at h
    obtain hopened | ⟨failure, middle, hfailed, -⟩ :=
      opened_or_failed (.call call) Receive.Others.byCalls_idle patience context hfaults hinformed
    · rw [h] at hopened
      exact Directory.isMade_iff.2 ⟨hopened.stays, .messages, hopened.has _⟩
    · cases h.symm.trans hfailed
  | receive name limit =>
    obtain ⟨reception, hreceive, -⟩ := perform_map_ok.1 h
    obtain ⟨failure, -, hfailed⟩ |
      ⟨_, shown, received, waited, restored, polls, -, -, hrunning, hresult⟩ :=
        Receive.cases_of_receive hreceive
    · cases hfailed
    obtain _ | reception := received
    · cases hresult
    obtain _ | id := restored
    · cases hresult
    obtain ⟨connected, sequence, next, rows, placed, -, -, -, -, -, hleft⟩ :=
      Registry.recordStatus_ok_cases hrunning
    have hstays := (Registry.writes_recordStatus name .running).unopenable context
      (Receive.afterOthers others.afterPolls waited)
    obtain ⟨_, _, hconnect, -⟩ := perform_bind_ok.1 hrunning
    rw [hrunning] at hstays
    refine Directory.isMade_iff.2 ⟨hstays.trans (unopenable_of_connect_ok hconnect), .sequence, ?_⟩
    rw [hleft]
    rfl

end Errand

end Switchboard
