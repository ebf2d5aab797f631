import Switchboard.Proofs.Writing

namespace Switchboard

/-- The store can be opened and written, nobody holds the lock, and the engine refuses no row. -/
structure Store.Available (store : Store) : Prop where
  openable : store.unopenable = none
  unlocked : store.locked = false
  writable : store.readOnly = false
  insertable : store.refusedInserts = []
  updatable : store.refusedUpdates = []

def Tables.Own (tables : Tables) : Prop := ∀ name, tables.isForeign name = false

theorem Tables.own_empty : ({} : Tables).Own := by
  intro name
  cases name <;> rfl

/-- The store has become another one in whose tables only rows may have changed, apart from tables
that were missing. -/
structure Store.Tended (before after : Store) : Prop where
  available : before.Available → after.Available
  own : before.tables.Own → after.tables.Own
  has : ∀ name, before.tables.has name → after.tables.has name

theorem Tables.isForeign_ensure (tables : Tables) (made name : TableName)
    (h : tables.isForeign name = false) : (tables.ensure made).isForeign name = false := by
  unfold ensure
  split
  · exact h
  · cases made <;> cases name <;> first | exact h | rfl

theorem Tables.Own.foldl_ensure {tables : Tables} (h : tables.Own) (names : List TableName) :
    (names.foldl ensure tables).Own := by
  induction names generalizing tables with
  | nil => exact h
  | cons made names ih => exact ih fun name => tables.isForeign_ensure made name (h name)

theorem Tables.all_has {tables : Tables} :
    TableName.all.all tables.has = true ↔ ∀ name, tables.has name := by
  rw [List.all_eq_true]
  exact ⟨fun h name => h name name.mem_all, fun h name _ => h name⟩

theorem Store.writing_tended : Writing Store.Tended where
  refl store := ⟨id, id, fun _ => id⟩
  trans h h' :=
    ⟨h'.available ∘ h.available, h'.own ∘ h.own, fun name hname => h'.has name (h.has name hname)⟩
  complete store :=
    ⟨fun h => ⟨h.openable, h.unlocked, h.writable, h.insertable, h.updatable⟩,
      fun h => h.foldl_ensure _, fun name _ => store.tables.has_completed name⟩
  mint hsequence hnext := by
    refine ⟨fun h => ⟨h.openable, h.unlocked, h.writable, h.insertable, h.updatable⟩, ?_, ?_⟩
    · intro h name
      have hname := h name
      cases name <;> exact hname
    · intro name h
      cases name <;> first | exact h | rfl
  replace store rows := by
    refine ⟨fun h => ⟨h.openable, h.unlocked, h.writable, h.insertable, h.updatable⟩, ?_, ?_⟩
    · intro h name
      rw [Placed.isForeign_setTable, h name, Bool.false_and]
    · intro name h
      rw [Placed.has_setTable, h, Bool.true_or]

theorem Store.own_after {store : Store} (h : store.tables = {}) (attempts : List Attempt) :
    (store.after attempts).tables.Own :=
  (writing_tended.after store attempts).own (h ▸ Tables.own_empty)

/-- No fault stops a call that starts from the run, nothing is wrong with the store that it finds,
and a handle that takes the schema to be complete is right. -/
structure Run.Undisturbed (run : Run) (store : Store) : Prop where
  faults : run.faults = []
  available : store.Available
  schema : run.ready → ∀ name, store.tables.has name

theorem Run.Undisturbed.found {run : Run} {store : Store} (h : run.Undisturbed store) :
    ({ run with store } : Run).Undisturbed store :=
  ⟨h.faults, h.available, h.schema⟩

theorem Run.Undisturbed.tended {run : Run} {store after : Store} (h : run.Undisturbed store)
    (htended : store.Tended after) : run.Undisturbed after :=
  ⟨h.faults, htended.available h.available,
    fun hready name => htended.has name (h.schema hready name)⟩

def Run.connected (run : Run) : Run :=
  { run with ready := true, store := { run.store with tables := run.store.tables.completed } }

theorem Run.Undisturbed.connected {run : Run} (h : run.Undisturbed run.store) :
    run.connected.Undisturbed run.connected.store :=
  ⟨h.faults, (Store.writing_tended.complete run.store).available h.available,
    fun _ => run.store.tables.has_completed⟩

/-- The store holds the ledger in tables of its own, none is missing, and nothing stands in the way. -/
structure Run.Serves (run : Run) (ledger : Ledger) : Prop where
  holds : run.store.tables.Holds ledger
  undisturbed : run.Undisturbed run.store
  own : run.store.tables.Own
  has : ∀ name, run.store.tables.has name

theorem Run.Undisturbed.serves {run : Run} {ledger : Ledger} (hrun : run.Undisturbed run.store)
    (h : run.store.tables.Holds ledger) (hown : run.store.tables.Own) :
    run.connected.Serves ledger :=
  ⟨run.store.tables.completed_sameContent.holds h, hrun.connected, hown.foldl_ensure _,
    run.store.tables.has_completed⟩

theorem Run.Serves.written {run : Run} {store : Store} {ledger next : Ledger}
    (h : run.Serves ledger) (htended : run.store.Tended store) (hnext : store.tables.Holds next) :
    ({ run with store } : Run).Serves next :=
  ⟨hnext, (h.undisturbed.tended htended).found, htended.own h.own,
    fun name => htended.has name (h.has name)⟩

namespace Statement

variable {α : Type} [Stored α] [Placed α] {store : Store} {ledger : Ledger}

theorem run_bind_eq {β γ : Type} {s : Statement β} {next : β → Statement γ} {b : β} {middle : Store}
    (h : s.run store = .ok (b, middle)) : (s >>= next).run store = (next b).run middle := by
  rw [StateT.run_bind, h]
  rfl

theorem failIf_false {condition : Bool} (cause : EngineError) (h : condition = false) :
    (failIf condition cause).run store = .ok ((), store) := by
  rw [failIf, h]
  rfl

theorem run_tableOf (lack : EngineError) (hhas : store.tables.has (Stored.name α))
    (hown : store.tables.Own) :
    ∃ rows, (tableOf α lack).run store = .ok (rows, store) ∧
      (Stored.table store.tables : Table (Entry α)) = .holding rows := by
  have hforeign := hown (Stored.name α)
  rw [Placed.isForeign_name] at hforeign
  rw [Placed.has_name] at hhas
  cases htable : (Stored.table store.tables : Table (Entry α)) with
  | absent =>
    rw [htable] at hhas
    cases hhas
  | foreign =>
    rw [htable] at hforeign
    cases hforeign
  | holding rows =>
    refine ⟨rows, ?_, rfl⟩
    have hget : (get : Statement Store).run store = .ok (store, store) := rfl
    unfold tableOf
    rw [run_bind_eq hget, htable]
    rfl

theorem run_update {p : Entry α → Bool} {columns : List String} {f : α → α}
    {keepsId : ∀ a, Row.id (f a) = Row.id a} (havailable : store.Available)
    (hhas : store.tables.has (Stored.name α)) (hown : store.tables.Own) :
    ∃ count after, (update p columns f keepsId).run store = .ok (count, after) := by
  obtain ⟨rows, hrun, -⟩ := run_tableOf (α := α) (.noColumn (columns.head?.getD "")) hhas hown
  have hget : (get : Statement Store).run store = .ok (store, store) := rfl
  unfold update
  refine ⟨rows.list.countP p, { store with
    tables := Stored.setTable (.holding (rows.update p (Entry.change columns f) fun e =>
      keepsId e.record)) store.tables }, ?_⟩
  rw [run_bind_eq hrun, run_bind_eq hget, run_bind_eq (failIf_false _ havailable.writable),
    run_bind_eq (failIf_false _ (by simp [havailable.updatable]))]
  rfl

theorem run_select {choose : List (Entry α) → List (Entry α)} {entries : List (Entry α)}
    (hhas : store.tables.has (Stored.name α)) (hown : store.tables.Own)
    (hread : (choose (store.tables.rows α)).mapM (Entry.read Stored.reading) =
      (.ok entries : Except EngineError _)) :
    (select α choose).run store = .ok (entries, store) := by
  obtain ⟨rows, hrun, htable⟩ := run_tableOf (α := α) (.noColumn (firstColumn α)) hhas hown
  rw [Tables.rows_of_holding htable] at hread
  have hrows : (Statement.rows α (firstColumn α)).run store = .ok (rows.list, store) := by
    unfold Statement.rows
    rw [run_bind_eq hrun]
    rfl
  unfold select read
  rw [run_bind_eq hrows, hread]
  rfl

theorem run_insertEntry {entry : Entry α} (havailable : store.Available)
    (hhas : store.tables.has (Stored.name α)) (hown : store.tables.Own)
    (hnewest : ∀ e ∈ store.tables.rows α, Row.id e < Row.id entry) :
    ∃ after, (insertEntry entry).run store = .ok ((), after) := by
  obtain ⟨rows, hrun, htable⟩ :=
    run_tableOf (α := α) (.noColumnIn (Stored.name α) (firstColumn α)) hhas hown
  rw [Tables.rows_of_holding htable] at hnewest
  obtain ⟨placed, hplaced, -⟩ := Rows.list_insert?_of_newest hnewest
  have hget : (get : Statement Store).run store = .ok (store, store) := rfl
  unfold insertEntry
  rw [run_bind_eq hrun, run_bind_eq hget, run_bind_eq (failIf_false _ havailable.writable),
    run_bind_eq (failIf_false _ (by simp [havailable.insertable])), hplaced]
  exact ⟨_, rfl⟩

variable [Recorded α]

theorem run_rows (needed : String) (h : store.tables.Holds ledger)
    (hhas : store.tables.has (Stored.name α)) (hown : store.tables.Own) :
    (rows α needed).run store =
      .ok ((Recorded.records ledger : List α).map Entry.plain, store) := by
  obtain ⟨rows, hrun, htable⟩ := run_tableOf (α := α) (.noColumn needed) hhas hown
  unfold Statement.rows
  rw [run_bind_eq hrun, ← Recorded.list_eq h htable]
  rfl

theorem run_mint (h : store.tables.Holds ledger) (havailable : store.Available)
    (hhas : store.tables.has .sequence) :
    (ledger.last < Sequence.maxId → ∃ after, mint.run store = .ok (ledger.last + 1, after)) ∧
      (¬ ledger.last < Sequence.maxId → mint.run store = .error .full) := by
  obtain ⟨sequence, hsequence⟩ : ∃ sequence, store.tables.sequence = some sequence :=
    Option.isSome_iff_exists.1 hhas
  have hlast : sequence.last = ledger.last := by simpa [Tables.lastId, hsequence] using h.last
  have hget : (get : Statement Store).run store = .ok (store, store) := rfl
  unfold mint
  rw [run_bind_eq hget, hsequence]
  dsimp only
  rw [run_bind_eq (failIf_false _ havailable.writable),
    run_bind_eq (failIf_false _ (by simp [havailable.insertable])), Sequence.next?, ← hlast]
  refine ⟨fun hleft => ?_, fun hfull => ?_⟩
  · rw [if_pos hleft]
    exact ⟨_, rfl⟩
  · rw [if_neg hfull]
    rfl

end Statement

namespace Operation

variable {α : Type} {context : Context} {run done : Run} {a : α}

theorem perform_bind_eq {β : Type} {op : Operation α} {next : α → Operation β}
    (h : perform op context run = (.ok a, done)) :
    perform (op >>= next) context run = perform (next a) context done := by
  rw [perform_bind, h]

theorem perform_bind_failed {β : Type} {op : Operation α} {next : α → Operation β}
    {failure : Failure} (h : (perform op context run).1 = .error failure) :
    (perform (op >>= next) context run).1 = .error failure := by
  rcases hop : perform op context run with ⟨answer, left⟩
  rw [hop] at h
  subst h
  rw [perform_bind, hop]

theorem perform_statement {action : Action} {s : Statement α} {store : Store}
    (hfaults : run.faults = []) (hs : s.run run.store = .ok (a, store)) :
    perform (statement action s) context run = (.ok a, { run with store }) := by
  unfold statement
  rw [perform_bind, perform_carryOut_of_sound _ _ _ hfaults, hs]
  rfl

theorem perform_statement_failed {action : Action} {s : Statement α} {cause : EngineError}
    (hfaults : run.faults = []) (hs : s.run run.store = .error cause) :
    (perform (statement action s) context run).1 = .error (.statement action cause) := by
  unfold statement
  rw [perform_bind, perform_carryOut_of_sound _ _ _ hfaults, hs]
  rfl

theorem perform_beginTransaction (hfaults : run.faults = []) (hlock : run.store.locked = false) :
    perform beginTransaction context run = (.ok (), run) := by
  have hrun : Statement.takeLock.run run.store = .ok ((), run.store) :=
    Statement.failIf_false _ (by rw [hlock, Bool.false_and])
  have hlocked (whenBusy : EngineError → Operation Unit) :
      perform (tryLock whenBusy) context run = (.ok (), run) := by
    unfold tryLock
    rw [perform_bind, perform_carryOut_of_sound _ _ _ hfaults, hrun]
    rfl
  unfold beginTransaction
  rw [perform_bind, perform_read]
  dsimp only
  cases context.config.lockRetries <;> exact hlocked _

theorem perform_commit (before : Store) (hfaults : run.faults = []) :
    perform (commit before) context run = (.ok (), run) := by
  unfold commit
  rw [perform_bind, perform_carryOut_of_sound _ _ _ hfaults]
  rfl

theorem perform_transactionIf {keep : α → Bool} {body : Operation α} (hfaults : run.faults = [])
    (hlock : run.store.locked = false) (hbody : perform body context run = (.ok a, done))
    (hdone : done.faults = []) (hkeep : keep a) :
    perform (transactionIf keep body) context run = (.ok a, done) := by
  unfold transactionIf
  rw [perform_bind_eq (perform_beginTransaction hfaults hlock), perform_bind, perform_get]
  dsimp only
  rw [perform_bind, perform_outcome, hbody]
  dsimp only
  rw [if_pos hkeep, perform_bind_eq (perform_commit _ hdone)]
  rfl

theorem perform_transaction {body : Operation α} (hfaults : run.faults = [])
    (hlock : run.store.locked = false) (hbody : perform body context run = (.ok a, done))
    (hdone : done.faults = []) : perform (transaction body) context run = (.ok a, done) :=
  perform_transactionIf hfaults hlock hbody hdone rfl

theorem perform_transaction_failed {body : Operation α} {failure : Failure}
    (hfaults : run.faults = []) (hlock : run.store.locked = false)
    (hbody : (perform body context run).1 = .error failure) :
    (perform (transaction body) context run).1 = .error failure := by
  unfold transaction transactionIf
  rw [perform_bind_eq (perform_beginTransaction hfaults hlock), perform_bind, perform_get]
  dsimp only
  rw [perform_bind, perform_outcome, hbody]
  dsimp only
  obtain ⟨undone, hundone, -⟩ :=
    perform_rollback run.store (some failure) context (perform body context run).2
  rw [perform_bind_eq hundone]
  rfl

theorem perform_inspectSchema (hfaults : run.faults = []) :
    perform inspectSchema context run =
      (.ok (TableName.all.all run.store.tables.has), run) := by
  have hfound (names : List TableName) :
      perform (names.mapM fun name => statement .inspectSchema (Statement.hasTable name)) context
        run = (.ok (names.map run.store.tables.has), run) := by
    induction names with
    | nil => rfl
    | cons name names ih =>
      have hname : perform (statement .inspectSchema (Statement.hasTable name)) context run =
          (.ok (run.store.tables.has name), run) := perform_statement hfaults rfl
      rw [List.mapM_cons, perform_bind_eq hname, perform_bind_eq ih]
      rfl
  unfold inspectSchema
  rw [perform_bind_eq (hfound _)]
  rfl

theorem perform_createTable (name : TableName) (hfaults : run.faults = [])
    (hwritable : run.store.readOnly = false) (hown : run.store.tables.Own) :
    perform (createTable name) context run =
      (.ok (), { run with store := { run.store with tables := run.store.tables.ensure name } }) := by
  have hget (store : Store) : (get : Statement Store).run store = .ok (store, store) := rfl
  have hmade : (Statement.createTable name).run run.store =
      .ok ((), { run.store with tables := run.store.tables.ensure name }) := by
    unfold Statement.createTable Tables.ensure
    rw [Statement.run_bind_eq (hget _)]
    split
    · rfl
    · rw [Statement.run_bind_eq (Statement.failIf_false _ hwritable)]
      rfl
  have hindex : (Statement.createIndex name).run
      { run.store with tables := run.store.tables.ensure name } =
      .ok ((), { run.store with tables := run.store.tables.ensure name }) := by
    have hforeign := run.store.tables.isForeign_ensure name name (hown name)
    unfold Statement.createIndex
    rw [Statement.run_bind_eq (hget _), hforeign]
    rfl
  unfold createTable
  rw [perform_bind_eq (perform_statement hfaults hmade)]
  split
  · rfl
  · exact perform_statement hfaults hindex

theorem perform_createTables (names : List TableName) (hfaults : run.faults = [])
    (hwritable : run.store.readOnly = false) (hown : run.store.tables.Own) :
    perform (names.forM createTable) context run =
      (.ok (), { run with
        store := { run.store with tables := names.foldl Tables.ensure run.store.tables } }) := by
  induction names generalizing run with
  | nil => rfl
  | cons name names ih =>
    change perform (createTable name >>= fun _ => names.forM createTable) context run = _
    rw [perform_bind_eq (perform_createTable name hfaults hwritable hown)]
    exact ih hfaults hwritable fun other => run.store.tables.isForeign_ensure name other (hown other)

theorem perform_createSchema (hfaults : run.faults = []) (hlock : run.store.locked = false)
    (hwritable : run.store.readOnly = false) (hown : run.store.tables.Own) :
    perform createSchema context run = (.ok (), run.connected) := by
  unfold createSchema
  rw [perform_bind_eq (perform_transaction hfaults hlock
    (perform_createTables TableName.all hfaults hwritable hown) hfaults)]
  rfl

theorem perform_openStore (hfaults : run.faults = []) :
    perform openStore context run =
      match run.store.unopenable with
      | none => (.ok (), run)
      | some cause => (.error (.statement (.openStore context.path) cause), run) := by
  unfold openStore statement Statement.openFile
  rw [perform_bind, perform_read]
  dsimp only
  rw [perform_bind, perform_carryOut_of_sound _ _ _ hfaults, Statement.run_bind_eq rfl]
  cases run.store.unopenable <;> rfl

theorem perform_connect_of_has (hfaults : run.faults = []) (hopenable : run.store.unopenable = none)
    (hhas : ∀ name, run.store.tables.has name) :
    perform connect context run = (.ok (), { run with ready := true }) := by
  have hopened : perform openStore context run = (.ok (), run) := by
    rw [perform_openStore hfaults, hopenable]
  unfold connect
  rw [perform_bind_eq hopened, perform_bind, perform_get]
  dsimp only
  split
  · rename_i hready
    rw [← hready]
    rfl
  · rw [perform_bind_eq (perform_inspectSchema hfaults), Tables.all_has.2 hhas]
    rfl

theorem perform_connect_of_missing (hfaults : run.faults = [])
    (hopenable : run.store.unopenable = none) (hready : run.ready = false)
    (hmissing : ¬ ∀ name, run.store.tables.has name) :
    perform connect context run = perform createSchema context run := by
  have hopened : perform openStore context run = (.ok (), run) := by
    rw [perform_openStore hfaults, hopenable]
  have hfound : TableName.all.all run.store.tables.has = false := by
    rw [← Bool.not_eq_true, Tables.all_has]
    exact hmissing
  unfold connect
  rw [perform_bind_eq hopened, perform_bind, perform_get]
  dsimp only
  rw [hready, if_neg Bool.false_ne_true, perform_bind_eq (perform_inspectSchema hfaults), hfound]
  rfl

theorem perform_connect (h : run.Undisturbed run.store) (hown : run.store.tables.Own) :
    perform connect context run = (.ok (), run.connected) := by
  by_cases hhas : ∀ name, run.store.tables.has name
  · rw [perform_connect_of_has h.faults h.available.openable hhas]
    unfold Run.connected
    rw [Tables.completed_of_has hhas]
  · have hready : run.ready = false := Bool.eq_false_iff.2 (mt h.schema hhas)
    rw [perform_connect_of_missing h.faults h.available.openable hready hhas]
    exact perform_createSchema h.faults h.available.unlocked h.available.writable hown

theorem perform_update [Stored α] [Recorded α] [Placed α] {ledger : Ledger} {action : Action}
    {p : Entry α → Bool} (q : α → Bool) {columns : List String} {f : α → α}
    (keepsId : ∀ a, Row.id (f a) = Row.id a) (h : run.Serves ledger)
    (hp : ∀ r, p (Entry.plain r) = q r) :
    ∃ store, perform (statement action (Statement.update p columns f keepsId)) context run =
        (.ok ((Recorded.records ledger : List α).countP q), { run with store }) ∧
      run.store.Tended store ∧ store.tables.Holds (Recorded.setRecords
        ((Recorded.records ledger).map fun r => if q r then f r else r) ledger) := by
  obtain ⟨count, store, hupdate⟩ :
      ∃ count store, (Statement.update p columns f keepsId).run run.store = .ok (count, store) :=
    Statement.run_update h.undisturbed.available (h.has _) h.own
  obtain ⟨rfl, hupdated⟩ := Statement.update_holds h.holds hp hupdate
  have hperform : perform (statement action (Statement.update p columns f keepsId)) context run =
      (.ok _, { run with store }) := perform_statement h.undisturbed.faults hupdate
  refine ⟨store, hperform, ?_, hupdated⟩
  have htended : run.store.Tended
      (perform (statement action (Statement.update p columns f keepsId)) context run).2.store :=
    writes_update _ Store.writing_tended context run
  rwa [hperform] at htended

section NewRows

variable [Stored α] [Recorded α] {ledger : Ledger}

theorem perform_mintId (context : Context) (h : run.Serves ledger)
    (hleft : ledger.last < Sequence.maxId) :
    ∃ store, perform mintId context run = (.ok (ledger.last + 1), { run with store }) ∧
      ({ run with store } : Run).Serves ledger.mint := by
  obtain ⟨store, hmint⟩ :=
    (Statement.run_mint h.holds h.undisturbed.available (h.has _)).1 hleft
  have hperform : perform mintId context run = (.ok (ledger.last + 1), { run with store }) :=
    perform_statement h.undisturbed.faults hmint
  have htended := writes_mintId _ Store.writing_tended context run
  rw [hperform] at htended
  exact ⟨store, hperform, h.written htended (mintId_holds h.holds hperform).2⟩

theorem newest_of_minted {store : Store} {entry : Entry α} (hs : ledger.Sound)
    (h : store.tables.Holds ledger.mint) (hid : Row.id entry = ledger.last + 1) :
    ∀ e ∈ store.tables.rows α, Row.id e < Row.id entry := by
  rw [Recorded.rows_eq h, Recorded.records_mint]
  intro e he
  obtain ⟨r, hr, rfl⟩ := List.mem_map.1 he
  have hbounded := (Recorded.numbered hs).bounded r hr
  change Row.id r < Row.id entry
  omega

theorem run_insertEntry_minted [Placed α] {entry : Entry α} (hs : ledger.Sound)
    (h : run.Serves ledger.mint) (hid : Row.id entry = ledger.last + 1) :
    ∃ store, (Statement.insertEntry entry).run run.store = .ok ((), store) :=
  Statement.run_insertEntry h.undisturbed.available (h.has _) h.own
    (newest_of_minted hs h.holds hid)

theorem perform_insertNext [Placed α] {action : Action} {record : Int → Context → α}
    (hs : ledger.Sound) (h : run.Serves ledger)
    (hid : ∀ id context, Row.id (record id context) = id) (hleft : ledger.last < Sequence.maxId) :
    ∃ store, perform (do
      let id ← mintId
      let context ← read
      statement action (Statement.insert (record id context))
      pure id) context run = (.ok (ledger.last + 1), { run with store }) := by
  obtain ⟨minted, hmint, hserves⟩ := perform_mintId context h hleft
  obtain ⟨store, hinsert⟩ : ∃ store, (Statement.insert (record (ledger.last + 1) context)).run
      minted = .ok ((), store) := run_insertEntry_minted hs hserves (hid _ _)
  have hdone : perform (statement action (Statement.insert (record (ledger.last + 1) context)))
      context { run with store := minted } = (.ok (), { run with store }) :=
    perform_statement h.undisturbed.faults hinsert
  rw [perform_bind_eq hmint, perform_bind_eq (perform_read _ _), perform_bind_eq hdone]
  exact ⟨store, rfl⟩

end NewRows

end Operation

namespace Run.Serves

variable {α : Type} {context : Context} {run : Run} {ledger : Ledger} {body : Operation α}

theorem transaction {a : α} {store : Store} (h : run.Serves ledger)
    (hbody : Operation.perform body context run = (.ok a, { run with store })) :
    Operation.perform (Operation.transaction body) context run =
      (.ok a, { run with store }) :=
  Operation.perform_transaction h.undisturbed.faults h.undisturbed.available.unlocked hbody
    h.undisturbed.faults

theorem transaction_failed {failure : Failure} (h : run.Serves ledger)
    (hbody : (Operation.perform body context run).1 = .error failure) :
    (Operation.perform (Operation.transaction body) context run).1 = .error failure :=
  Operation.perform_transaction_failed h.undisturbed.faults h.undisturbed.available.unlocked hbody

end Run.Serves

end Switchboard
