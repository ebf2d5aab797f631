import Switchboard.Proofs.Outcome

namespace Switchboard

theorem TableName.mem_all (name : TableName) : name ∈ TableName.all := by
  cases name <;> simp [TableName.all]

namespace Tables

/-- The tables with one of a name among them, made anew if there is none. -/
def ensure (tables : Tables) (name : TableName) : Tables :=
  if tables.has name then tables else tables.create name

def completed (tables : Tables) : Tables := TableName.all.foldl ensure tables

def minted (tables : Tables) : List Int := (tables.sequence.map (·.minted)).getD []

def lastId (tables : Tables) : Int :=
  (tables.sequence.map (·.last)).getD (tables.start.getD 0)

/-- Two states of the tables that hold the same rows and give out the same ids from now on. -/
structure SameContent (tables other : Tables) : Prop where
  messages : tables.rows Message = other.rows Message
  events : tables.rows Event = other.rows Event
  agents : tables.rows Registration = other.rows Registration
  tasks : tables.rows Task = other.rows Task
  minted : tables.minted = other.minted
  lastId : tables.lastId = other.lastId

theorem SameContent.refl (tables : Tables) : tables.SameContent tables :=
  ⟨rfl, rfl, rfl, rfl, rfl, rfl⟩

theorem SameContent.trans {first second third : Tables} (h : first.SameContent second)
    (h' : second.SameContent third) : first.SameContent third :=
  ⟨h.messages.trans h'.messages, h.events.trans h'.events, h.agents.trans h'.agents,
    h.tasks.trans h'.tasks, h.minted.trans h'.minted, h.lastId.trans h'.lastId⟩

theorem SameContent.symm {tables other : Tables} (h : tables.SameContent other) :
    other.SameContent tables :=
  ⟨h.messages.symm, h.events.symm, h.agents.symm, h.tasks.symm, h.minted.symm, h.lastId.symm⟩

theorem toList_of_absent {α : Type} [Row α] {table : Table α} (h : ¬ table.isPresent) :
    table.toList = [] := by
  cases table with
  | absent => rfl
  | foreign => exact absurd rfl h
  | holding rows => exact absurd rfl h

theorem ensure_sameContent (tables : Tables) (name : TableName) :
    (tables.ensure name).SameContent tables := by
  unfold ensure
  split
  · exact .refl tables
  · rename_i habsent
    cases name with
    | sequence =>
      have hnone : tables.sequence = none := Option.not_isSome_iff_eq_none.1 habsent
      refine ⟨rfl, rfl, rfl, rfl, ?_, ?_⟩
      · simp [minted, create, hnone]
      · simp [lastId, create, hnone]
    | messages => exact ⟨(toList_of_absent habsent).symm, rfl, rfl, rfl, rfl, rfl⟩
    | events => exact ⟨rfl, (toList_of_absent habsent).symm, rfl, rfl, rfl, rfl⟩
    | agents => exact ⟨rfl, rfl, (toList_of_absent habsent).symm, rfl, rfl, rfl⟩
    | tasks => exact ⟨rfl, rfl, rfl, (toList_of_absent habsent).symm, rfl, rfl⟩

theorem completed_sameContent (tables : Tables) : tables.completed.SameContent tables := by
  unfold completed
  generalize TableName.all = names
  induction names generalizing tables with
  | nil => exact .refl tables
  | cons name names ih => exact (ih _).trans (ensure_sameContent tables name)

theorem has_ensure_self (tables : Tables) (name : TableName) : (tables.ensure name).has name := by
  unfold ensure
  split
  · assumption
  · cases name <;> rfl

theorem has_ensure (tables : Tables) (made : TableName) {name : TableName} (h : tables.has name) :
    (tables.ensure made).has name := by
  unfold ensure
  split
  · exact h
  · cases made <;> cases name <;> first | exact h | rfl

theorem has_foldl_ensure {names : List TableName} {name : TableName} {tables : Tables}
    (h : tables.has name ∨ name ∈ names) : (names.foldl ensure tables).has name := by
  induction names generalizing tables with
  | nil => simpa using h
  | cons made names ih =>
    apply ih
    obtain hhas | hmem := h
    · exact .inl (has_ensure tables made hhas)
    · obtain rfl | hmem := List.mem_cons.1 hmem
      · exact .inl (has_ensure_self tables name)
      · exact .inr hmem

theorem has_completed (tables : Tables) (name : TableName) : tables.completed.has name :=
  has_foldl_ensure (.inr name.mem_all)

theorem completed_of_has {tables : Tables} (h : ∀ name, tables.has name) :
    tables.completed = tables := by
  have hensure : ∀ name, tables.ensure name = tables := fun name => if_pos (h name)
  simp [completed, TableName.all, hensure]

@[simp]
theorem completed_completed (tables : Tables) : tables.completed.completed = tables.completed :=
  completed_of_has tables.has_completed

end Tables

/-- A store is as it was, but for missing tables that may have been made. -/
def Store.Settled (before after : Store) : Prop :=
  after = before ∨ after = { before with tables := before.tables.completed }

namespace Store.Settled

variable {before after : Store}

theorem trans {last : Store} (h : before.Settled after) (h' : after.Settled last) :
    before.Settled last := by
  obtain rfl | rfl := h
  · exact h'
  · obtain rfl | rfl := h'
    · exact .inr rfl
    · exact .inr (by simp)

theorem sameContent (h : before.Settled after) : after.tables.SameContent before.tables := by
  obtain rfl | rfl := h
  · exact .refl _
  · exact before.tables.completed_sameContent

end Store.Settled

namespace Operation

variable {α β : Type} {context : Context} {run left : Run} {failure : Failure}

theorem statement_createTable_ok {name : TableName} {store after : Store}
    (h : (Statement.createTable name).run store = .ok ((), after)) :
    after = { store with tables := store.tables.ensure name } := by
  obtain ⟨found, middle, hget, h₁⟩ := Statement.run_bind_ok.1 h
  cases hget
  unfold Tables.ensure
  split at h₁
  · cases h₁
    rename_i hpresent
    rw [if_pos hpresent]
  · rename_i habsent
    obtain ⟨_, _, hwritable, hset⟩ := Statement.run_bind_ok.1 h₁
    obtain rfl := Statement.failIf_ok hwritable
    cases hset
    rw [if_neg habsent]

theorem createTable_ok {name : TableName}
    (h : perform (createTable name) context run = (.ok (), left)) :
    left.store = { run.store with tables := run.store.tables.ensure name } := by
  obtain ⟨_, middle, hcreate, h₁⟩ := perform_bind_ok.1 h
  obtain ⟨store, hstore, rfl⟩ := perform_statement_ok hcreate
  obtain rfl := statement_createTable_ok hstore
  split at h₁
  · cases h₁
    rfl
  · exact (keeps_statement (Statement.looks_createIndex name)).store_eq h₁

theorem createTables_ok {names : List TableName}
    (h : perform (names.forM createTable) context run = (.ok (), left)) :
    left.store = { run.store with tables := names.foldl Tables.ensure run.store.tables } := by
  induction names generalizing run with
  | nil =>
    cases h
    rfl
  | cons name names ih =>
    obtain ⟨_, middle, hname, hnames⟩ := perform_bind_ok.1 h
    rw [ih hnames, createTable_ok hname]
    rfl

theorem createSchema_ok (h : perform createSchema context run = (.ok (), left)) :
    left.store = { run.store with tables := run.store.tables.completed } := by
  obtain ⟨_, middle, htransaction, hready⟩ := perform_bind_ok.1 h
  obtain ⟨started, done, hstarted, hbody, hdone⟩ := perform_transaction_ok htransaction
  cases hready
  change middle.store = _
  rw [hdone, createTables_ok hbody, hstarted]
  rfl

theorem createSchema_error (h : perform createSchema context run = (.error failure, left)) :
    left.store = run.store := by
  obtain htransaction | ⟨_, middle, _, hready⟩ := perform_bind_error.1 h
  · exact perform_transaction_error htransaction
  · cases hready

theorem keeps_openStore : Keeps openStore :=
  keeps_read.bind fun _ => keeps_statement Statement.looks_openFile

theorem keeps_inspectSchema : Keeps inspectSchema := by
  refine Keeps.bind ?_ fun found => keeps_pure _
  generalize TableName.all = names
  induction names with
  | nil => exact keeps_pure []
  | cons name names ih =>
    rw [List.mapM_cons]
    apply (keeps_statement (Statement.looks_hasTable name)).bind
    intro _
    exact ih.bind fun _ => keeps_pure _

def Settles (op : Operation α) : Prop :=
  ∀ (context : Context) (run : Run), run.store.Settled (perform op context run).2.store

theorem Keeps.settles {op : Operation α} (h : Keeps op) : Settles op :=
  fun context run => .inl (h context run)

theorem Settles.bind {op : Operation α} {next : α → Operation β} (h : Settles op)
    (hnext : ∀ a, Settles (next a)) : Settles (op >>= next) := by
  intro context run
  have hop := h context run
  rw [perform_bind]
  generalize perform op context run = result at hop ⊢
  obtain ⟨failure | a, middle⟩ := result
  · exact hop
  · exact hop.trans (hnext a context middle)

theorem Settles.map {op : Operation α} (h : Settles op) (f : α → β) : Settles (f <$> op) := by
  intro context run
  rw [perform_map]
  exact h context run

theorem Settles.settled {op : Operation α} {result : Except Failure α} (h : Settles op)
    (hop : perform op context run = (result, left)) : run.store.Settled left.store := by
  simpa [hop] using h context run

theorem settles_createSchema : Settles createSchema := by
  intro context run
  rcases hop : perform createSchema context run with ⟨failure | _, left⟩
  · exact .inl (createSchema_error hop)
  · exact .inr (createSchema_ok hop)

theorem settles_connect : Settles connect := by
  apply keeps_openStore.settles.bind
  intro _
  apply keeps_get.settles.bind
  intro run
  split
  · exact (keeps_pure ()).settles
  · apply keeps_inspectSchema.settles.bind
    intro complete
    split
    · exact Keeps.settles fun _ _ => rfl
    · exact settles_createSchema

theorem settles_connect_bind {op : Operation α} (h : Keeps op) :
    Settles (connect >>= fun _ => op) :=
  settles_connect.bind fun _ => h.settles

theorem settles_init : Settles init :=
  keeps_openStore.settles.bind fun _ => settles_createSchema.bind fun _ =>
    keeps_read.settles.bind fun _ => (keeps_notify _).settles

end Operation

end Switchboard
