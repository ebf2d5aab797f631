import Switchboard.Store.Tables

namespace Switchboard

structure Store where
  tables : Tables := {}
  unopenable : Option EngineError := none
  /-- Another connection holds the lock on writing. -/
  locked : Bool := false
  readOnly : Bool := false
  refusedInserts : List TableName := []
  refusedUpdates : List TableName := []

abbrev Statement (α : Type) := StateT Store (Except EngineError) α

namespace Statement

def failIf (condition : Bool) (cause : EngineError) : Statement Unit :=
  if condition then throw cause else pure ()

def openFile : Statement Unit := do
  match (← get).unopenable with
  | some cause => throw cause
  | none => pure ()

/-- Take the lock on writing. Where nothing can be written there is no lock to wait for. -/
def takeLock : Statement Unit := do
  let store ← get
  failIf (store.locked && !store.readOnly) .locked

def giveLockBack : Statement Unit := pure ()

def hasTable (name : TableName) : Statement Bool := do
  pure ((← get).tables.has name)

def createTable (name : TableName) : Statement Unit := do
  let store ← get
  unless store.tables.has name do
    failIf store.readOnly .readOnly
    set { store with tables := store.tables.create name }

def indexedColumn : TableName → Option String
  | .sequence => none
  | .messages => some "target"
  | .events => some "kind"
  | .agents => some "name"
  | .tasks => some "status"

/-- Make the index of a table. It changes no row, so all that matters is whether it can be made. -/
def createIndex (name : TableName) : Statement Unit := do
  if (← get).tables.isForeign name then
    match indexedColumn name with
    | some column => throw (.noColumn column)
    | none => pure ()

def mint : Statement Int := do
  let store ← get
  match store.tables.sequence with
  | none => throw (.noTable .sequence)
  | some sequence =>
    failIf store.readOnly .readOnly
    failIf (store.refusedInserts.contains .sequence) .refused
    match sequence.next? with
    | none => throw .full
    | some (id, sequence) =>
      set { store with tables := { store.tables with sequence := some sequence } }
      pure id

/-- The table in which records of a type are kept. `lack` is what the engine says of a table that
has an id only. -/
def tableOf (α : Type) [Stored α] (lack : EngineError) : Statement (Rows (Entry α)) := do
  match (Stored.table (← get).tables : Table (Entry α)) with
  | .holding rows => pure rows
  | .absent => throw (.noTable (Stored.name α))
  | .foreign => throw lack

def firstColumn (α : Type) [Stored α] : String :=
  ((Stored.columns : List (Column α)).head?.map (·.name)).getD ""

/-- The rows of a type, in ascending order of their ids. `needed` is how the statement names the
first column that it needs besides the id. -/
def rows (α : Type) [Stored α] (needed : String) : Statement (List (Entry α)) := do
  pure (← tableOf α (.noColumn needed)).list

def read {α : Type} [Stored α] (entries : List (Entry α)) : Statement (List (Entry α)) :=
  (entries.mapM (Entry.read Stored.reading) : Except EngineError (List (Entry α)))

def select (α : Type) [Stored α] (choose : List (Entry α) → List (Entry α)) :
    Statement (List (Entry α)) := do
  read (choose (← rows α (firstColumn α)))

def setRows {α : Type} [Stored α] (rows : Rows (Entry α)) : Statement Unit :=
  modify fun store => { store with tables := Stored.setTable (.holding rows) store.tables }

def insertEntry {α : Type} [Stored α] (entry : Entry α) : Statement Unit := do
  let rows ← tableOf α (.noColumnIn (Stored.name α) (firstColumn α))
  let store ← get
  failIf store.readOnly .readOnly
  failIf (store.refusedInserts.contains (Stored.name α)) .refused
  match rows.insert? entry with
  | none => throw (.duplicateId (Stored.name α))
  | some rows => setRows rows

def insert {α : Type} [Stored α] (record : α) : Statement Unit :=
  insertEntry { record }

/-- Write new values to some columns of the rows that satisfy `p`, as `f` says, and tell how many
rows these are. Where nothing can be written this fails even if there are none. -/
def update {α : Type} [Stored α] (p : Entry α → Bool) (columns : List String) (f : α → α)
    (keepsId : ∀ a, Row.id (f a) = Row.id a := by intro _; rfl) : Statement Nat := do
  let rows ← tableOf α (.noColumn (columns.head?.getD ""))
  let store ← get
  failIf store.readOnly .readOnly
  let count := rows.list.countP p
  failIf (decide (0 < count) && store.refusedUpdates.contains (Stored.name α)) .refused
  setRows (rows.update p (Entry.change columns f) fun e => keepsId e.record)
  pure count

end Statement

end Switchboard
