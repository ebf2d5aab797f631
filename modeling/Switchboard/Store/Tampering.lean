import Switchboard.Store.Statement

namespace Switchboard

inductive Tampering where
  | lock
  | unlock
  | makeReadOnly
  /-- Count ids from a number on, unless the count is beyond it. -/
  | count (last : Int)
  | drop (table : TableName)
  | createForeign (table : TableName)
  | refuse (table : TableName) (updates : Bool)
  | allow (table : TableName)
  | overwrite (table : TableName) (id : Int) (column : String) (cell : Cell)
  | backlog (messages : Nat) (target : String)
  deriving DecidableEq, Repr

namespace Rows

variable {α : Type} [Stored α]

def alter? (rows : Rows (Entry α)) (id : Int) (f : Entry α → Entry α) :
    Option (Rows (Entry α)) :=
  Rows.ofList? (rows.list.map fun e => if Row.id e = id then f e else e)

/-- Put a cell into a column of a row, if the column can hold it. -/
def overwrite? (rows : Rows (Entry α)) (id : Int) (name : String) (cell : Cell) :
    Option (Rows (Entry α)) :=
  if name.toLower = "id" then
    match Leaning.numbers.turn cell with
    | .int new => rows.alter? id fun e => { e with record := Stored.renumber new e.record }
    | _ => none
  else do
    let column ← (Stored.columns : List (Column α)).find? (·.name == name.toLower)
    let cell := column.leaning.turn cell
    if cell = .null ∧ !column.nullable then none else rows.alter? id (Entry.put column cell)

end Rows

namespace Tables

def alter (tables : Tables) (α : Type) [Stored α]
    (f : Rows (Entry α) → Option (Rows (Entry α))) : Tables :=
  match (Stored.table tables : Table (Entry α)) with
  | .holding rows => (f rows).elim tables fun rows => Stored.setTable (.holding rows) tables
  | _ => tables

def overwrite (tables : Tables) (table : TableName) (id : Int) (column : String) (cell : Cell) :
    Tables :=
  match table with
  | .messages => tables.alter Message (·.overwrite? id column cell)
  | .events => tables.alter Event (·.overwrite? id column cell)
  | .agents => tables.alter Registration (·.overwrite? id column cell)
  | .tasks => tables.alter Task (·.overwrite? id column cell)
  | .sequence => tables

/-- Let the engine count on from a number, in the sequence that it counts or the next one. -/
def count (tables : Tables) (last : Int) : Tables :=
  match tables.counted? with
  | some sequence =>
    { tables with sequence := some { sequence with last := max sequence.last last } }
  | none => { tables with start := tables.start.map fun start => max start last }

/-- The first id in a backlog, far beyond those that are given out. -/
def firstBacklogId : Int := 1000001

def backlogTime : Int := 1700000000

def backlogMessage (target : String) (index : Nat) : Entry Message where
  record :=
    Message.unclaimed (firstBacklogId + index) ((Timestamp.ofUnix? backlogTime 0).getD .epoch) none
      target s!"m{index + 1}"

def backlog (tables : Tables) (messages : Nat) (target : String) : Tables :=
  tables.alter Message fun rows =>
    Rows.ofList? (rows.list ++ (List.range messages).map (backlogMessage target))

end Tables

namespace Store

def isWritable (store : Store) : Bool :=
  store.unopenable.isNone && !store.locked && !store.readOnly

def allow (store : Store) (table : TableName) : Store :=
  { store with
    refusedInserts := store.refusedInserts.filter (· ≠ table)
    refusedUpdates := store.refusedUpdates.filter (· ≠ table) }

def refuse (store : Store) (table : TableName) (updates : Bool) : Store :=
  if !store.tables.has table then store
  else if updates then { store with refusedUpdates := table :: store.refusedUpdates }
  else { store with refusedInserts := table :: store.refusedInserts }

end Store

namespace Tampering

def write (store : Store) : Tampering → Store
  | .count last => { store with tables := store.tables.count last }
  | .drop table => { store.allow table with tables := store.tables.drop table }
  | .createForeign table =>
    if store.tables.has table then store
    else { store with tables := store.tables.createForeign table }
  | .refuse table updates => store.refuse table updates
  | .allow table => store.allow table
  | .overwrite table id column cell =>
    if store.refusedUpdates.contains table then store
    else { store with tables := store.tables.overwrite table id column cell }
  | .backlog messages target =>
    if store.refusedInserts.contains .messages then store
    else { store with tables := store.tables.backlog messages target }
  | .lock | .unlock | .makeReadOnly => store

def act (store : Store) : Tampering → Store
  | .lock => { store with locked := true }
  | .unlock => { store with locked := false }
  | .makeReadOnly => { store with readOnly := true }
  | tampering => if store.isWritable then tampering.write store else store

end Tampering

end Switchboard
