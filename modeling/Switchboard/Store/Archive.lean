import Switchboard.Json.Reader
import Switchboard.Store.Statement

namespace Switchboard

namespace Registration

def toJson (r : Registration) : Json :=
  .object
    [("id", .int r.id),
     ("created_at", r.createdAt.toJson),
     ("name", .text r.name),
     ("pid", .optionalInt r.pid),
     ("status", Vocabulary.toJson r.status)]

def ofJson? (json : Json) : Option Registration := do
  let members ← json.record? ["id", "created_at", "name", "pid", "status"]
  some
    { id := ← required? Json.int64? members "id"
      createdAt := ← required? Timestamp.ofJson? members "created_at"
      name := ← required? Json.text? members "name"
      pid := ← optional? Json.int64? members "pid"
      status := ← required? Vocabulary.ofJson? members "status" }

end Registration

namespace Cell

/-- A number that is no integer is written as its digits and the number of its places. -/
def toJson : Cell → Json
  | .null => .null
  | .int n => .int n
  | .text s => .text s
  | .decimal digits places => .list [.int digits, .int places]

def ofJson? : Json → Option Cell
  | .null => some .null
  | .int n => some (.int n)
  | .text s => some (.text s)
  | .list [.int digits, .int (.ofNat places)] => some (.decimal digits places)
  | _ => none

end Cell

namespace Entry

variable {α : Type}

def toJson (recordJson : α → Json) (e : Entry α) : Json :=
  .object
    [("record", recordJson e.record),
     ("stray", .object (e.stray.map fun (column, cell) => (column, cell.toJson)))]

def strayOfJson? : Json → Option (List (String × Cell))
  | .object members => members.mapM fun (column, cell) => do some (column, ← Cell.ofJson? cell)
  | _ => none

def ofJson? (record? : Json → Option α) (json : Json) : Option (Entry α) := do
  let members ← json.record? ["record", "stray"]
  some
    { record := ← required? record? members "record"
      stray := ← required? strayOfJson? members "stray" }

end Entry

namespace Sequence

def toJson (sequence : Sequence) : Json :=
  .object
    [("minted", .list (sequence.minted.map .int)),
     ("last", .int sequence.last),
     ("counted", .bool sequence.counted)]

def ofJson? (json : Json) : Option Sequence := do
  let members ← json.record? ["minted", "last", "counted"]
  let minted ← match members.lookup "minted" with
    | some (.list ids) => ids.mapM Json.int64?
    | _ => none
  some
    { minted
      last := ← required? Json.int64? members "last"
      counted := ← required? Json.bool? members "counted" }

end Sequence

namespace Table

variable {α : Type} [Row α]

def toJson (rowJson : α → Json) : Table α → Json
  | .absent => .null
  | .foreign => .text "foreign"
  | .holding rows => .list (rows.list.map rowJson)

def ofJson? (row? : Json → Option α) : Json → Option (Table α)
  | .null => some .absent
  | .text "foreign" => some .foreign
  | .list rows => do some (.holding (← Rows.ofList? (← rows.mapM row?)))
  | _ => none

end Table

namespace Tables

/-- The member that tells where the engine starts to count. -/
def startMember : String := "start"

def toJson (tables : Tables) : Json :=
  .object
    [(TableName.sequence.text, (tables.sequence.map Sequence.toJson).getD .null),
     (TableName.messages.text, tables.messages.toJson (Entry.toJson Message.toJson)),
     (TableName.events.text, tables.events.toJson (Entry.toJson Event.toJson)),
     (TableName.agents.text, tables.agents.toJson (Entry.toJson Registration.toJson)),
     (TableName.tasks.text, tables.tasks.toJson (Entry.toJson Task.toJson)),
     (startMember, .optionalInt tables.start)]

def ofJson? (json : Json) : Option Tables := do
  let members ← json.record? (TableName.all.map TableName.text ++ [startMember])
  let table {α : Type} [Row α] (record? : Json → Option α) (name : TableName) :
      Option (Table (Entry α)) :=
    required? (Table.ofJson? (Entry.ofJson? record?)) members name.text
  some
    { sequence := ← optional? Sequence.ofJson? members TableName.sequence.text
      messages := ← table Message.ofJson? .messages
      events := ← table Event.ofJson? .events
      agents := ← table Registration.ofJson? .agents
      tasks := ← table Task.ofJson? .tasks
      start := ← optional? Json.int64? members startMember }

end Tables

namespace Store

def fileText (store : Store) : String := store.tables.toJson.write ++ "\n"

/-- The store that a file keeps. A file of at most one byte keeps an empty store. -/
def ofFileText (text : String) : Store :=
  if text.utf8ByteSize ≤ 1 then {}
  else
    match (Json.read? text).bind Tables.ofJson? with
    | some tables => { tables }
    | none => { unopenable := some .notADatabase }

end Store

end Switchboard
