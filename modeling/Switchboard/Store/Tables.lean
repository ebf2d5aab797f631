import Switchboard.Store.Schema

namespace Switchboard

/-- The ids given out so far. -/
structure Sequence where
  /-- The rows of the sequence, the newest first. -/
  minted : List Int := []
  /-- No id up to this one is given out again. -/
  last : Int := 0
  /-- The engine keeps a count of its own. A sequence that somebody else made has none. -/
  counted : Bool := true
  deriving DecidableEq, Repr

def Sequence.maxId : Int := 9223372036854775807

def Sequence.next? (sequence : Sequence) : Option (Int × Sequence) :=
  if sequence.last < Sequence.maxId then
    let id := sequence.last + 1
    some (id, { sequence with minted := id :: sequence.minted, last := id })
  else none

structure Tables where
  sequence : Option Sequence := none
  /-- Where the engine starts to count a new sequence. It keeps no counts before it has made one. -/
  start : Option Int := none
  messages : Table (Entry Message) := .absent
  events : Table (Entry Event) := .absent
  agents : Table (Entry Registration) := .absent
  tasks : Table (Entry Task) := .absent

class Stored (α : Type) extends Row α where
  name : TableName
  table : Tables → Table (Entry α)
  setTable : Table (Entry α) → Tables → Tables
  columns : List (Column α)
  reading : List (Column α) := columns
  renumber : Int → α → α

instance : Stored Message where
  name := .messages
  table t := t.messages
  setTable messages t := { t with messages }
  columns := Message.columns
  renumber id m := { m with id }

instance : Stored Event where
  name := .events
  table t := t.events
  setTable events t := { t with events }
  columns := Event.columns
  renumber id e := { e with id }

instance : Stored Registration where
  name := .agents
  table t := t.agents
  setTable agents t := { t with agents }
  columns := Registration.columns
  reading := Registration.listed
  renumber id r := { r with id }

instance : Stored Task where
  name := .tasks
  table t := t.tasks
  setTable tasks t := { t with tasks }
  columns := Task.columns
  renumber id t := { t with id }

namespace Tables

def rows (tables : Tables) (α : Type) [Stored α] : List (Entry α) :=
  (Stored.table tables : Table (Entry α)).toList

def has (tables : Tables) : TableName → Bool
  | .sequence => tables.sequence.isSome
  | .messages => tables.messages.isPresent
  | .events => tables.events.isPresent
  | .agents => tables.agents.isPresent
  | .tasks => tables.tasks.isPresent

/-- The tables that somebody else made and that hold nothing but an id. A sequence needs no more. -/
def isForeign (tables : Tables) : TableName → Bool
  | .sequence => false
  | .messages => tables.messages.isForeign
  | .events => tables.events.isForeign
  | .agents => tables.agents.isForeign
  | .tasks => tables.tasks.isForeign

def create (tables : Tables) : TableName → Tables
  | .sequence =>
    { tables with sequence := some { last := tables.start.getD 0 }, start := some 0 }
  | .messages => { tables with messages := .holding .empty }
  | .events => { tables with events := .holding .empty }
  | .agents => { tables with agents := .holding .empty }
  | .tasks => { tables with tasks := .holding .empty }

def drop (tables : Tables) : TableName → Tables
  | .sequence => { tables with sequence := none }
  | .messages => { tables with messages := .absent }
  | .events => { tables with events := .absent }
  | .agents => { tables with agents := .absent }
  | .tasks => { tables with tasks := .absent }

def createForeign (tables : Tables) : TableName → Tables
  | .sequence => { tables with sequence := some { counted := false } }
  | .messages => { tables with messages := .foreign }
  | .events => { tables with events := .foreign }
  | .agents => { tables with agents := .foreign }
  | .tasks => { tables with tasks := .foreign }

/-- The sequence that the engine counts. -/
def counted? (tables : Tables) : Option Sequence := tables.sequence.filter (·.counted)

def lastCounted? (tables : Tables) : Option Int :=
  (tables.counted?.map (·.last)).orElse fun _ => tables.start

end Tables

end Switchboard
