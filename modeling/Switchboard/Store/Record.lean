import Switchboard.Store.EngineError
import Switchboard.Store.Table
import Switchboard.Time.Stored
import Switchboard.Vocabulary

namespace Switchboard

structure Entry (α : Type) where
  record : α
  stray : List (String × Cell) := []
  deriving DecidableEq

instance {α : Type} [Row α] : Row (Entry α) := ⟨fun e => Row.id e.record⟩

structure Column (α : Type) where
  name : String
  leaning : Leaning
  nullable : Bool
  cell : α → Cell
  /-- The record for which a cell stands, if it stands for any. -/
  keep? : Cell → α → Option α
  /-- The record as it is read where a stray cell stands. -/
  read : Cell → α → Except CellFlaw α := fun _ record => .ok record
  /-- The column holds a word of an enumeration, and reading leaves a stray cell to whoever asks for
  the word. -/
  holdsWord : Bool := false

namespace Column

variable {α β : Type}

def text (name : String) (get : α → String) (put : String → α → α) : Column α where
  name
  leaning := .texts
  nullable := false
  cell record := .text (get record)
  keep?
    | .text s, record => some (put s record)
    | _, _ => none

def optionalText (name : String) (get : α → Option String) (put : Option String → α → α) :
    Column α where
  name
  leaning := .texts
  nullable := true
  cell record := .optionalText (get record)
  keep?
    | .text s, record => some (put (some s) record)
    | .null, record => some (put none record)
    | _, _ => none

/-- The time that a cell holds in the form in which the operations write it. -/
def writtenTime? : Cell → Option Timestamp
  | .text s => (Timestamp.ofStored? s).filter fun t => t.write .exact == s
  | _ => none

def readTime : Cell → Except CellFlaw Timestamp
  | .text s =>
    match Timestamp.ofStored? s with
    | some t => .ok t
    | none => .error (.noTime s)
  | _ => .error (.noTime "")

def time (name : String) (get : α → Timestamp) (put : Timestamp → α → α) : Column α where
  name
  leaning := .texts
  nullable := false
  cell record := .text ((get record).write .exact)
  keep? cell record := (writtenTime? cell).map fun t => put t record
  read cell record := (readTime cell).map fun t => put t record

def optionalTime (name : String) (get : α → Option Timestamp)
    (put : Option Timestamp → α → α) : Column α where
  name
  leaning := .texts
  nullable := true
  cell record := .optionalText ((get record).map (·.write .exact))
  keep?
    | .null, record => some (put none record)
    | cell, record => (writtenTime? cell).map fun t => put (some t) record
  read cell record := (readTime cell).map fun t => put (some t) record

def optionalInt (name : String) (get : α → Option Int) (put : Option Int → α → α) : Column α where
  name
  leaning := .numbers
  nullable := true
  cell record := .optionalInt (get record)
  keep?
    | .int n, record => some (put (some n) record)
    | .null, record => some (put none record)
    | _, _ => none
  read cell _ := .error (.noInteger cell)

/-- A column of truth values, which 0 and 1 stand for. Any other integer is read as true unless its
low 32 bits are zero. -/
def flag (name : String) (get : α → Bool) (put : Bool → α → α) : Column α where
  name
  leaning := .numbers
  nullable := false
  cell record := .int (if get record then 1 else 0)
  keep?
    | .int 0, record => some (put false record)
    | .int 1, record => some (put true record)
    | _, _ => none
  read
    | .int n, record => .ok (put (n % 4294967296 != 0) record)
    | cell, _ => .error (.noFlag cell)

def word [Vocabulary β] (name : String) (get : α → β) (put : β → α → α) : Column α where
  name
  leaning := .texts
  nullable := false
  cell record := .text (Vocabulary.word (get record))
  keep?
    | .text s, record => (Vocabulary.ofWord? s).map fun b => put b record
    | _, _ => none
  holdsWord := true

end Column

namespace Entry

variable {α : Type}

def stray? (e : Entry α) (column : String) : Option Cell := e.stray.lookup column

def cell (column : Column α) (e : Entry α) : Cell :=
  (e.stray? column.name).getD (column.cell e.record)

def without (columns : List String) (e : Entry α) : Entry α :=
  { e with stray := e.stray.filter fun (column, _) => !columns.contains column }

def change (columns : List String) (f : α → α) (e : Entry α) : Entry α :=
  { e.without columns with record := f e.record }

/-- Put a cell into a column, as a stray one unless the record can say the same. -/
def put (column : Column α) (cell : Cell) (e : Entry α) : Entry α :=
  match column.keep? cell e.record with
  | some record => { e.without [column.name] with record }
  | none => { e with stray := (column.name, cell) :: (e.without [column.name]).stray }

/-- What a column reads of an entry. Only a word that is none may be left stray. -/
def readColumn (e : Entry α) (column : Column α) : Except EngineError (Entry α) :=
  match e.stray? column.name with
  | none => .ok e
  | some cell =>
    if column.holdsWord then .ok e
    else
      match column.read cell e.record with
      | .ok record => .ok { e.without [column.name] with record }
      | .error flaw => .error (.undecodable column.name flaw)

/-- Read the columns of an entry one after the other. The first one that cannot be read decides the
error. -/
def read (columns : List (Column α)) (e : Entry α) : Except EngineError (Entry α) :=
  columns.foldlM readColumn e

theorem read_of_stray_eq_nil (columns : List (Column α)) (e : Entry α) (h : e.stray = []) :
    e.read columns = .ok e := by
  induction columns with
  | nil => rfl
  | cons column rest ih =>
    have hcell : e.readColumn column = .ok e := by simp [readColumn, stray?, h]
    simpa [read, List.foldlM_cons, hcell, bind, Except.bind] using ih

end Entry

end Switchboard
