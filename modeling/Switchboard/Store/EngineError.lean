import Switchboard.Store.Cell

namespace Switchboard

inductive TableName where
  | sequence
  | messages
  | events
  | agents
  | tasks
  deriving DecidableEq, Repr

namespace TableName

def all : List TableName := [.sequence, .messages, .events, .agents, .tasks]

def text : TableName → String
  | .sequence => "id_seq"
  | .messages => "messages"
  | .events => "events"
  | .agents => "agents"
  | .tasks => "tasks"

def ofText? (s : String) : Option TableName :=
  all.find? fun table => table.text == s

end TableName

inductive CellFlaw where
  | noTime (text : String)
  | noInteger (cell : Cell)
  | noFlag (cell : Cell)
  deriving DecidableEq, Repr

namespace CellFlaw

/-- What is said of a cell of another type than the one that is read. -/
def mismatch (wanted wantedType : String) (cell : Cell) : String :=
  "mismatched types; Rust type `" ++ wanted ++ "` (as SQL type `" ++ wantedType ++
    "`) is not compatible with SQL type `" ++ cell.typeName ++ "`"

def text : CellFlaw → String
  | .noTime text => "invalid datetime: " ++ text
  | .noInteger cell => mismatch "core::option::Option<i64>" "INTEGER" cell
  | .noFlag cell => mismatch "bool" "BOOLEAN" cell

end CellFlaw

inductive EngineError where
  | locked
  | readOnly
  | full
  | refused
  | cannotOpen
  | notADatabase
  | noTable (table : TableName)
  /-- A table that somebody else made lacks a column, here as the statement names it. -/
  | noColumn (column : String)
  /-- A table that somebody else made lacks a column of a new row. -/
  | noColumnIn (table : TableName) (column : String)
  | duplicateId (table : TableName)
  /-- A path with a zero character cannot be handed to the engine at all. -/
  | badPath
  | undecodable (column : String) (flaw : CellFlaw)
  | other (code : Nat) (text : String)
  deriving DecidableEq, Repr

namespace EngineError

def code? : EngineError → Option Nat
  | .locked => some 5
  | .readOnly => some 8
  | .full => some 13
  | .refused => some 1811
  | .cannotOpen => some 14
  | .notADatabase => some 26
  | .noTable _ | .noColumn _ | .noColumnIn .. => some 1
  | .duplicateId _ => some 1555
  | .badPath | .undecodable .. => none
  | .other code _ => some code

def text : EngineError → String
  | .locked => "database is locked"
  | .readOnly => "attempt to write a readonly database"
  | .full => "database or disk is full"
  | .refused => "refused"
  | .cannotOpen => "unable to open database file"
  | .notADatabase => "file is not a database"
  | .noTable table => "no such table: " ++ table.text
  | .noColumn column => "no such column: " ++ column
  | .noColumnIn table column => "table " ++ table.text ++ " has no column named " ++ column
  | .duplicateId table => "UNIQUE constraint failed: " ++ table.text ++ ".id"
  | .badPath => "filename passed to SQLite must not contain nul bytes"
  | .undecodable _ flaw => flaw.text
  | .other _ text => text

def source : EngineError → String
  | .badPath => "error communicating with database"
  | .undecodable column _ => "error occurred while decoding column \"" ++ column ++ "\""
  | _ => "error returned from database"

def message (e : EngineError) : String :=
  match e.code? with
  | some code => s!"{e.source}: (code: {code}) {e.text}"
  | none => e.source ++ ": " ++ e.text

/-- The engine could not get at the store because another connection holds it. The low byte of an
extended code tells the primary one; failing that, the text of the error tells. -/
def isBusy (e : EngineError) : Bool :=
  e.code?.any fun code =>
    code % 256 == 5 || code % 256 == 6 || e.text.contains locked.text

/-- The engine has already undone the transaction in which the statement stood. -/
def endsTransaction : EngineError → Bool
  | .refused | .full => true
  | _ => false

end EngineError

end Switchboard
