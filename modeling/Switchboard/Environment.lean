import Switchboard.Text.Alphanumeric
import Switchboard.Text.Blank

namespace Switchboard

/-- Variables and their values. Of two entries with one name the first counts. -/
abbrev Environment := List (String × String)

namespace Environment

def get? (env : Environment) (name : String) : Option String := env.lookup name

def supply (env : Environment) (name value : String) : Environment :=
  if (env.get? name).isSome then env else env ++ [(name, value)]

inductive Mode where
  | plain
  | literal
  | escaped
  /-- After a `$`, with the letters of the name so far, the last one first. -/
  | name (letters : List Char)
  | bracedName (letters : List Char)
  /-- After the blank that ends an unquoted value. -/
  | ended
  deriving DecidableEq

structure Value where
  mode : Mode := .plain
  quoted : Bool := false
  read : List Char := []

namespace Value

def push (v : Value) (c : Char) : Value := { v with mode := .plain, read := c :: v.read }

def resolve (env : Environment) (v : Value) (letters : List Char) : Value :=
  let value := (env.get? (String.ofList letters.reverse)).getD ""
  { v with mode := .plain, read := value.toList.reverse ++ v.read }

def step (env : Environment) (v : Value) (c : Char) : Option Value :=
  match v.mode with
  | .ended => if c = ' ' ∨ c = '\t' then some v else none
  | .escaped =>
    if c ∈ ['\\', '\'', '"', '$', ' '] then some (v.push c)
    else if c = 'n' then some (v.push '\n')
    else none
  | .literal =>
    if c = '\'' then some { v with mode := .plain }
    else some { v with read := c :: v.read }
  | .name letters =>
    if Text.isAlphanumeric c then some { v with mode := .name (c :: letters) }
    else if c = '\x7b' ∧ letters = [] then some { v with mode := .bracedName [] }
    else if c = '$' then some { v.resolve env letters with mode := .name [] }
    else some ((v.resolve env letters).push c)
  | .bracedName letters =>
    if c = '\x7d' then some (v.resolve env letters)
    else some { v with mode := .bracedName (c :: letters) }
  | .plain =>
    if c = '$' then some { v with mode := .name [] }
    else if c = '\\' then some { v with mode := .escaped }
    else if c = '"' then some { v with quoted := !v.quoted }
    else if v.quoted then some (v.push c)
    else if c = '\'' then some { v with mode := .literal }
    else if c = ' ' ∨ c = '\t' then some { v with mode := .ended }
    else some (v.push c)

def finish (env : Environment) (v : Value) : Option String :=
  match v.mode, v.quoted with
  | .literal, _ | .bracedName _, _ | _, true => none
  | .name letters, false => some (String.ofList (v.resolve env letters).read.reverse)
  | _, false => some (String.ofList v.read.reverse)

def ofChars? (env : Environment) (v : Value) : List Char → Option String
  | [] => v.finish env
  | c :: rest =>
    if v.mode = .ended ∧ c = '#' then v.finish env
    else (v.step env c).bind fun v => ofChars? env v rest

end Value

def skipBlank (cs : List Char) : List Char := cs.dropWhile Text.isBlank

def isKeyChar (c : Char) : Bool := c.isAlphanum || c == '_' || c == '.'

def takeKey? (cs : List Char) : Option (String × List Char) :=
  match cs with
  | c :: _ =>
    if c.isAlpha || c == '_' then
      some (String.ofList (cs.takeWhile isKeyChar), skipBlank (cs.dropWhile isKeyChar))
    else none
  | [] => none

def takeEquals? : List Char → Option (List Char)
  | '=' :: rest => some rest
  | _ => none

/-- The key of a line and what comes after its equals sign. The word `export` may come before a key,
and may be one. -/
def takeAssignment? (cs : List Char) : Option (String × List Char) := do
  let (key, rest) ← takeKey? cs
  match takeEquals? rest with
  | some value => some (key, value)
  | none =>
    if key = "export" then
      let (key, rest) ← takeKey? rest
      some (key, ← takeEquals? rest)
    else none

def addLine? (env : Environment) (line : List Char) : Option Environment :=
  match skipBlank (Text.dropEndWhile Text.isBlank line) with
  | [] | '#' :: _ => some env
  | cs => do
    let (key, rest) ← takeAssignment? cs
    match skipBlank rest with
    | [] | '#' :: _ => some (env.supply key "")
    | value => some (env.supply key (← Value.ofChars? env {} value))

/-- What the variables are after the lines of a file. The first line that is not well formed ends
it. -/
def addLines (env : Environment) : List (List Char) → Environment
  | [] => env
  | line :: rest =>
    match env.addLine? line with
    | some env => addLines env rest
    | none => env

/-- Add the variables that a file sets and that are not set yet. -/
def addFile (env : Environment) (text : String) : Environment :=
  env.addLines ((text.splitOn "\n").map String.toList)

end Environment

end Switchboard
