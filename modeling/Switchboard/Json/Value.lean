import Switchboard.Text.Numeral

namespace Switchboard

inductive Json where
  | null
  | bool (value : Bool)
  | int (value : Int)
  | fraction (written : String)
  | text (value : String)
  | list (items : List Json)
  | object (members : List (String × Json))
  deriving Repr, BEq, Inhabited

namespace Json

def escapeChar (c : Char) : List Char :=
  match c with
  | '"' => ['\\', '"']
  | '\\' => ['\\', '\\']
  | '\x08' => ['\\', 'b']
  | '\t' => ['\\', 't']
  | '\n' => ['\\', 'n']
  | '\x0c' => ['\\', 'f']
  | '\r' => ['\\', 'r']
  | c =>
    if c.toNat < 0x20 then
      ['\\', 'u', '0', '0', Nat.digitChar (c.toNat / 16), Nat.digitChar (c.toNat % 16)]
    else [c]

def writeText (s : String) : List Char :=
  '"' :: s.toList.flatMap escapeChar ++ ['"']

mutual

def chars : Json → List Char
  | .null => "null".toList
  | .bool true => "true".toList
  | .bool false => "false".toList
  | .int n => (toString n).toList
  | .fraction written => written.toList
  | .text s => writeText s
  | .list items => '[' :: itemChars items ++ [']']
  | .object members => '{' :: memberChars members ++ ['}']

def itemChars : List Json → List Char
  | [] => []
  | [item] => item.chars
  | item :: rest => item.chars ++ ',' :: itemChars rest

def memberChars : List (String × Json) → List Char
  | [] => []
  | [(name, value)] => writeText name ++ ':' :: value.chars
  | (name, value) :: rest => writeText name ++ ':' :: value.chars ++ ',' :: memberChars rest

end

def write (value : Json) : String :=
  String.ofList value.chars

def optionalText : Option String → Json
  | some s => .text s
  | none => .null

def optionalInt : Option Int → Json
  | some n => .int n
  | none => .null

def text? : Json → Option String
  | .text s => some s
  | _ => none

def int64? : Json → Option Int
  | .int n => if Text.FitsInt64 n then some n else none
  | _ => none

def bool? : Json → Option Bool
  | .bool b => some b
  | _ => none

/-- A value that may be `null`, for the absence of what `read` reads. -/
def nullable? {α : Type} (read : Json → Option α) : Json → Option (Option α)
  | .null => some none
  | value => (read value).map some

/-- The members of a record whose member names are `names`. A record may also be written as the list
of its members in that order. -/
def record? (names : List String) : Json → Option (List (String × Json))
  | .object members => some members
  | .list items => if items.length = names.length then some (names.zip items) else none
  | _ => none

end Json

def required? {α : Type} (read : Json → Option α) (members : List (String × Json)) (name : String) :
    Option α :=
  (members.lookup name).bind read

def optional? {α : Type} (read : Json → Option α) (members : List (String × Json)) (name : String) :
    Option (Option α) :=
  match members.lookup name with
  | none => some none
  | some value => Json.nullable? read value

end Switchboard
