import Switchboard.Json.Value

namespace Switchboard

class Vocabulary (α : Type) where
  all : List α
  word : α → String
  refusal : String → String

namespace Vocabulary

variable {α : Type} [Vocabulary α]

def ofWord? (s : String) : Option α :=
  (all : List α).find? fun a => word a == s

def read (s : String) : Except String α :=
  match ofWord? s with
  | some a => .ok a
  | none => .error (refusal α s)

def toJson (a : α) : Json := .text (word a)

/-- A value is written as its word; an object with that word as its only member name, holding
`null`, stands for it too. -/
def ofJson? : Json → Option α
  | .text s => ofWord? s
  | .object [(s, .null)] => ofWord? s
  | _ => none

end Vocabulary

end Switchboard
