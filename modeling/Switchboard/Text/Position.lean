import Switchboard.Text.Numeral

namespace Switchboard.Text

/-- What comes before the last place where a word occurs in a text, and what comes after it. -/
def splitAtLast? (word : List Char) : List Char → Option (List Char × List Char)
  | [] => none
  | c :: rest =>
    match splitAtLast? word rest with
    | some (before, after) => some (c :: before, after)
    | none =>
      if word.isPrefixOf (c :: rest) then some ([], (c :: rest).drop word.length) else none

def digits? (cs : List Char) : Option Nat :=
  if cs.all Char.isDigit then (readNat64 cs).toOption else none

structure Position where
  line : Nat
  column : Nat
  deriving DecidableEq, Repr

def lineMark : List Char := " at line ".toList
def columnMark : List Char := " column ".toList

def takePosition? (cs : List Char) : Option (List Char × Position) := do
  let (complaint, numbers) ← splitAtLast? lineMark cs
  let rest := numbers.dropWhile Char.isDigit
  guard (columnMark.isPrefixOf rest)
  let line ← digits? (numbers.takeWhile Char.isDigit)
  let column ← digits? (rest.drop columnMark.length)
  some (complaint, { line, column })

def showPosition (complaint : String) : String :=
  match takePosition? complaint.toList with
  | none => complaint
  | some (cs, position) =>
    if position.line = 0 then String.ofList cs
    else s!"{String.ofList cs} at line {position.line} column {position.column}"

end Switchboard.Text
