import Switchboard.Time.Reader

namespace Switchboard.Time.Reader

def exactly (c : Char) : List Char → Option (List Char)
  | d :: rest => if c = d then some rest else none
  | [] => none

def strictOffset : List Char → Option (Int × List Char)
  | 'Z' :: rest | 'z' :: rest => some (0, rest)
  | cs => numericOffset (exactly ':') cs

/-- Every field has all its digits, and nothing stands between the fields but their separators. -/
def strictParts (cs : List Char) : Option (Parts × List Char) := do
  let (century, rest) ← twoDigits cs
  let (year, rest) ← twoDigits rest
  let (month, rest) ← twoDigits (← exactly '-' rest)
  let (day, rest) ← twoDigits (← exactly '-' rest)
  let rest ← match rest with
    | 't' :: rest | 'T' :: rest | ' ' :: rest => some rest
    | _ => none
  let (hour, rest) ← twoDigits rest
  let (minute, rest) ← twoDigits (← exactly ':' rest)
  let (second, rest) ← twoDigits (← exactly ':' rest)
  let (nanos, rest) ← fraction rest
  let (offset, rest) ← strictOffset rest
  some (⟨⟨(century * 100 + year : Nat), month, day⟩, hour, minute, second, nanos, offset⟩, rest)

def looseSeconds : List Char → Option (Nat × Nat × List Char)
  | ':' :: rest => do
    let (second, rest) ← field rest
    let (nanos, rest) ← fraction rest
    some (second, nanos, rest)
  | cs => some (0, 0, cs)

def looseOffset : List Char → Option (Int × List Char)
  | [] => some (0, [])
  | ['Z'] => some (0, [])
  | cs => numericOffset skipColons (skipBlanks cs)

def looseParts (cs : List Char) : Option (Parts × List Char) := do
  let (year, rest) ← year cs
  let (month, rest) ← field (← exactly '-' rest)
  let (day, rest) ← field (← exactly '-' rest)
  let rest := match rest with
    | 'T' :: rest => rest
    | rest => rest
  let (hour, rest) ← field rest
  let (minute, rest) ← field (← exactly ':' rest)
  let (second, nanos, rest) ← looseSeconds rest
  let (offset, rest) ← looseOffset rest
  some (⟨⟨year, month, day⟩, hour, minute, second, nanos, offset⟩, rest)

def wholeText? (parsed : Option (Parts × List Char)) : Option Parts :=
  match parsed with
  | some (parts, []) => some parts
  | _ => none

end Switchboard.Time.Reader

namespace Switchboard

open Time.Reader

/-- The point in time that the text in a column denotes. An offset of a day or more is passed over,
and so is one that leads out of the years that can be written. -/
def Timestamp.ofStored? (s : String) : Option Timestamp :=
  let strict := (wholeText? (strictParts s.toList)).bind Parts.timestamp?
  let loose := (wholeText? (looseParts s.toList)).bind fun parts =>
    parts.timestamp?.orElse fun _ => Parts.timestamp? { parts with offset := 0 }
  strict.orElse fun _ => loose

end Switchboard
