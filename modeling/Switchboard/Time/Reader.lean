import Switchboard.Json.Value
import Switchboard.Text.Blank
import Switchboard.Time.Timestamp

namespace Switchboard.Time.Reader

open Switchboard.Text

def number (width : Nat) (cs : List Char) : Option (Nat × List Char) :=
  let digits := (cs.take width).takeWhile Char.isDigit
  if digits.isEmpty then none
  else
    match readDigits maxInt64 .tooLarge 0 digits with
    | .ok n => some (n, cs.drop digits.length)
    | .error _ => none

def skipBlanks (cs : List Char) : List Char := cs.dropWhile isBlank

def separator (c : Char) (cs : List Char) : Option (List Char) :=
  match skipBlanks cs with
  | d :: rest => if c = d then some rest else none
  | [] => none

def field (cs : List Char) : Option (Nat × List Char) :=
  number 2 (skipBlanks cs)

/-- A year: four digits at most, or any number of them after a sign. -/
def year (cs : List Char) : Option (Int × List Char) :=
  match skipBlanks cs with
  | '-' :: rest => (number rest.length rest).map fun (n, rest) => (-(n : Int), rest)
  | '+' :: rest => (number rest.length rest).map fun (n, rest) => ((n : Int), rest)
  | cs => (number 4 cs).map fun (n, rest) => ((n : Int), rest)

/-- The fraction of a second in nanoseconds; digits after the ninth do not count. -/
def fraction : List Char → Option (Nat × List Char)
  | '.' :: rest =>
    let digits := (rest.take 9).takeWhile Char.isDigit
    (number 9 rest).map fun (n, rest) =>
      (n * Nat.pow 10 (9 - digits.length), rest.dropWhile Char.isDigit)
  | cs => some (0, cs)

def twoDigits : List Char → Option (Nat × List Char)
  | a :: b :: rest =>
    match digitValue? a, digitValue? b with
    | some x, some y => some (x * 10 + y, rest)
    | _, _ => none
  | _ => none

/-- An offset from UTC in seconds, written in numbers. `skip` drops what may stand between the hours
and the minutes. -/
def numericOffset (skip : List Char → Option (List Char)) (cs : List Char) :
    Option (Int × List Char) := do
  let (sign, rest) ← match cs with
    | '+' :: rest => some ((1 : Int), rest)
    | '-' :: rest | '\u2212' :: rest => some (-1, rest)
    | _ => none
  let (hours, rest) ← twoDigits rest
  let (minutes, rest) ← twoDigits (← skip rest)
  if minutes ≤ 59 then some (sign * (hours * 3600 + minutes * 60), rest) else none

def skipColons (cs : List Char) : Option (List Char) :=
  some (cs.dropWhile fun c => c = ':' || isBlank c)

def offset (cs : List Char) : Option (Int × List Char) :=
  match skipBlanks cs with
  | 'Z' :: rest | 'z' :: rest => some (0, rest)
  | cs =>
    if (cs.take 3).map Char.toUpper = ['U', 'T', 'C'] then some (0, cs.drop 3)
    else numericOffset skipColons cs

/-- The parts of a written time as they stand there, before the offset is taken off. -/
structure Parts where
  date : Date
  hour : Nat
  minute : Nat
  second : Nat
  nanos : Nat
  offset : Int

def parts (cs : List Char) : Option (Parts × List Char) := do
  let (year, rest) ← year cs
  let (month, rest) ← field (← separator '-' rest)
  let (day, rest) ← field (← separator '-' rest)
  let rest ← match rest with
    | 't' :: rest | 'T' :: rest | ' ' :: rest => some rest
    | _ => none
  let (hour, rest) ← field rest
  let (minute, rest) ← field (← separator ':' rest)
  let (second, rest) ← field (← separator ':' rest)
  let (nanos, rest) ← fraction rest
  let (offset, rest) ← offset rest
  some (⟨⟨year, month, day⟩, hour, minute, second, nanos, offset⟩, rest)

def Parts.WellFormed (p : Parts) : Prop :=
  p.date.Exists ∧ -262143 ≤ p.date.year ∧ p.date.year ≤ 262142 ∧
    p.hour ≤ 23 ∧ p.minute ≤ 59 ∧ p.second ≤ 60 ∧ p.offset.natAbs < 86400

instance (p : Parts) : Decidable p.WellFormed := by unfold Parts.WellFormed; infer_instance

def Parts.timestamp? (p : Parts) : Option Timestamp :=
  if p.WellFormed then
    let clock : Int := p.hour * 3600 + p.minute * 60 + (min p.second 59 : Nat)
    let leap := if p.second = 60 then nanosPerSecond else 0
    Timestamp.ofUnix? (p.date.dayNumber * 86400 + clock - p.offset) (leap + p.nanos)
  else none

end Switchboard.Time.Reader

namespace Switchboard

def Timestamp.read? (s : String) : Option Timestamp := do
  let (parts, rest) ← Time.Reader.parts s.toList
  if rest.all Text.isBlank then parts.timestamp? else none

def Timestamp.toJson (t : Timestamp) : Json := .text (t.write .exact)

def Timestamp.ofJson? : Json → Option Timestamp
  | .text s => Timestamp.read? s
  | _ => none

end Switchboard
