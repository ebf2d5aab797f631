import Switchboard.Text.Numeral

namespace Switchboard

inductive Cell where
  | null
  | int (n : Int)
  /-- The number `digits / 10 ^ places`, which is not an integer that a column can hold. -/
  | decimal (digits : Int) (places : Nat)
  | text (s : String)
  deriving DecidableEq, Repr

namespace Cell

def optionalInt : Option Int → Cell
  | some n => .int n
  | none => .null

def optionalText : Option String → Cell
  | some s => .text s
  | none => .null

def typeName : Cell → String
  | .null => "NULL"
  | .int _ => "INTEGER"
  | .decimal .. => "REAL"
  | .text _ => "TEXT"

def isMargin (c : Char) : Bool := c = ' ' || ('\t' ≤ c && c ≤ '\r')

def takeSign : List Char → Int × List Char
  | '-' :: rest => (-1, rest)
  | '+' :: rest => (1, rest)
  | cs => (1, cs)

def digitsValue (cs : List Char) : Nat :=
  cs.foldl (fun n c => n * 10 + (c.toNat - '0'.toNat)) 0

def takeFraction : List Char → List Char × List Char
  | '.' :: rest => (rest.takeWhile Char.isDigit, rest.dropWhile Char.isDigit)
  | cs => ([], cs)

def exponent? : List Char → Option Int
  | [] => some 0
  | c :: rest =>
    let (sign, digits) := takeSign rest
    if (c = 'e' ∨ c = 'E') ∧ digits ≠ [] ∧ digits.all Char.isDigit then
      some (sign * digitsValue digits)
    else none

/-- Numbers with larger exponents count as far from every integer that a column can hold. -/
def maxExponent : Nat := 400

def ofScientific (digits : Int) (exponent : Int) : Cell :=
  if digits = 0 then .int 0
  else if exponent.natAbs > maxExponent then .decimal digits 0
  else if 0 ≤ exponent then
    let n := digits * Nat.pow 10 exponent.toNat
    if Text.FitsInt64 n then .int n else .decimal n 0
  else
    let unit : Int := Nat.pow 10 exponent.natAbs
    if digits % unit = 0 ∧ Text.FitsInt64 (digits / unit) then .int (digits / unit)
    else .decimal digits exponent.natAbs

def ofNumeral? (s : String) : Option Cell := do
  let cs := ((s.toList.dropWhile isMargin).reverse.dropWhile isMargin).reverse
  let (sign, rest) := takeSign cs
  let whole := rest.takeWhile Char.isDigit
  let (fraction, rest) := takeFraction (rest.dropWhile Char.isDigit)
  guard (!(whole ++ fraction).isEmpty)
  let exponent ← exponent? rest
  some (ofScientific (sign * digitsValue (whole ++ fraction)) (exponent - fraction.length))

end Cell

/-- What a column turns its cells into. -/
inductive Leaning where
  | texts
  | numbers
  deriving DecidableEq, Repr

def Leaning.turn : Leaning → Cell → Cell
  | .texts, .int n => .text (toString n)
  | .numbers, .text s => (Cell.ofNumeral? s).getD (.text s)
  | _, cell => cell

end Switchboard
