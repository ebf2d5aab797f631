import Switchboard.Json.Value

namespace Switchboard.Json.Reader

def isBlank (c : Char) : Bool := c = ' ' || c = '\t' || c = '\n' || c = '\r'

def skipBlanks (cs : List Char) : List Char := cs.dropWhile isBlank

def word : List Char → List Char → Option (List Char)
  | [], cs => some cs
  | _ :: _, [] => none
  | w :: ws, c :: cs => if w = c then word ws cs else none

def hexValue? (c : Char) : Option Nat :=
  if '0' ≤ c ∧ c ≤ '9' then some (c.toNat - '0'.toNat)
  else if 'a' ≤ c ∧ c ≤ 'f' then some (c.toNat - 'a'.toNat + 10)
  else if 'A' ≤ c ∧ c ≤ 'F' then some (c.toNat - 'A'.toNat + 10)
  else none

def hex4 (a b c d : Char) : Option Nat := do
  some ((((← hexValue? a) * 16 + (← hexValue? b)) * 16 + (← hexValue? c)) * 16 + (← hexValue? d))

/-- The character that the letter after a backslash stands for. -/
def simpleEscape? : Char → Option Char
  | '"' => some '"'
  | '\\' => some '\\'
  | '/' => some '/'
  | 'b' => some '\x08'
  | 't' => some '\t'
  | 'n' => some '\n'
  | 'f' => some '\x0c'
  | 'r' => some '\r'
  | _ => none

/-- A character given by its code, and the pair of codes that stands for one above U+FFFF. -/
def escaped : List Char → Option (Char × List Char)
  | 'u' :: a :: b :: c :: d :: rest => do
    let high ← hex4 a b c d
    if 0xD800 ≤ high ∧ high ≤ 0xDBFF then
      match rest with
      | '\\' :: 'u' :: e :: f :: g :: h :: rest =>
        let low ← hex4 e f g h
        if 0xDC00 ≤ low ∧ low ≤ 0xDFFF then
          some (Char.ofNat (0x10000 + (high - 0xD800) * 0x400 + (low - 0xDC00)), rest)
        else none
      | _ => none
    else if 0xDC00 ≤ high ∧ high ≤ 0xDFFF then none
    else some (Char.ofNat high, rest)
  | c :: rest => (simpleEscape? c).map fun c => (c, rest)
  | [] => none

def stringTail : Nat → List Char → Option (List Char × List Char)
  | 0, _ => none
  | _, [] => none
  | _ + 1, '"' :: rest => some ([], rest)
  | fuel + 1, '\\' :: rest => do
    let (c, rest) ← escaped rest
    let (cs, rest) ← stringTail fuel rest
    some (c :: cs, rest)
  | fuel + 1, c :: rest =>
    if c.toNat < 0x20 then none
    else (stringTail fuel rest).map fun (cs, rest) => (c :: cs, rest)

def string : List Char → Option (String × List Char)
  | '"' :: rest =>
    (stringTail (rest.length + 1) rest).map fun (cs, rest) => (String.ofList cs, rest)
  | _ => none

def digits (cs : List Char) : Option (List Char × List Char) :=
  let run := cs.takeWhile Char.isDigit
  if run.isEmpty then none else some (run, cs.drop run.length)

/-- The digits before the point: no zero stands in front of another digit. -/
def wholeDigits : List Char → Option (List Char × List Char)
  | '0' :: rest => some (['0'], rest)
  | cs => digits cs

def pointDigits : List Char → Option (List Char × List Char)
  | '.' :: rest => (digits rest).map fun (ds, rest) => ('.' :: ds, rest)
  | cs => some ([], cs)

def exponent : List Char → Option (List Char × List Char)
  | e :: rest =>
    if e = 'e' ∨ e = 'E' then
      match rest with
      | '+' :: rest => (digits rest).map fun (ds, rest) => (e :: '+' :: ds, rest)
      | '-' :: rest => (digits rest).map fun (ds, rest) => (e :: '-' :: ds, rest)
      | rest => (digits rest).map fun (ds, rest) => (e :: ds, rest)
    else some ([], e :: rest)
  | [] => some ([], [])

def natOfDigits (ds : List Char) : Nat :=
  ds.foldl (fun n c => n * 10 + (c.toNat - '0'.toNat)) 0

def number (cs : List Char) : Option (Json × List Char) := do
  let (negative, rest) := match cs with
    | '-' :: rest => (true, rest)
    | cs => (false, cs)
  let (whole, rest) ← wholeDigits rest
  let (point, rest) ← pointDigits rest
  let (exp, rest) ← exponent rest
  if point.isEmpty && exp.isEmpty then
    let n : Int := natOfDigits whole
    some (.int (if negative then -n else n), rest)
  else
    let written := whole ++ point ++ exp
    some (.fraction (String.ofList (if negative then '-' :: written else written)), rest)

mutual

def value : Nat → List Char → Option (Json × List Char)
  | 0, _ => none
  | fuel + 1, cs =>
    match skipBlanks cs with
    | 'n' :: rest => (word ['u', 'l', 'l'] rest).map fun rest => (.null, rest)
    | 't' :: rest => (word ['r', 'u', 'e'] rest).map fun rest => (.bool true, rest)
    | 'f' :: rest => (word ['a', 'l', 's', 'e'] rest).map fun rest => (.bool false, rest)
    | '"' :: rest => (string ('"' :: rest)).map fun (s, rest) => (.text s, rest)
    | '[' :: rest =>
      match skipBlanks rest with
      | ']' :: rest => some (.list [], rest)
      | rest => (items fuel rest).map fun (xs, rest) => (.list xs, rest)
    | '{' :: rest =>
      match skipBlanks rest with
      | '}' :: rest => some (.object [], rest)
      | rest => (members fuel rest).map fun (ms, rest) => (.object ms, rest)
    | cs => number cs

def items : Nat → List Char → Option (List Json × List Char)
  | 0, _ => none
  | fuel + 1, cs => do
    let (x, rest) ← value fuel cs
    match skipBlanks rest with
    | ']' :: rest => some ([x], rest)
    | ',' :: rest => (items fuel rest).map fun (xs, rest) => (x :: xs, rest)
    | _ => none

def members : Nat → List Char → Option (List (String × Json) × List Char)
  | 0, _ => none
  | fuel + 1, cs => do
    let (name, rest) ← string (skipBlanks cs)
    match skipBlanks rest with
    | ':' :: rest =>
      let (x, rest) ← value fuel rest
      match skipBlanks rest with
      | '}' :: rest => some ([(name, x)], rest)
      | ',' :: rest => (members fuel rest).map fun (ms, rest) => ((name, x) :: ms, rest)
      | _ => none
    | _ => none

end

end Switchboard.Json.Reader

namespace Switchboard

def Json.read? (s : String) : Option Json := do
  let cs := s.toList
  let (value, rest) ← Json.Reader.value (cs.length + 1) cs
  if (Json.Reader.skipBlanks rest).isEmpty then some value else none

end Switchboard
