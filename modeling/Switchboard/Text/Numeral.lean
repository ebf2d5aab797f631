namespace Switchboard.Text

def maxInt64 : Nat := 9223372036854775807

def maxNat64 : Nat := 18446744073709551615

/-- The numbers that a signed 64-bit integer can hold. -/
def FitsInt64 (n : Int) : Prop := -9223372036854775808 ≤ n ∧ n ≤ 9223372036854775807

instance (n : Int) : Decidable (FitsInt64 n) := by unfold FitsInt64; infer_instance

inductive NumeralFlaw where
  | empty
  | invalidDigit
  | tooLarge
  | tooSmall
  deriving DecidableEq, Repr

def NumeralFlaw.message : NumeralFlaw → String
  | .empty => "cannot parse integer from empty string"
  | .invalidDigit => "invalid digit found in string"
  | .tooLarge => "number too large to fit in target type"
  | .tooSmall => "number too small to fit in target type"

def digitValue? (c : Char) : Option Nat :=
  if '0' ≤ c ∧ c ≤ '9' then some (c.toNat - '0'.toNat) else none

/-- Continue a number with further digits. The first character that is no digit, or whose digit
takes the number above `limit`, decides the flaw. -/
def readDigits (limit : Nat) (overflow : NumeralFlaw) : Nat → List Char → Except NumeralFlaw Nat
  | value, [] => .ok value
  | value, c :: rest =>
    match digitValue? c with
    | none => .error .invalidDigit
    | some d =>
      if value * 10 + d ≤ limit then readDigits limit overflow (value * 10 + d) rest
      else .error overflow

def readNat64 : List Char → Except NumeralFlaw Nat
  | [] => .error .empty
  | ['+'] => .error .invalidDigit
  | '+' :: digits => readDigits maxNat64 .tooLarge 0 digits
  | digits => readDigits maxNat64 .tooLarge 0 digits

def readInt64 : List Char → Except NumeralFlaw Int
  | [] => .error .empty
  | ['+'] | ['-'] => .error .invalidDigit
  | '+' :: digits => (readDigits maxInt64 .tooLarge 0 digits).map Int.ofNat
  | '-' :: digits => (readDigits (maxInt64 + 1) .tooSmall 0 digits).map fun n => -Int.ofNat n
  | digits => (readDigits maxInt64 .tooLarge 0 digits).map Int.ofNat

def padded (width n : Nat) : String :=
  let digits := toString n
  String.ofList (List.replicate (width - digits.length) '0') ++ digits

end Switchboard.Text
