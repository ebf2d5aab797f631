namespace Switchboard.Time

structure Date where
  year : Int
  month : Nat
  day : Nat
  deriving DecidableEq, Repr

/-- The days of an era of 400 years. -/
def daysPerEra : Int := 146097

/-- The days from 0000-03-01, where an era starts, to 1970-01-01. -/
def daysBeforeEpoch : Int := 719468

def isLeapYear (year : Int) : Bool :=
  year % 4 = 0 && (year % 100 ≠ 0 || year % 400 = 0)

def daysInMonth (year : Int) : Nat → Nat
  | 2 => if isLeapYear year then 29 else 28
  | 4 | 6 | 9 | 11 => 30
  | _ => 31

def Date.Exists (date : Date) : Prop :=
  1 ≤ date.month ∧ date.month ≤ 12 ∧ 1 ≤ date.day ∧ date.day ≤ daysInMonth date.year date.month

instance (date : Date) : Decidable date.Exists := by unfold Date.Exists; infer_instance

/-- The days before the month that comes `months` after March, counted from March 1. -/
def daysBeforeMonth (months : Int) : Int := (153 * months + 2) / 5

def daysBeforeYear (yearOfEra : Int) : Int := yearOfEra * 365 + yearOfEra / 4 - yearOfEra / 100

def Date.dayNumber (date : Date) : Int :=
  let monthsAfterMarch : Int := if 3 ≤ date.month then (date.month : Int) - 3 else date.month + 9
  let year := if 3 ≤ date.month then date.year else date.year - 1
  year / 400 * daysPerEra + daysBeforeYear (year % 400) + daysBeforeMonth monthsAfterMarch +
    (date.day - 1) - daysBeforeEpoch

def yearOfEraDay (day : Int) : Int := (day - day / 1460 + day / 36524 - day / 146096) / 365

def Date.ofDayNumber (number : Int) : Date :=
  let shifted := number + daysBeforeEpoch
  let dayOfEra := shifted % daysPerEra
  let yearOfEra := yearOfEraDay dayOfEra
  let dayOfYear := dayOfEra - daysBeforeYear yearOfEra
  let monthsAfterMarch := (5 * dayOfYear + 2) / 153
  let year := shifted / daysPerEra * 400 + yearOfEra
  { year := if monthsAfterMarch < 10 then year else year + 1
    month := (if monthsAfterMarch < 10 then monthsAfterMarch + 3 else monthsAfterMarch - 9).toNat
    day := (dayOfYear - daysBeforeMonth monthsAfterMarch + 1).toNat }

end Switchboard.Time
