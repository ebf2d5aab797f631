import Switchboard.Text.Numeral
import Switchboard.Time.Calendar

namespace Switchboard

open Switchboard.Text Switchboard.Time

def nanosPerSecond : Nat := 1000000000

/-- The first and the last second of the years that can be written, -262143 to 262142. -/
def firstSecond : Int := -8334601228800
def lastSecond : Int := 8210266876799

/-- A second and the nanoseconds after it make a point in time: the second is in range, and the
nanoseconds fill one second, or two at the end of a minute. -/
def IsPointInTime (seconds : Int) (nanos : Nat) : Prop :=
  firstSecond ≤ seconds ∧ seconds ≤ lastSecond ∧
    (nanos < nanosPerSecond ∨ nanos < 2 * nanosPerSecond ∧ seconds % 60 = 59)

instance (seconds : Int) (nanos : Nat) : Decidable (IsPointInTime seconds nanos) := by
  unfold IsPointInTime; infer_instance

structure Timestamp where
  seconds : Int
  nanos : Nat
  valid : IsPointInTime seconds nanos
  deriving DecidableEq

namespace Timestamp

def ofUnix? (seconds : Int) (nanos : Nat) : Option Timestamp :=
  if h : IsPointInTime seconds nanos then some ⟨seconds, nanos, h⟩ else none

def epoch : Timestamp := ⟨0, 0, by decide⟩

instance : Inhabited Timestamp := ⟨epoch⟩

inductive Precision where
  | millis
  /-- None, three, six or nine digits, the fewest that lose nothing. -/
  | exact
  deriving DecidableEq

def yearText (year : Int) : String :=
  if 0 ≤ year ∧ year ≤ 9999 then padded 4 year.toNat
  else if 0 ≤ year then "+" ++ padded 4 year.toNat
  else "-" ++ padded 4 year.natAbs

def fractionText (precision : Precision) (nanos : Nat) : String :=
  match precision with
  | .millis => "." ++ padded 3 (nanos / 1000000)
  | .exact =>
    if nanos = 0 then ""
    else if nanos % 1000000 = 0 then "." ++ padded 3 (nanos / 1000000)
    else if nanos % 1000 = 0 then "." ++ padded 6 (nanos / 1000)
    else "." ++ padded 9 nanos

def write (precision : Precision) (t : Timestamp) : String :=
  let date := Date.ofDayNumber (t.seconds / 86400)
  let clock := (t.seconds % 86400).toNat
  let leap := nanosPerSecond ≤ t.nanos
  let second := if leap then clock % 60 + 1 else clock % 60
  let nanos := if leap then t.nanos - nanosPerSecond else t.nanos
  yearText date.year ++ "-" ++ padded 2 date.month ++ "-" ++ padded 2 date.day ++ "T" ++
    padded 2 (clock / 3600) ++ ":" ++ padded 2 (clock / 60 % 60) ++ ":" ++ padded 2 second ++
    fractionText precision nanos ++ "Z"

end Timestamp

end Switchboard
