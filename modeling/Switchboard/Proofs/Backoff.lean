import Mathlib.Algebra.Group.Nat.Defs
import Mathlib.Logic.Function.Iterate
import Switchboard.Transaction

namespace Switchboard

namespace Duration

theorem toNat_milliseconds (d : Duration) :
    d.milliseconds.toNat = d.seconds.toNat * 1000 + d.nanoseconds.toNat / 1000000 := by
  have hseconds : d.seconds.toNat < 2 ^ 64 := d.seconds.toNat_lt
  have hnanoseconds : d.nanoseconds.toNat < 2 ^ 32 := d.nanoseconds.toNat_lt
  simp [milliseconds, BitVec.toNat_add, BitVec.toNat_mul]
  omega

theorem toNat_milliseconds_ofMilliseconds (n : UInt64) :
    (ofMilliseconds n).milliseconds.toNat = n.toNat := by
  rw [toNat_milliseconds]
  simp [ofMilliseconds]
  omega

theorem toNat_doubled {n : BitVec 128} (h : 2 * n.toNat < 2 ^ 128) :
    (doubled n).toNat = 2 * n.toNat := by
  unfold doubled
  rw [if_neg]
  · rw [BitVec.toNat_mul]
    simp
    omega
  · simp [BitVec.umulOverflow]
    omega

/-- Twice the longest span that the clock can keep is far from too much for 128 bits. -/
theorem toNat_doubled_milliseconds (d : Duration) :
    (doubled d.milliseconds).toNat = 2 * d.milliseconds.toNat := by
  apply toNat_doubled
  have hseconds : d.seconds.toNat < 2 ^ 64 := d.seconds.toNat_lt
  have hnanoseconds : d.nanoseconds.toNat < 2 ^ 32 := d.nanoseconds.toNat_lt
  rw [toNat_milliseconds]
  omega

theorem toNat_narrowed {n : BitVec 128} (h : n.toNat < UInt64.size) :
    (narrowed n).toNat = n.toNat := by
  unfold narrowed
  rw [if_pos h]
  have hsize : UInt64.size = 2 ^ 64 := rfl
  simp
  omega

end Duration

namespace Operation

theorem toNat_nextBackoff (d : Duration) :
    (nextBackoff d).milliseconds.toNat = min (2 * d.milliseconds.toNat) 2000 := by
  have hdoubled := d.toNat_doubled_milliseconds
  have hlongest : maxBackoff.milliseconds.toNat = 2000 := rfl
  have hsize : UInt64.size = 2 ^ 64 := rfl
  unfold nextBackoff
  rw [Duration.toNat_milliseconds_ofMilliseconds]
  split
  all_goals
    rename_i hle
    rw [BitVec.le_def, hdoubled, hlongest] at hle
    rw [Duration.toNat_narrowed (by omega)]
    omega

/-- The milliseconds of the pause that comes after so many others. -/
def pauseAfter (first : Nat) : Nat → Nat
  | 0 => first
  | k + 1 => min (2 * pauseAfter first k) 2000

theorem pauseAfter_succ (first k : Nat) :
    pauseAfter first (k + 1) = min (first * 2 ^ (k + 1)) 2000 := by
  induction k with
  | zero => simp [pauseAfter, Nat.mul_comm]
  | succ k ih =>
    have hpower : first * 2 ^ (k + 1 + 1) = 2 * (first * 2 ^ (k + 1)) := by
      rw [Nat.pow_succ 2 (k + 1), ← Nat.mul_assoc, Nat.mul_comm]
    rw [pauseAfter, ih, hpower]
    omega

theorem pauseAfter_lt {first : Nat} (hfirst : first < UInt64.size) (k : Nat) :
    pauseAfter first k < UInt64.size := by
  have hsize : UInt64.size = 2 ^ 64 := rfl
  cases k with
  | zero => exact hfirst
  | succ k =>
    rw [pauseAfter]
    omega

def backoffAfter (first : Nat) (k : Nat) : Duration :=
  nextBackoff^[k] (.ofMilliseconds (.ofNat first))

theorem nextBackoff_backoffAfter (first k : Nat) :
    nextBackoff (backoffAfter first k) = backoffAfter first (k + 1) :=
  (Function.iterate_succ_apply' nextBackoff k _).symm

theorem toNat_backoffAfter {first : Nat} (hfirst : first < UInt64.size) (k : Nat) :
    (backoffAfter first k).milliseconds.toNat = pauseAfter first k := by
  induction k with
  | zero =>
    rw [pauseAfter]
    change (Duration.ofMilliseconds (.ofNat first)).milliseconds.toNat = first
    rw [Duration.toNat_milliseconds_ofMilliseconds]
    exact UInt64.toNat_ofNat_of_lt' hfirst
  | succ k ih => rw [← nextBackoff_backoffAfter, toNat_nextBackoff, ih, pauseAfter]

theorem toNat_narrowed_backoffAfter {first : Nat} (hfirst : first < UInt64.size) (k : Nat) :
    (Duration.narrowed (backoffAfter first k).milliseconds).toNat = pauseAfter first k := by
  have hexact := toNat_backoffAfter hfirst k
  rw [Duration.toNat_narrowed (hexact ▸ pauseAfter_lt hfirst k), hexact]

end Operation

end Switchboard
