/-!
# `Duration` — spans of time

Whole seconds that fit 64 bits and a remainder of less than a second in nanoseconds.

## Contents
- **`Duration`**, and **`ofSecs`**, **`ofMillis`**.
- **`ofParts?`**: a duration from seconds and any number of nanoseconds, the excess carried over.
- **`add?`**: the sum, if it fits.
-/

namespace CassetteGate

/-- How many nanoseconds make a second. -/
def nanosPerSec : Nat := 1000000000

/-- A span of time. -/
structure Duration where
  /-- Whole seconds. -/
  secs : UInt64
  /-- The rest in nanoseconds. -/
  nanos : UInt32
  /-- The rest is less than a second. -/
  nanos_lt : nanos.toNat < nanosPerSec
  deriving DecidableEq

namespace Duration

/-- Whole seconds. -/
def ofSecs (secs : UInt64) : Duration := ⟨secs, 0, by decide⟩

/-- The length of a duration in nanoseconds. -/
def toNanos (d : Duration) : Nat := d.secs.toNat * nanosPerSec + d.nanos.toNat

/-- The duration of a number of nanoseconds, if its seconds fit. -/
def ofNanos? (n : Nat) : Option Duration :=
  if n / nanosPerSec < UInt64.size then
    some ⟨UInt64.ofNat (n / nanosPerSec), UInt32.ofNat (n % nanosPerSec), by
      have h : n % nanosPerSec < nanosPerSec := Nat.mod_lt _ (by decide)
      have hb : nanosPerSec < UInt32.size := by decide
      rw [UInt32.toNat_ofNat_of_lt' (Nat.lt_trans h hb)]
      exact h⟩
  else none

/-- The duration of some seconds and nanoseconds; whole seconds among the latter are carried over,
    and there is none if the sum does not fit. -/
def ofParts? (secs : UInt64) (nanos : UInt32) : Option Duration :=
  ofNanos? (secs.toNat * nanosPerSec + nanos.toNat)

/-- Milliseconds. -/
def ofMillis (ms : UInt64) : Duration :=
  ⟨ms / 1000, ((ms % 1000) * 1000000).toUInt32, by
    have h : (ms % 1000).toNat < 1000 := by
      rw [UInt64.toNat_mod]
      exact Nat.mod_lt _ (by decide)
    have hm : ((ms % 1000) * 1000000).toNat = (ms % 1000).toNat * 1000000 := by
      rw [UInt64.toNat_mul]
      exact Nat.mod_eq_of_lt (by simp only [UInt64.reduceToNat]; omega)
    have hlt : (ms % 1000).toNat * 1000000 < nanosPerSec := by
      simp only [nanosPerSec]
      omega
    rw [UInt64.toNat_toUInt32, hm]
    exact Nat.lt_of_le_of_lt (Nat.mod_le _ _) hlt⟩

/-- The sum of two durations, if it fits. -/
def add? (a b : Duration) : Option Duration := ofNanos? (a.toNanos + b.toNanos)

/-- The whole milliseconds of a duration. -/
def toMillis (d : Duration) : Nat := d.toNanos / 1000000

theorem toNat_nanos_ofNanos? {n : Nat} {d : Duration} (h : ofNanos? n = some d) :
    d.toNanos = n := by
  unfold ofNanos? at h
  split at h
  · next hlt =>
      cases h
      have hm : n % nanosPerSec < UInt32.size :=
        Nat.lt_trans (Nat.mod_lt _ (by decide)) (by decide)
      simp only [toNanos, UInt64.toNat_ofNat_of_lt' hlt, UInt32.toNat_ofNat_of_lt' hm]
      rw [Nat.mul_comm]
      exact Nat.div_add_mod n nanosPerSec
  · cases h

end Duration

end CassetteGate
