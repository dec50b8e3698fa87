import CassetteGate.Duration
import CassetteGate.Review.Settings
import Mathlib.Algebra.Group.Nat.Defs

/-!
# `Proofs.Review.Waits` — how long is waited before another try

The wait doubles with each try, from the first wait of the settings up to the longest. Both the power of
two and the product soon leave the 64 bits that a wait has, and each is cut down to what can be
expressed there. The two cuts leave no trace: what is cut off lies above the longest wait, which has 64
bits itself, and a product with a factor that was cut is either zero or at least as long as the longest
wait (`min_mul_saturate`). So a wait is what the formula says in unbounded numbers (`backoffMs_eq`), and
how waits grow is read off the formula.

The same wait is computed in machine words, where an operation that would overflow is noticed before it
is carried out (`backoffWord`).

## Contents
- `min_saturate`, **`min_mul_saturate`**: cutting down below a limit.
- **`RetryPolicy.backoffMs_eq`**, `RetryPolicy.backoffMs_succ`, `RetryPolicy.backoffMs_le_backoffMs`:
  the formula, and how waits grow.
- **`RetryPolicy.backoffWord`**, `RetryPolicy.toNat_backoffWord`: the wait as a word.
- **`RetryPolicy.ExactWaits`**, and **`RetryPolicy.backoffMs_exact`**: all of this at once.
-/

namespace CassetteGate

/-! ## Cutting down below a limit -/

/-- What is cut off lies above the limit. -/
theorem min_saturate {n limit : Nat} (h : limit ≤ maxMillis) :
    min (saturate n) limit = min n limit := by
  unfold saturate
  rw [Nat.min_assoc, Nat.min_eq_right h]

/-- A factor that was cut down makes the product zero, or at least as large as the limit. -/
theorem min_mul_saturate {m n limit : Nat} (h : limit ≤ maxMillis) :
    min (m * saturate n) limit = min (m * n) limit := by
  unfold saturate
  rcases Nat.le_total n maxMillis with hn | hn
  · rw [Nat.min_eq_left hn]
  · rw [Nat.min_eq_right hn]
    rcases Nat.eq_zero_or_pos m with rfl | hm
    · rw [Nat.zero_mul, Nat.zero_mul]
    · have hcut : limit ≤ m * maxMillis := Nat.le_trans h (Nat.le_mul_of_pos_left maxMillis hm)
      have hwhole : limit ≤ m * n := Nat.le_trans hcut (Nat.mul_le_mul_left m hn)
      rw [Nat.min_eq_right hcut, Nat.min_eq_right hwhole]

theorem toNat_le_maxMillis (n : UInt64) : n.toNat ≤ maxMillis := Nat.le_pred_of_lt n.toNat_lt

/-- A number of milliseconds is the length of its duration. -/
theorem Duration.toMillis_ofMillis (ms : UInt64) : (ofMillis ms).toMillis = ms.toNat := by
  have hrest : ms.toNat % 1000 < 1000 := Nat.mod_lt _ (by decide)
  have hnanos : (((ms % 1000) * 1000000).toUInt32).toNat = ms.toNat % 1000 * 1000000 := by
    rw [UInt64.toNat_toUInt32, UInt64.toNat_mul, UInt64.toNat_mod]
    simp only [UInt64.reduceToNat]
    omega
  have hparts : ms.toNat = ms.toNat / 1000 * 1000 + ms.toNat % 1000 := by omega
  unfold toMillis toNanos ofMillis nanosPerSec
  rw [hnanos, UInt64.toNat_div]
  simp only [UInt64.reduceToNat]
  omega

namespace RetryPolicy

variable (p : RetryPolicy) (attempt : Nat)

/-! ## The formula -/

/-- **A wait is what the formula says in unbounded numbers.** -/
theorem backoffMs_eq :
    p.backoffMs attempt = min (p.initialBackoffMs.toNat * 2 ^ attempt) p.maxBackoffMs.toNat := by
  have hlimit : p.maxBackoffMs.toNat ≤ maxMillis := toNat_le_maxMillis _
  unfold backoffMs
  rw [min_saturate hlimit, growth_eq_saturate, min_mul_saturate hlimit, Nat.one_shiftLeft]

theorem backoffMs_le : p.backoffMs attempt ≤ p.maxBackoffMs.toNat := Nat.min_le_right _ _

/-- Each wait is twice as long as the one before, up to the longest. -/
theorem backoffMs_succ :
    p.backoffMs (attempt + 1) = min (2 * p.backoffMs attempt) p.maxBackoffMs.toNat := by
  rw [backoffMs_eq, backoffMs_eq, Nat.pow_succ, ← Nat.mul_assoc]
  omega

variable {p attempt}

/-- A later wait, under settings with no shorter waits, is no shorter. -/
theorem backoffMs_le_backoffMs {q : RetryPolicy} {later : Nat}
    (hinitial : p.initialBackoffMs ≤ q.initialBackoffMs) (hmax : p.maxBackoffMs ≤ q.maxBackoffMs)
    (hlater : attempt ≤ later) : p.backoffMs attempt ≤ q.backoffMs later := by
  have hproduct : p.initialBackoffMs.toNat * 2 ^ attempt ≤ q.initialBackoffMs.toNat * 2 ^ later :=
    Nat.mul_le_mul (UInt64.le_iff_toNat_le.1 hinitial) (Nat.pow_le_pow_right (by decide) hlater)
  have hlimit : p.maxBackoffMs.toNat ≤ q.maxBackoffMs.toNat := UInt64.le_iff_toNat_le.1 hmax
  rw [backoffMs_eq, backoffMs_eq]
  omega

/-! ## Machine words -/

/-- The largest word. -/
def maxWord : UInt64 := .ofNat maxMillis

theorem toNat_maxWord : maxWord.toNat = maxMillis := by decide

/-- The product of two words, or the largest word in place of a product that does not fit. Whether it
    fits is seen from a quotient. -/
def product (a b : UInt64) : UInt64 := if 0 < a ∧ maxWord / a < b then maxWord else a * b

theorem toNat_product (a b : UInt64) : (product a b).toNat = saturate (a.toNat * b.toNat) := by
  have hfits : 0 < a ∧ maxWord / a < b ↔ maxMillis < a.toNat * b.toNat := by
    rw [UInt64.lt_iff_toNat_lt, UInt64.lt_iff_toNat_lt, UInt64.toNat_div, toNat_maxWord]
    constructor
    · rintro ⟨ha, hb⟩
      rw [Nat.mul_comm]
      exact (Nat.div_lt_iff_lt_mul ha).1 hb
    · intro h
      have ha : 0 < a.toNat := Nat.pos_of_mul_pos_right (Nat.lt_of_le_of_lt (Nat.zero_le _) h)
      rw [Nat.mul_comm] at h
      exact ⟨ha, (Nat.div_lt_iff_lt_mul ha).2 h⟩
  unfold product saturate
  split
  · next hover => rw [toNat_maxWord, Nat.min_eq_right (Nat.le_of_lt (hfits.1 hover))]
  · next hunder =>
      have hle : a.toNat * b.toNat ≤ maxMillis := Nat.le_of_not_lt fun h => hunder (hfits.2 h)
      have hlt : a.toNat * b.toNat < 2 ^ 64 := Nat.lt_of_le_of_lt hle (by decide)
      rw [UInt64.toNat_mul, Nat.mod_eq_of_lt hlt, Nat.min_eq_left hle]

/-- The power of two by which the first wait is multiplied, or the largest word. -/
def growthWord (attempt : UInt32) : UInt64 :=
  if attempt < 64 then 1 <<< attempt.toUInt64 else maxWord

theorem toNat_growthWord (attempt : UInt32) : (growthWord attempt).toNat = growth attempt.toNat := by
  have hiff : attempt < 64 ↔ attempt.toNat < 64 := UInt32.lt_iff_toNat_lt
  unfold growthWord growth
  split
  · next h =>
      have hlt : attempt.toNat < 64 := hiff.1 h
      have hpow : 2 ^ attempt.toNat < 2 ^ 64 := Nat.pow_lt_pow_right (by decide) hlt
      rw [if_pos hlt, UInt64.toNat_shiftLeft, UInt32.toNat_toUInt64, Nat.mod_eq_of_lt hlt,
        Nat.one_shiftLeft]
      simp only [UInt64.reduceToNat, Nat.one_shiftLeft]
      exact Nat.mod_eq_of_lt hpow
  · next h => rw [if_neg fun hlt => h (hiff.2 hlt), toNat_maxWord]

theorem toNat_min (a b : UInt64) : (min a b).toNat = min a.toNat b.toNat := by
  have hmin : min a b = if a ≤ b then a else b := rfl
  rw [hmin, Nat.min_def]
  simp only [UInt64.le_iff_toNat_le]
  split
  · rfl
  · rfl

/-- How long to wait, computed in words. -/
def backoffWord (p : RetryPolicy) (attempt : UInt32) : UInt64 :=
  min (product p.initialBackoffMs (growthWord attempt)) p.maxBackoffMs

theorem toNat_backoffWord (p : RetryPolicy) (attempt : UInt32) :
    (p.backoffWord attempt).toNat = p.backoffMs attempt.toNat := by
  unfold backoffWord backoffMs
  rw [toNat_min, toNat_product, toNat_growthWord]

/-! ## Exact waits -/

/-- The waits of some settings, in milliseconds, are those of the formula. -/
structure ExactWaits (p : RetryPolicy) : Prop where
  /-- There is nothing of the two cuts in them. -/
  formula : ∀ attempt, p.backoffMs attempt =
    min (p.initialBackoffMs.toNat * 2 ^ attempt) p.maxBackoffMs.toNat
  /-- They can be computed in 64 bits, and expressed as durations, as they are. -/
  word : ∀ attempt : UInt32, (p.backoffWord attempt).toNat = p.backoffMs attempt.toNat ∧
    (Duration.ofMillis (p.backoffWord attempt)).toMillis = p.backoffMs attempt.toNat
  /-- None is longer than the longest. -/
  limited : ∀ attempt, p.backoffMs attempt ≤ p.maxBackoffMs.toNat
  /-- Each is twice as long as the one before, up to the longest. -/
  doubled : ∀ attempt, p.backoffMs (attempt + 1) = min (2 * p.backoffMs attempt) p.maxBackoffMs.toNat
  /-- A later try, a longer first wait and a longer longest one make none shorter. -/
  monotone : ∀ (q : RetryPolicy) (attempt later : Nat), p.initialBackoffMs ≤ q.initialBackoffMs →
    p.maxBackoffMs ≤ q.maxBackoffMs → attempt ≤ later → p.backoffMs attempt ≤ q.backoffMs later

/-- **Waits are exact**, whatever the settings are: the cuts that keep them within 64 bits cannot be
    seen in any of them. -/
theorem backoffMs_exact (p : RetryPolicy) : p.ExactWaits where
  formula := p.backoffMs_eq
  word := by
    intro attempt
    rw [Duration.toMillis_ofMillis, toNat_backoffWord]
    exact ⟨rfl, rfl⟩
  limited := p.backoffMs_le
  doubled := p.backoffMs_succ
  monotone := fun _ _ _ hinitial hmax hlater => backoffMs_le_backoffMs hinitial hmax hlater

/-- Waits at both ends of what can be expressed: from a first wait of one millisecond, the longest wait is
    reached when the power of two is cut; from a first wait of none, there is never any. -/
theorem backoffMs_exact_ends :
    (RetryPolicy.mk 3 1 maxWord []).backoffMs 63 = 2 ^ 63 ∧
    (RetryPolicy.mk 3 1 maxWord []).backoffMs 64 = maxMillis ∧
    (∀ attempt, (RetryPolicy.mk 3 0 maxWord []).backoffMs attempt = 0) ∧
    (RetryPolicy.mk 3 1 maxWord []).backoffMs 63 ≤
      (RetryPolicy.mk 3 2 maxWord []).backoffMs (UInt32.size - 1) := by
  have hone := backoffMs_exact (RetryPolicy.mk 3 1 maxWord [])
  have hlast : (RetryPolicy.mk 3 1 maxWord []).backoffMs 63 = 2 ^ 63 := by
    rw [hone.formula]
    decide
  have hnext : (RetryPolicy.mk 3 1 maxWord []).backoffMs 64 = maxMillis := by
    rw [hone.doubled, hlast]
    decide
  refine ⟨hlast, hnext, ?_, ?_⟩
  · intro attempt
    rw [(backoffMs_exact _).formula]
    show min (0 * 2 ^ attempt) maxWord.toNat = 0
    rw [Nat.zero_mul, Nat.zero_min]
  · exact hone.monotone (RetryPolicy.mk 3 2 maxWord []) 63 (UInt32.size - 1) (by decide) (by decide)
      (by decide)

end RetryPolicy

end CassetteGate
