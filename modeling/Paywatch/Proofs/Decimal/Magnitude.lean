import Mathlib.Algebra.Order.Field.Power
import Mathlib.Data.Nat.Log
import Mathlib.Tactic.FieldSimp
import Mathlib.Tactic.Linarith
import Mathlib.Tactic.NormNum
import Mathlib.Tactic.Positivity
import Mathlib.Tactic.Ring
import Paywatch.Decimal.Basic

/-!
# The number behind a decimal

A coefficient and an exponent stand for a rational number.  The position of the
leading digit says between which powers of ten that number lies, whatever the
representation, and so it orders magnitudes.
-/

namespace Paywatch

namespace Decimal

/-! ## Counting digits -/

/-- The number of digits is one more than the whole logarithm. -/
theorem digitCount_eq_log (n : Nat) : digitCount n = Nat.log 10 n + 1 := by
  induction n using digitCount.induct with
  | case1 n small => rw [digitCount, if_pos small, Nat.log_of_lt small]
  | case2 n large ih =>
    have ten_le : 10 ≤ n := Nat.le_of_not_lt large
    rw [digitCount, if_neg large, ih, Nat.log_of_one_lt_of_le (by decide) ten_le]

theorem digitCount_pos (n : Nat) : 0 < digitCount n := by
  rw [digitCount_eq_log]
  exact Nat.succ_pos _

theorem lt_pow_digitCount (n : Nat) : n < 10 ^ digitCount n := by
  rw [digitCount_eq_log]
  exact Nat.lt_pow_succ_log_self (by decide) n

theorem pow_digitCount_le {n : Nat} (nonzero : n ≠ 0) : 10 ^ (digitCount n - 1) ≤ n := by
  rw [digitCount_eq_log, Nat.add_sub_cancel]
  exact Nat.pow_log_le_self 10 nonzero

/-- A number has at most `k` digits when it lies below the power `k` of ten. -/
theorem digitCount_le_iff {n k : Nat} (positive : 0 < k) : digitCount n ≤ k ↔ n < 10 ^ k := by
  constructor
  · intro le
    exact (lt_pow_digitCount n).trans_le (Nat.pow_le_pow_right (by decide) le)
  · intro below
    rw [digitCount_eq_log]
    exact Nat.log_lt_of_lt_pow' positive.ne' below

/-! ## Magnitudes -/

def scaled (coefficient : Nat) (exponent : Int) : ℚ :=
  coefficient * 10 ^ exponent

/-- The number for which a finite decimal stands; the others stand for none. -/
def value : Decimal → ℚ
  | .finite negative coefficient exponent =>
    if negative then -scaled coefficient exponent else scaled coefficient exponent
  | _ => 0

def isFinite : Decimal → Bool
  | .finite .. => true
  | _ => false

@[simp]
theorem value_finite_false (c : Nat) (e : Int) : value (.finite false c e) = scaled c e := rfl

@[simp]
theorem value_finite_true (c : Nat) (e : Int) : value (.finite true c e) = -scaled c e := rfl

@[simp]
theorem scaled_zero (e : Int) : scaled 0 e = 0 := by
  simp [scaled]

@[simp]
theorem scaled_one (e : Int) : scaled 1 e = 10 ^ e := by
  simp [scaled]

theorem scaled_nonneg (c : Nat) (e : Int) : 0 ≤ scaled c e := by
  unfold scaled
  positivity

theorem scaled_pos {c : Nat} (nonzero : c ≠ 0) (e : Int) : 0 < scaled c e := by
  have : (0 : ℚ) < c := by exact_mod_cast Nat.pos_of_ne_zero nonzero
  unfold scaled
  positivity

theorem scaled_eq_zero {c : Nat} {e : Int} : scaled c e = 0 ↔ c = 0 := by
  constructor
  · intro zero
    by_contra nonzero
    exact (scaled_pos nonzero e).ne' zero
  · rintro rfl
    exact scaled_zero e

theorem eq_of_scaled_eq {c d : Nat} {e : Int} (same : scaled c e = scaled d e) : c = d := by
  have power : (10 : ℚ) ^ e ≠ 0 := zpow_ne_zero e (by norm_num)
  exact_mod_cast mul_right_cancel₀ power same

/-- Zeros at the end of a coefficient lower the exponent. -/
theorem scaled_mul_pow (c n : Nat) (e : Int) : scaled (c * 10 ^ n) e = scaled c (e + n) := by
  unfold scaled
  rw [zpow_add₀ (by norm_num), zpow_natCast]
  push_cast
  ring

theorem scaled_add (c d : Nat) (e : Int) : scaled (c + d) e = scaled c e + scaled d e := by
  unfold scaled
  push_cast
  ring

/-- A coefficient below a power of ten stays below it at every exponent. -/
theorem scaled_lt_pow {c n : Nat} (below : c < 10 ^ n) (e : Int) :
    scaled c e < 10 ^ (e + n) := by
  have cast : (c : ℚ) < 10 ^ n := by exact_mod_cast below
  rw [scaled, add_comm, zpow_add₀ (by norm_num), zpow_natCast]
  exact mul_lt_mul_of_pos_right cast (by positivity)

/-! ## The leading digit -/

theorem scaled_lt_pow_leading (c : Nat) (e : Int) : scaled c e < 10 ^ (leading c e + 1) := by
  have reach : leading c e + 1 = e + digitCount c := by
    unfold leading
    ring
  rw [reach]
  exact scaled_lt_pow (lt_pow_digitCount c) e

theorem pow_leading_le {c : Nat} (nonzero : c ≠ 0) (e : Int) :
    10 ^ leading c e ≤ scaled c e := by
  have above : (10 : ℚ) ^ (digitCount c - 1) ≤ c := by
    exact_mod_cast pow_digitCount_le nonzero
  have split : (10 : ℚ) ^ leading c e = 10 ^ (digitCount c - 1) * 10 ^ e := by
    rw [← zpow_natCast, ← zpow_add₀ (by norm_num)]
    congr 1
    have := digitCount_pos c
    unfold leading
    omega
  rw [split, scaled]
  exact mul_le_mul_of_nonneg_right above (by positivity)

theorem leading_lt_of_scaled_lt {c : Nat} {e k : Int} (nonzero : c ≠ 0)
    (below : scaled c e < 10 ^ k) : leading c e < k :=
  (zpow_lt_zpow_iff_right₀ (by norm_num : (1 : ℚ) < 10)).mp
    ((pow_leading_le nonzero e).trans_lt below)

theorem leading_le_leading {c d : Nat} {e f : Int} (nonzero : c ≠ 0)
    (le : scaled c e ≤ scaled d f) : leading c e ≤ leading d f := by
  have := leading_lt_of_scaled_lt nonzero (le.trans_lt (scaled_lt_pow_leading d f))
  omega

end Decimal

end Paywatch
