import Mathlib.Data.Int.Log
import Paywatch.Proofs.Decimal.Quantize

/-!
# Rounding twice

A number that is rounded to the nearest first and down to a coarser grid then may
have been carried over a point of that grid.  This happens exactly where the point
lies within half of the last place that the first rounding keeps.
-/

namespace Paywatch

namespace Decimal

/-- The last of the places that the precision leaves a number. -/
def lastPlace (x : ℚ) : ℚ :=
  10 ^ (Int.log 10 x + 1 - precision)

/-- The powers on both sides determine the whole logarithm. -/
theorem log_eq {x : ℚ} {k : Int} (lower : 10 ^ k ≤ x) (upper : x < 10 ^ (k + 1)) :
    Int.log 10 x = k := by
  have positive : 0 < x := (by positivity : (0 : ℚ) < 10 ^ k).trans_le lower
  have above := (Int.zpow_le_iff_le_log (b := 10) (by decide) positive).mp (by exact_mod_cast lower)
  have below := (Int.lt_zpow_iff_log_lt (b := 10) (by decide) positive).mp (by exact_mod_cast upper)
  omega

theorem lastPlace_scaled {c : Nat} (nonzero : c ≠ 0) {e : Int}
    (deep : leastExponent ≤ leading c e + 1 - precision) :
    lastPlace (scaled c e) = 10 ^ unit c e := by
  rw [lastPlace, log_eq (pow_leading_le nonzero e) (scaled_lt_pow_leading c e), unit,
    max_eq_left deep]

/-- The last place moves with the point. -/
theorem lastPlace_div_pow {x : ℚ} (positive : 0 < x) (places : Nat) :
    lastPlace (x / 10 ^ places) = lastPlace x / 10 ^ places := by
  have moved (k : Int) : (10 : ℚ) ^ (k - places) = 10 ^ k / 10 ^ places := by
    rw [zpow_sub₀ (by norm_num), zpow_natCast]
  have lower : (10 : ℚ) ^ Int.log 10 x ≤ x := by
    exact_mod_cast Int.zpow_log_le_self (b := 10) (by decide) positive
  have upper : x < 10 ^ (Int.log 10 x + 1) := by
    exact_mod_cast Int.lt_zpow_succ_log_self (b := 10) (by decide) x
  have logs : Int.log 10 (x / 10 ^ places) = Int.log 10 x - places := by
    apply log_eq
    · rw [moved]
      gcongr
    · rw [sub_add_eq_add_sub, moved]
      gcongr
  rw [lastPlace, lastPlace, logs, ← moved]
  congr 1
  ring

/-- Half a unit below an even number is rounded up to it. -/
theorem isNearest_below_even {m : Nat} (even : m % 2 = 0) (positive : 0 < m) :
    IsNearest ((m : ℚ) - 1 / 2) m := by
  obtain ⟨k, rfl⟩ : ∃ k, m = k + 1 := ⟨m - 1, by omega⟩
  have middle := IsNearest.middle k
  rw [if_neg (by omega)] at middle
  have half : ((k + 1 : Nat) : ℚ) - 1 / 2 = k + 1 / 2 := by
    push_cast
    ring
  rwa [half]

/-- Farther than half a unit below a grid point it is not reached. -/
theorem scaled_lt_of_isNearest {x : ℚ} {u g : Int} {q m : Nat} (finer : u ≤ g)
    (nearest : IsNearest (x / 10 ^ u) q) (apart : 10 ^ u / 2 < scaled m g - x) :
    scaled q u < scaled m g := by
  have unitPos : (0 : ℚ) < 10 ^ u := by positivity
  have upper := scaled_le_of_isNearest nearest finer (by linarith : x ≤ scaled m g)
  refine lt_of_le_of_ne upper fun reached => ?_
  obtain ⟨near, -⟩ := abs_le.mp nearest.close
  rw [← reached, scaled] at apart
  have : x / 10 ^ u < q - 1 / 2 := by
    rw [div_lt_iff₀ unitPos]
    linarith
  linarith

/-- From half a unit below it, a point of a coarser grid is reached. -/
theorem scaled_eq_of_close {x : ℚ} {u g : Int} {q m : Nat} (positive : 0 < m) (finer : u < g)
    (nearest : IsNearest (x / 10 ^ u) q) (below : x ≤ scaled m g)
    (close : scaled m g - x ≤ 10 ^ u / 2) : scaled q u = scaled m g := by
  have unitPos : (0 : ℚ) < 10 ^ u := by positivity
  obtain ⟨n, rfl⟩ : ∃ n : Nat, g = u + (n + 1) := ⟨(g - u - 1).toNat, by omega⟩
  have units : scaled m (u + (n + 1)) = scaled (m * 10 ^ (n + 1)) u := by
    rw [scaled_mul_pow]
    push_cast
    rfl
  have even : m * 10 ^ (n + 1) % 2 = 0 := by
    rw [pow_succ, ← mul_assoc]
    omega
  have half : ((m * 10 ^ (n + 1) : Nat) : ℚ) - 1 / 2 ≤ x / 10 ^ u := by
    rw [le_div_iff₀ unitPos]
    rw [units, scaled] at close
    linarith
  have reached := (isNearest_below_even even (by positivity)).mono nearest half
  refine le_antisymm (scaled_le_of_isNearest nearest finer.le below) ?_
  exact units ▸ scaled_le_scaled reached u

/-- A grid point that is coarser than the unit is reached from half a unit below it. -/
theorem floor_of_isNearest {x : ℚ} {u g : Int} {q : Nat} (nonneg : 0 ≤ x) (finer : u < g)
    (nearest : IsNearest (x / 10 ^ u) q) :
    ⌊scaled q u / 10 ^ g⌋ =
      if 10 ^ u / 2 < (⌊x / 10 ^ g⌋ + 1) * 10 ^ g - x then ⌊x / 10 ^ g⌋ else ⌊x / 10 ^ g⌋ + 1 := by
  have gridPos : (0 : ℚ) < 10 ^ g := by positivity
  obtain ⟨w, floored⟩ : ∃ w : Nat, ⌊x / 10 ^ g⌋ = w :=
    Int.eq_ofNat_of_zero_le (Int.floor_nonneg.mpr (by positivity))
  have point : ((w : ℚ) + 1) * 10 ^ g = scaled (w + 1) g := by
    rw [scaled]
    push_cast
    rfl
  have bounds := Int.floor_eq_iff.mp floored
  push_cast at bounds
  have fromBelow : scaled w g ≤ x := (le_div_iff₀ gridPos).mp bounds.1
  have toAbove : x < scaled (w + 1) g := point ▸ (div_lt_iff₀ gridPos).mp bounds.2
  rw [floored]
  push_cast
  rw [point]
  split
  · rename_i apart
    have lower := le_scaled_of_isNearest nearest finer.le fromBelow
    have short := scaled_lt_of_isNearest finer.le nearest apart
    rw [Int.floor_eq_iff, le_div_iff₀ gridPos, div_lt_iff₀ gridPos]
    push_cast
    exact ⟨lower, point ▸ short⟩
  · rename_i close
    rw [scaled_eq_of_close w.succ_pos finer nearest toAbove.le (le_of_not_gt close),
      ← point, mul_div_assoc, div_self gridPos.ne', mul_one]
    exact_mod_cast Int.floor_natCast (R := ℚ) (w + 1)

end Decimal

end Paywatch
