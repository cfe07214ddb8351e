import Paywatch.Proofs.Double.Order

/-!
# The range of double precision numbers

A double is finite with a mantissa of at most 53 digits and an exponent up to the
greatest.  All such numbers lie below one power of two, and twice a number overflows
only when it reaches that power.
-/

namespace Paywatch

namespace Double

/-- The least power of two above all doubles that are finite. -/
def limit : ℚ :=
  2 ^ (precision + greatestExponent)

/-- Mantissa and exponent are those of a double. -/
def Fits : Double → Prop
  | .finite _ mantissa exponent => mantissa < 2 ^ precision ∧ exponent ≤ greatestExponent
  | _ => True

section Fits

variable {negative : Bool} {mantissa : Nat} {exponent : Int}

theorem Fits.lt_limit (fits : (finite negative mantissa exponent).Fits) :
    ratio negative mantissa exponent < limit := by
  obtain ⟨digits, places⟩ := fits
  have unsigned : signed negative mantissa ≤ mantissa := by
    unfold signed
    split <;> omega
  have below : (signed negative mantissa : ℚ) < 2 ^ precision := by
    exact_mod_cast unsigned.trans_lt (by exact_mod_cast digits)
  rw [ratio, limit, zpow_add₀ (by norm_num), zpow_natCast]
  calc (signed negative mantissa : ℚ) * 2 ^ exponent
      < 2 ^ precision * 2 ^ exponent := mul_lt_mul_of_pos_right below (by positivity)
    _ ≤ 2 ^ precision * 2 ^ greatestExponent :=
      mul_le_mul_of_nonneg_left (zpow_le_zpow_right₀ (by norm_num) places) (by positivity)

/-- What has no finite double when it is doubled reaches the limit then. -/
theorem limit_le_of_twice (beyond : (finite false mantissa exponent).twice = infinite negative) :
    limit ≤ 2 * ratio false mantissa exponent := by
  rw [twice] at beyond
  split at beyond
  · cases beyond
  · next long =>
    split at beyond
    · cases beyond
    · next great =>
      have digits : (2 : ℚ) ^ precision ≤ 2 * mantissa := by
        exact_mod_cast Nat.le_of_not_lt long
      have places : (2 : ℚ) ^ greatestExponent ≤ 2 ^ exponent :=
        zpow_le_zpow_right₀ (by norm_num) (not_lt.mp great)
      rw [limit, zpow_add₀ (by norm_num), zpow_natCast, ratio, signed, if_neg Bool.false_ne_true,
        Int.cast_natCast, ← mul_assoc]
      exact mul_le_mul digits places (by positivity) (by positivity)

end Fits

/-! ## The nearest number fits -/

/-- A power of two over naturals, whatever the sign of its exponent. -/
theorem two_zpow (exponent : Int) :
    (2 : ℚ) ^ exponent = 2 ^ exponent.toNat / 2 ^ (-exponent).toNat := by
  obtain ⟨n, rfl | rfl⟩ := exponent.eq_nat_or_neg <;> simp

/-- A quotient is below the next power of two. -/
theorem lt_binaryMagnitude (n : Nat) {d : Nat} (positive : 0 < d) :
    (n : ℚ) < d * 2 ^ (binaryMagnitude n d + 1) := by
  unfold binaryMagnitude
  dsimp only
  split
  · have upper : (n : ℚ) < 2 ^ (n.log2 + 1) := by exact_mod_cast Nat.lt_log2_self
    have lower : (2 : ℚ) ^ d.log2 ≤ d := by exact_mod_cast Nat.log2_self_le positive.ne'
    calc (n : ℚ) < 2 ^ (n.log2 + 1) := upper
      _ = 2 ^ d.log2 * 2 ^ ((n.log2 : ℤ) - d.log2 + 1) := by
        rw [← zpow_natCast, ← zpow_natCast, ← zpow_add₀ (by norm_num)]
        congr 1
        push_cast
        ring
      _ ≤ d * 2 ^ ((n.log2 : ℤ) - d.log2 + 1) := mul_le_mul_of_nonneg_right lower (by positivity)
  · next small =>
    rw [sub_add_cancel, two_zpow, ← mul_div_assoc, lt_div_iff₀ (by positivity)]
    exact_mod_cast Nat.lt_of_not_le small

/-- Rounding adds at most one to the whole quotient. -/
theorem quotient_halfEven_le (n d : Nat) : Rounding.halfEven.quotient n d ≤ n / d + 1 := by
  unfold Rounding.quotient
  dsimp only
  repeat' split
  all_goals omega

/-- With an exponent that is great enough the mantissa has 53 digits, or it is the next power of two. -/
theorem quotient_le_precision (n : Nat) {d : Nat} (positive : 0 < d) {e : Int}
    (places : binaryMagnitude n d - 52 ≤ e) :
    Rounding.halfEven.quotient (n * Nat.pow 2 (-e).toNat) (d * Nat.pow 2 e.toNat) ≤
      2 ^ precision := by
  have scaled : (n : ℚ) < 2 ^ precision * (d * 2 ^ e) :=
    calc (n : ℚ) < d * 2 ^ (binaryMagnitude n d + 1) := lt_binaryMagnitude n positive
      _ ≤ d * 2 ^ (precision + e) := by
        refine mul_le_mul_of_nonneg_left (zpow_le_zpow_right₀ (by norm_num) ?_) (by positivity)
        unfold precision
        omega
      _ = 2 ^ precision * (d * 2 ^ e) := by
        rw [zpow_add₀ (by norm_num), zpow_natCast]
        ring
  have whole : n * 2 ^ (-e).toNat < 2 ^ precision * (d * 2 ^ e.toNat) := by
    rw [two_zpow, ← mul_div_assoc, ← mul_div_assoc, lt_div_iff₀ (by positivity)] at scaled
    exact_mod_cast scaled
  refine (quotient_halfEven_le _ _).trans (Nat.succ_le_of_lt ?_)
  simp only [Nat.pow_eq]
  exact (Nat.div_lt_iff_lt_mul (by positivity)).mpr whole

/-- Every number that is rounded to a double fits. -/
theorem fits_nearest (negative : Bool) (n : Nat) {d : Nat} (positive : 0 < d) :
    (nearest negative n d).Fits := by
  unfold nearest
  split
  · exact ⟨by decide, by decide⟩
  · dsimp only
    have digits := quotient_le_precision n positive (le_max_left (binaryMagnitude n d - 52) leastExponent)
    generalize max (binaryMagnitude n d - 52) leastExponent = e at digits ⊢
    generalize Rounding.halfEven.quotient _ _ = m at digits ⊢
    by_cases carry : m = Nat.pow 2 precision
    · rw [if_pos carry]
      dsimp only
      split
      · trivial
      · next within => exact ⟨by decide, not_lt.mp within⟩
    · rw [if_neg carry]
      dsimp only
      split
      · trivial
      · next within => exact ⟨lt_of_le_of_ne digits carry, not_lt.mp within⟩

theorem fits_ofInt (n : Int) : (ofInt n).Fits :=
  fits_nearest _ _ Nat.one_pos

end Double

end Paywatch
