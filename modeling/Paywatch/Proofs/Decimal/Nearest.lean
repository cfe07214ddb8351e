import Mathlib.Algebra.Order.Field.Power
import Mathlib.Tactic.Linarith
import Mathlib.Tactic.NormNum
import Mathlib.Tactic.Positivity
import Mathlib.Tactic.Ring
import Paywatch.Decimal.Rounding
import Paywatch.Proofs.Decimal.Magnitude

/-!
# Rounding to the nearest

Rounding to the nearest whole number, with ties to the even one, is monotone and
leaves whole numbers alone.  Dropping digits is such a rounding at a power of
ten, and `finish` rounds at the unit that the leading digit allows.  Results are
therefore ordered as the exact numbers are, across all exponents.
-/

namespace Paywatch

/-- A whole number is nearest to a number, and even where its neighbour is as near. -/
structure IsNearest (x : ℚ) (k : Nat) : Prop where
  close : |x - k| ≤ 1 / 2
  even : |x - k| = 1 / 2 → k % 2 = 0

namespace IsNearest

/-- A whole number is nearest to itself. -/
theorem self (k : Nat) : IsNearest k k := by
  constructor <;> simp

/-- Nearest numbers are ordered as the numbers they are nearest to. -/
theorem mono {x y : ℚ} {k l : Nat} (left : IsNearest x k) (right : IsNearest y l)
    (le : x ≤ y) : k ≤ l := by
  by_contra above
  have apart : (l : ℚ) + 1 ≤ k := by exact_mod_cast Nat.lt_of_not_le above
  obtain ⟨lower, -⟩ := abs_le.mp left.close
  obtain ⟨-, upper⟩ := abs_le.mp right.close
  -- both lie in the middle between the two, which would then have to be even
  have leftTie : x - k = -(1 / 2) := by linarith
  have rightTie : y - l = 1 / 2 := by linarith
  have next : (k : ℚ) = (l + 1 : Nat) := by push_cast; linarith
  have kEven := left.even (by rw [leftTie]; norm_num)
  have lEven := right.even (by rw [rightTie]; norm_num)
  have : k = l + 1 := by exact_mod_cast next
  omega

/-- Below the middle the lower neighbour is nearest. -/
theorem lower {r : ℚ} (k : Nat) (nonneg : 0 ≤ r) (half : r < 1 / 2) : IsNearest (k + r) k := by
  constructor
  · rw [add_sub_cancel_left, abs_of_nonneg nonneg]
    exact half.le
  · intro tie
    rw [add_sub_cancel_left, abs_of_nonneg nonneg] at tie
    exact absurd tie half.ne

/-- Above the middle the upper neighbour is nearest. -/
theorem upper {r : ℚ} (k : Nat) (half : 1 / 2 < r) (below : r < 1) :
    IsNearest (k + r) (k + 1) := by
  have rest : (k : ℚ) + r - (k + 1 : Nat) = -(1 - r) := by
    push_cast
    ring
  constructor
  · rw [rest, abs_neg, abs_of_pos (by linarith)]
    linarith
  · intro tie
    rw [rest, abs_neg, abs_of_pos (by linarith)] at tie
    linarith

/-- In the middle the even neighbour is nearest. -/
theorem middle (k : Nat) : IsNearest (k + 1 / 2) (if k % 2 = 0 then k else k + 1) := by
  split
  · rename_i even
    constructor
    · rw [add_sub_cancel_left]
      norm_num
    · intro
      exact even
  · rename_i odd
    have rest : (k : ℚ) + 1 / 2 - (k + 1 : Nat) = -(1 / 2) := by
      push_cast
      ring
    constructor
    · rw [rest]
      norm_num
    · intro
      omega

end IsNearest

/-- The quotient with ties to the even neighbour is nearest to the exact one. -/
theorem Rounding.isNearest_quotient (n : Nat) {d : Nat} (positive : 0 < d) :
    IsNearest ((n : ℚ) / d) (Rounding.halfEven.quotient n d) := by
  have dPositive : (0 : ℚ) < d := by exact_mod_cast positive
  have divided : (n : ℚ) / d = (n / d : Nat) + (n % d : Nat) / d := by
    have whole : (n : ℚ) = d * (n / d : Nat) + (n % d : Nat) := by
      exact_mod_cast (Nat.div_add_mod n d).symm
    rw [whole]
    field_simp
  rw [divided]
  unfold Rounding.quotient
  rcases lt_trichotomy (2 * (n % d)) d with less | same | more
  · simp only [less, if_true]
    refine .lower _ (by positivity) ?_
    rw [div_lt_div_iff₀ dPositive (by norm_num)]
    exact_mod_cast (by omega : n % d * 2 < 1 * d)
  · have half : ((n % d : Nat) : ℚ) / d = 1 / 2 := by
      rw [div_eq_div_iff dPositive.ne' (by norm_num)]
      exact_mod_cast (by omega : n % d * 2 = 1 * d)
    simp only [same, lt_irrefl, if_false, half]
    exact .middle _
  · have notLess : ¬ 2 * (n % d) < d := by omega
    simp only [notLess, more, if_true, if_false]
    refine .upper _ ?_ ?_
    · rw [div_lt_div_iff₀ (by norm_num) dPositive]
      exact_mod_cast (by omega : 1 * d < n % d * 2)
    · rw [div_lt_one dPositive]
      exact_mod_cast Nat.mod_lt n positive

namespace Decimal

/-! ## Dropping digits -/

/-- Dropping digits divides by a power of ten, also when there are fewer digits. -/
theorem dropDigits_eq_quotient (mode : Rounding) (c places : Nat) :
    dropDigits mode c places = mode.quotient c (10 ^ places) := by
  unfold dropDigits
  split
  · rename_i short
    have below : c * 10 < 10 ^ places := by
      calc
        c * 10 < 10 ^ digitCount c * 10 := by
          have := lt_pow_digitCount c
          omega
        _ = 10 ^ (digitCount c + 1) := (pow_succ 10 _).symm
        _ ≤ 10 ^ places := Nat.pow_le_pow_right (by decide) short
    have whole : c / 10 ^ places = 0 := Nat.div_eq_of_lt (by omega)
    have rest : c % 10 ^ places = c := Nat.mod_eq_of_lt (by omega)
    cases mode with
    | down => simp [Rounding.quotient, whole]
    | up => by_cases zero : c = 0 <;> simp [Rounding.quotient, whole, rest, zero]
    | halfEven =>
      have less : 2 * c < 10 ^ places := by omega
      simp [Rounding.quotient, whole, rest, less]
  · rfl

/-! ## Bringing a result into range -/

/-- The exponent of the last digit that a result may keep. -/
def unit (coefficient : Nat) (exponent : Int) : Int :=
  max (leading coefficient exponent + 1 - precision) leastExponent

/-- In units a magnitude lies below `10 ^ precision`. -/
theorem scaled_div_unit_le (c : Nat) (e : Int) :
    scaled c e / 10 ^ unit c e ≤ (10 ^ precision : Nat) := by
  have below := scaled_lt_pow_leading c e
  have reach : (10 : ℚ) ^ (leading c e + 1) ≤ 10 ^ (unit c e + precision) := by
    apply zpow_le_zpow_right₀ (by norm_num)
    unfold unit
    omega
  rw [div_le_iff₀ (by positivity)]
  calc
    scaled c e ≤ 10 ^ (unit c e + precision) := (below.trans_le reach).le
    _ = (10 ^ precision : Nat) * 10 ^ unit c e := by
      rw [zpow_add₀ (by norm_num), zpow_natCast, mul_comm]
      push_cast
      rfl

/-- A magnitude in greater units is what is left of the coefficient. -/
theorem scaled_div_pow {c : Nat} {e u : Int} (le : e ≤ u) :
    scaled c e / 10 ^ u = (c : ℚ) / (10 ^ (u - e).toNat : Nat) := by
  obtain ⟨n, rfl⟩ : ∃ n : Nat, u = e + n := ⟨(u - e).toNat, by omega⟩
  rw [add_sub_cancel_left, Int.toNat_natCast, scaled, zpow_add₀ (by norm_num), zpow_natCast]
  push_cast
  rw [mul_comm (c : ℚ), mul_div_mul_left _ _ (by positivity)]

/-- A magnitude in smaller units is a whole number. -/
theorem scaled_eq_of_le {c : Nat} {e u : Int} (le : u ≤ e) :
    scaled c e = scaled (c * 10 ^ (e - u).toNat) u := by
  rw [scaled_mul_pow]
  congr 1
  omega

theorem scaled_div_self (q : Nat) (u : Int) : scaled q u / 10 ^ u = q := by
  rw [scaled, mul_div_assoc, div_self (by positivity), mul_one]

/-- Where digits are dropped, what is kept is nearest to the magnitude in units. -/
theorem isNearest_dropDigits {c : Nat} {e u : Int} (le : e ≤ u) :
    IsNearest (scaled c e / 10 ^ u) (dropDigits .halfEven c (u - e).toNat) := by
  rw [dropDigits_eq_quotient, scaled_div_pow le]
  exact Rounding.isNearest_quotient c (by positivity)

/-- A kept coefficient has one digit too many only when it has been rounded up to a power. -/
theorem eq_pow_of_isNearest {c : Nat} {e : Int} {q : Nat}
    (nearest : IsNearest (scaled c e / 10 ^ unit c e) q) (long : precision < digitCount q) :
    q = 10 ^ precision := by
  have le := nearest.mono (.self _) (scaled_div_unit_le c e)
  have ge : 10 ^ precision ≤ q := by
    by_contra below
    have := (digitCount_le_iff (by decide)).mpr (Nat.lt_of_not_le below)
    omega
  exact Nat.le_antisymm le ge

/-- A coefficient and an exponent that a result may have. -/
structure InRange (coefficient : Nat) (exponent : Int) : Prop where
  digits : digitCount coefficient ≤ precision
  least : leastExponent ≤ exponent
  top : leading coefficient exponent ≤ maxExponent

/-- The middle between the greatest result and the next power of ten, where rounding overflows. -/
def overflowBound : ℚ := scaled (10 ^ 29 - 5) (topExponent - 1)

/-- A magnitude beyond the greatest power that a leading digit may have overflows. -/
theorem overflowBound_le_of_lt_leading {c : Nat} (nonzero : c ≠ 0) {e : Int}
    (beyond : maxExponent < leading c e) : overflowBound ≤ scaled c e := by
  calc
    overflowBound ≤ 10 ^ (topExponent - 1 + (29 : Nat)) :=
      (scaled_lt_pow (by decide) (topExponent - 1)).le
    _ ≤ 10 ^ leading c e := by
      apply zpow_le_zpow_right₀ (by norm_num)
      simp only [topExponent, maxExponent] at *
      omega
    _ ≤ scaled c e := pow_leading_le nonzero e

/-- What is rounded up to one digit too many at the greatest unit overflows. -/
theorem overflowBound_le_of_isNearest {x : ℚ}
    (nearest : IsNearest (x / 10 ^ topExponent) (10 ^ precision)) : overflowBound ≤ x := by
  have positive : (0 : ℚ) < 10 ^ topExponent := by positivity
  have bound : overflowBound = (10 ^ 28 - 1 / 2) * 10 ^ topExponent := by
    rw [overflowBound, scaled, zpow_sub_one₀ (by norm_num)]
    push_cast
    ring
  obtain ⟨lower, -⟩ := abs_le.mp nearest.close
  rw [bound, ← le_div_iff₀ positive]
  push_cast [precision] at lower
  linarith

/--
A nonzero result is brought into range by rounding it to the nearest multiple of
its unit, unless it is too great.
-/
theorem finish_cases (s : Bool) {c : Nat} (nonzero : c ≠ 0) (e : Int) :
    (∃ k f q, finish s c e = .ok (.finite s k f) ∧ e ≤ f ∧ InRange k f ∧
      IsNearest (scaled c e / 10 ^ unit c e) q ∧ scaled k f = scaled q (unit c e)) ∨
    finish s c e = .error .overflow ∧ overflowBound ≤ scaled c e := by
  have low : e + digitCount c - precision = leading c e + 1 - precision := by
    unfold leading
    ring
  have last : max (leading c e + 1 - precision) leastExponent = unit c e := rfl
  unfold finish
  rw [if_neg nonzero]
  simp only [low, last]
  by_cases above : topExponent < leading c e + 1 - precision
  · right
    rw [if_pos above]
    refine ⟨rfl, overflowBound_le_of_lt_leading nonzero ?_⟩
    simp only [topExponent, precision, maxExponent] at *
    omega
  rw [if_neg above]
  by_cases dropped : e < unit c e
  · rw [if_pos dropped]
    have nearest := isNearest_dropDigits (c := c) dropped.le
    generalize dropDigits .halfEven c (unit c e - e).toNat = q at *
    by_cases long : precision < digitCount q
    · simp only [if_pos long]
      have power := eq_pow_of_isNearest nearest long
      by_cases carried : topExponent < unit c e + 1
      · right
        rw [if_pos carried]
        have greatest : unit c e = topExponent := by
          simp only [unit, topExponent, precision, leastExponent] at *
          omega
        rw [greatest, power] at nearest
        exact ⟨rfl, overflowBound_le_of_isNearest nearest⟩
      · left
        rw [if_neg carried]
        have shortened : digitCount (q / 10) = precision := by
          rw [power]
          decide +kernel
        refine ⟨_, _, q, rfl, by omega, ⟨shortened.le, ?_, ?_⟩, nearest, ?_⟩
        · simp only [unit] at *
          omega
        · rw [leading, shortened]
          simp only [topExponent, precision, maxExponent] at *
          omega
        · have tens : q = q / 10 * 10 ^ 1 := by rw [power]; decide
          rw [tens, scaled_mul_pow]
          simp
    · left
      have fits : ¬ topExponent < unit c e := by
        simp only [unit, topExponent, precision, leastExponent] at *
        omega
      simp only [if_neg long, if_neg fits]
      refine ⟨_, _, q, rfl, dropped.le, ⟨Nat.le_of_not_lt long, le_max_right _ _, ?_⟩, nearest, rfl⟩
      simp only [leading, topExponent, precision, maxExponent] at *
      omega
  · left
    rw [if_neg dropped]
    have exact := scaled_eq_of_le (c := c) (Int.le_of_not_gt dropped)
    refine ⟨_, _, _, rfl, le_refl e, ?_, ?_, exact⟩
    · constructor <;> simp only [unit, leading, topExponent, precision, maxExponent] at * <;> omega
    · rw [exact, scaled_div_self]
      exact .self _

/-! ## Rounding keeps the order -/

theorem scaled_le_scaled {k l : Nat} (le : k ≤ l) (u : Int) : scaled k u ≤ scaled l u := by
  have cast : (k : ℚ) ≤ l := by exact_mod_cast le
  unfold scaled
  exact mul_le_mul_of_nonneg_right cast (by positivity)

/-- Rounding does not cross a number of the grid from below. -/
theorem scaled_le_of_isNearest {x : ℚ} {u g : Int} {q m : Nat} (nearest : IsNearest (x / 10 ^ u) q)
    (grid : u ≤ g) (le : x ≤ scaled m g) : scaled q u ≤ scaled m g := by
  rw [scaled_eq_of_le grid] at le ⊢
  apply scaled_le_scaled
  refine nearest.mono (.self _) ?_
  rw [div_le_iff₀ (by positivity)]
  exact le

/-- Rounding does not cross a number of the grid from above. -/
theorem le_scaled_of_isNearest {x : ℚ} {u g : Int} {q m : Nat} (nearest : IsNearest (x / 10 ^ u) q)
    (grid : u ≤ g) (le : scaled m g ≤ x) : scaled m g ≤ scaled q u := by
  rw [scaled_eq_of_le grid] at le ⊢
  apply scaled_le_scaled
  refine IsNearest.mono (.self _) nearest ?_
  rw [le_div_iff₀ (by positivity)]
  exact le

/-- The greater of two numbers has the greater rounded one, each in its own unit. -/
theorem scaled_unit_le {c d q r : Nat} {e f : Int} (nonzero : c ≠ 0)
    (le : scaled c e ≤ scaled d f) (left : IsNearest (scaled c e / 10 ^ unit c e) q)
    (right : IsNearest (scaled d f / 10 ^ unit d f) r) :
    scaled q (unit c e) ≤ scaled r (unit d f) := by
  have leads := leading_le_leading nonzero le
  have dNonzero : d ≠ 0 := by
    rintro rfl
    rw [scaled_zero] at le
    exact absurd le (scaled_pos nonzero e).not_ge
  have units : unit c e ≤ unit d f := by
    unfold unit
    omega
  rcases units.eq_or_lt with same | less
  · rw [same] at left ⊢
    apply scaled_le_scaled
    exact left.mono right (div_le_div_of_nonneg_right le (by positivity))
  · -- the power at the leading digit of the greater number lies on both grids and between them
    have leadsLess : leading c e + 1 ≤ leading d f := by
      unfold unit at less
      omega
    have grid : unit d f ≤ leading d f := by
      unfold unit precision at *
      omega
    have below : scaled c e ≤ scaled 1 (leading d f) := by
      rw [scaled_one]
      exact (scaled_lt_pow_leading c e).le.trans
        (zpow_le_zpow_right₀ (by norm_num) leadsLess)
    have above : scaled 1 (leading d f) ≤ scaled d f := by
      rw [scaled_one]
      exact pow_leading_le dNonzero f
    exact (scaled_le_of_isNearest left (units.trans grid) below).trans
      (le_scaled_of_isNearest right grid above)

/-- A number of the grid is not changed by rounding. -/
theorem scaled_eq_of_isNearest {x : ℚ} {u g : Int} {q m : Nat} (nearest : IsNearest (x / 10 ^ u) q)
    (grid : u ≤ g) (eq : x = scaled m g) : scaled q u = scaled m g :=
  le_antisymm (scaled_le_of_isNearest nearest grid eq.le)
    (le_scaled_of_isNearest nearest grid eq.ge)

end Decimal

end Paywatch
