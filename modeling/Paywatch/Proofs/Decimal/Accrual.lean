import Mathlib.Algebra.Order.Monoid.WithTop
import Paywatch.Proofs.Decimal.Quantize

/-!
# Totals of any amounts

A total that grows from zero by amounts of any size that are not negative is a
result or infinite.  It does not fall when an amount is added, because it is a
result itself and rounding keeps the order, and a sum is refused only where the
exact one reaches `overflowBound`.
-/

namespace Paywatch

namespace Decimal

/-- Where a number stands between the infinities; a diagnostic has no place of its own. -/
def level : Decimal → WithBot (WithTop ℚ)
  | .nan .. => ⊥
  | .infinite true => ⊥
  | .infinite false => ⊤
  | .finite s c e => (value (.finite s c e) : WithTop ℚ)

/-- A total that additions of amounts can lead to. -/
inductive IsAccrued : Decimal → Prop where
  | finite {c : Nat} {e : Int} (inRange : InRange c e) : IsAccrued (.finite false c e)
  | infinite : IsAccrued (.infinite false)

/-- The exact sum of two finite numbers is too great for a result. -/
structure Overflows (total usd : Decimal) : Prop where
  finite : total.isFinite = true ∧ usd.isFinite = true
  beyond : overflowBound ≤ total.value + usd.value

theorem isAccrued_zero : IsAccrued zero :=
  .finite (inRange_zero (by decide) (by decide))

theorem IsAccrued.isNegative {total : Decimal} (accrued : IsAccrued total) :
    total.isNegative = .ok false := by
  cases accrued <;> rfl

/-- An amount that is not negative has no sign, unless it is zero. -/
theorem nonneg_of_isNegative {s : Bool} {c : Nat} {e : Int}
    (nonneg : (finite s c e).isNegative = .ok false) :
    (s = true → c = 0) ∧ value (finite s c e) = scaled c e := by
  have zero : s = true → c = 0 := by
    rintro rfl
    simpa [Decimal.isNegative] using nonneg
  refine ⟨zero, ?_⟩
  cases s with
  | false => rfl
  | true => rw [zero rfl, value_finite_true, scaled_zero, neg_zero]

/-! ## Negligible amounts -/

/-- Different magnitudes are apart by a unit of the finer of their grids. -/
theorem scaled_add_pow_le {c d : Nat} {e f : Int} (less : scaled c e < scaled d f) :
    scaled c e + 10 ^ min e f ≤ scaled d f := by
  rw [scaled_eq_of_le (min_le_left e f), scaled_eq_of_le (min_le_right e f)] at *
  generalize c * 10 ^ (e - min e f).toNat = a, d * 10 ^ (f - min e f).toNat = b at *
  have next : a < b := by
    by_contra above
    exact less.not_ge (scaled_le_scaled (Nat.le_of_not_lt above) _)
  rw [← scaled_one, ← scaled_add]
  exact scaled_le_scaled next _

/-- Whether a sum overflows does not change when a power stands for a negligible amount. -/
theorem overflowBound_le_beside {c d : Nat} {e f l : Int} (nonzero : c ≠ 0)
    (small : leading d f < l) (gap : l + 29 ≤ leading c e) (behind : l < e) :
    overflowBound ≤ scaled c e + 10 ^ l ↔ overflowBound ≤ scaled c e + scaled d f := by
  have amount : scaled d f < 10 ^ l :=
    (scaled_lt_pow_leading d f).trans_le (zpow_le_zpow_right₀ (by norm_num) small)
  by_cases beyond : overflowBound ≤ scaled c e
  · have power : (0 : ℚ) ≤ 10 ^ l := by positivity
    constructor <;> intro <;> linarith [scaled_nonneg d f]
  · have lead : leading c e ≤ maxExponent := by
      by_contra above
      exact beyond (overflowBound_le_of_lt_leading nonzero (lt_of_not_ge above))
    have apart := scaled_add_pow_le (lt_of_not_ge beyond)
    have power : (10 : ℚ) ^ l < 10 ^ min e (topExponent - 1) := by
      apply zpow_lt_zpow_right₀ (by norm_num)
      simp only [maxExponent, topExponent] at *
      omega
    rw [← overflowBound] at apart
    constructor <;> intro <;> linarith

/-- Two aligned numbers have a sum that is not below either, and overflows as the exact one does. -/
theorem addAligned_spec {s t : Bool} {c d : Nat} {e f : Int} (aligned : f ≤ e)
    (left : s = true → c = 0) (right : t = true → d = 0) (plus : (s && t) = false) :
    ∃ k g, addAligned s c e t d f = finish false k g ∧
      scaled c e ≤ scaled k g ∧ scaled d f ≤ scaled k g ∧
      (overflowBound ≤ scaled k g ↔ overflowBound ≤ scaled c e + scaled d f) := by
  obtain ⟨k, g, eq, -, sum⟩ := addAligned_eq_finish aligned left right plus
  refine ⟨k, g, eq, ?_⟩
  have cNonneg := scaled_nonneg c e
  have dNonneg := scaled_nonneg d f
  rcases sum with sum | ⟨l, small, gap, behind, nonzero, -, sum⟩
  · rw [sum]
    exact ⟨by linarith, by linarith, Iff.rfl⟩
  · have power : (0 : ℚ) ≤ 10 ^ l := by positivity
    have amount : scaled d f < 10 ^ l :=
      (scaled_lt_pow_leading d f).trans_le (zpow_le_zpow_right₀ (by norm_num) small)
    rw [sum]
    exact ⟨by linarith, by linarith, overflowBound_le_beside nonzero small gap behind⟩

/-- The sum of a total and an amount is not below the total, and overflows as the exact one does. -/
theorem add_spec {t : Bool} {c d : Nat} {e f : Int} (nonneg : t = true → d = 0) :
    ∃ k g, (finite false c e).add (finite t d f) = finish false k g ∧ scaled c e ≤ scaled k g ∧
      (overflowBound ≤ scaled k g ↔ overflowBound ≤ scaled c e + scaled d f) := by
  rcases le_or_gt f e with aligned | crossed
  · obtain ⟨k, g, eq, above, -, overflows⟩ :=
      addAligned_spec (s := false) (c := c) aligned nofun nonneg rfl
    exact ⟨k, g, by rw [add_eq_addAligned aligned, eq], above, overflows⟩
  · obtain ⟨k, g, eq, -, above, overflows⟩ :=
      addAligned_spec (s := t) (t := false) (d := c) crossed.le nonneg nofun (Bool.and_false t)
    refine ⟨k, g, ?_, above, by rw [overflows, add_comm]⟩
    rw [← eq]
    simp only [add, diagnosed?, isSignaling, Bool.or_self, Bool.false_eq_true, if_false,
      if_neg crossed.not_ge]

/-! ## Growth -/

/-- A total takes an amount that is not negative and does not fall, unless the sum overflows. -/
theorem IsAccrued.add {total usd : Decimal} (accrued : IsAccrued total)
    (nonneg : usd.isNegative = .ok false) :
    (¬ Overflows total usd ∧ ∃ sum, total.add usd = .ok sum ∧ IsAccrued sum ∧
      total.level ≤ sum.level) ∨
    Overflows total usd ∧ total.add usd = .error .overflow := by
  cases usd with
  | nan => cases nonneg
  | infinite s =>
    obtain rfl : s = false := by simpa [Decimal.isNegative] using nonneg
    have infinite : total.add (.infinite false) = .ok (.infinite false) := by
      cases accrued <;> rfl
    refine .inl ⟨fun overflows => ?_, _, infinite, .infinite, le_top⟩
    exact Bool.noConfusion overflows.finite.2
  | finite t d f =>
    obtain ⟨sign, value⟩ := nonneg_of_isNegative nonneg
    cases accrued with
    | infinite =>
      refine .inl ⟨fun overflows => ?_, _, rfl, .infinite, le_rfl⟩
      exact Bool.noConfusion overflows.finite.1
    | @finite c e inRange =>
      obtain ⟨k, g, eq, above, overflows⟩ := add_spec (c := c) (e := e) (f := f) sign
      rw [eq]
      by_cases beyond : overflowBound ≤ scaled k g
      · refine .inr ⟨⟨⟨rfl, rfl⟩, ?_⟩, (finish_eq_overflow_iff false k g).mpr beyond⟩
        rw [value, value_finite_false]
        exact overflows.mp beyond
      · refine .inl ⟨fun exceeds => beyond (overflows.mpr ?_), ?_⟩
        · have reached := exceeds.beyond
          rwa [value, value_finite_false] at reached
        · obtain ⟨l, h, kept, inRange'⟩ := exists_finish false (lt_of_not_ge beyond)
          refine ⟨_, kept, .finite inRange', ?_⟩
          have ordered := scaled_le_of_finish above (finish_of_inRange false inRange) kept
          exact WithBot.coe_le_coe.mpr (WithTop.coe_le_coe.mpr ordered)

/-- Only a sum that is too great is refused. -/
theorem IsAccrued.overflows {total usd : Decimal} {signal : Signal} (accrued : IsAccrued total)
    (nonneg : usd.isNegative = .ok false) (refused : total.add usd = .error signal) :
    Overflows total usd := by
  rcases accrued.add nonneg with ⟨-, sum, added, -⟩ | ⟨overflows, -⟩
  · exact nomatch added.symm.trans refused
  · exact overflows

/-- A total is rounded up to the whole number unless it has more digits than the precision. -/
theorem IsAccrued.roundUpWhole {total : Decimal} (accrued : IsAccrued total) :
    (∃ x : ℚ, total.level = (x : WithTop ℚ) ∧ x < 10 ^ precision ∧
      total.roundUpWhole = .ok ⌈x⌉) ∨
    ((10 ^ precision : ℚ) : WithTop ℚ) ≤ total.level ∧
      total.roundUpWhole = .error .invalidOperation := by
  cases accrued with
  | infinite => exact .inr ⟨le_top, rfl⟩
  | @finite c e inRange =>
    rw [inRange.roundUpWhole]
    by_cases below : scaled c e < 10 ^ precision
    · exact .inl ⟨scaled c e, rfl, below, if_pos below⟩
    · refine .inr ⟨?_, if_neg below⟩
      exact WithBot.coe_le_coe.mpr (WithTop.coe_le_coe.mpr (le_of_not_gt below))

end Decimal

end Paywatch
