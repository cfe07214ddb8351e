import Mathlib.Algebra.Order.Field.Basic
import Mathlib.Algebra.Order.Field.Power
import Mathlib.Data.Rat.Cast.Order
import Mathlib.Tactic
import Paywatch.Double.Basic

/-!
# The order of double precision numbers

The value that is not a number is neither below nor above anything.  All other
values are ordered by what they stand for, the infinities at the two ends.
-/

namespace Paywatch

namespace Double

/-- The number that a mantissa and an exponent stand for. -/
def ratio (negative : Bool) (mantissa : Nat) (exponent : Int) : ℚ :=
  signed negative mantissa * 2 ^ exponent

/-- Where a value stands between the infinities; one that is not a number has no place of its own. -/
def level : Double → WithBot (WithTop ℚ)
  | .nan => ⊥
  | .infinite true => ⊥
  | .infinite false => ⊤
  | .finite negative mantissa exponent => (ratio negative mantissa exponent : WithTop ℚ)

/-- Mantissas are compared over the lesser of their exponents. -/
theorem scaledLt_iff (a : Int) (e : Int) (b : Int) (f : Int) :
    scaledLt a e b f ↔ (a : ℚ) * 2 ^ e < b * 2 ^ f := by
  have shifted (exponent : Int) (above : min e f ≤ exponent) :
      (2 : ℚ) ^ exponent = 2 ^ (exponent - min e f).toNat * 2 ^ min e f := by
    rw [← zpow_natCast, ← zpow_add₀ (by norm_num)]
    congr 1
    omega
  rw [shifted e (min_le_left e f), shifted f (min_le_right e f), ← mul_assoc, ← mul_assoc,
    mul_lt_mul_iff_left₀ (by positivity)]
  simp only [scaledLt, Nat.pow_eq, decide_eq_true_eq]
  exact_mod_cast Iff.rfl

/-- Comparison is that of places. -/
theorem lt_iff {a b : Double} :
    a.lt b ↔ a.isNan = false ∧ b.isNan = false ∧ a.level < b.level := by
  cases a with
  | nan => simp [lt, isNan]
  | infinite s =>
    cases b with
    | nan => simp [lt, isNan]
    | infinite t => cases s <;> cases t <;> simp [lt, isNan, level]
    | finite t n f => cases s <;> simp [lt, isNan, level]
  | finite s m e =>
    cases b with
    | nan => simp [lt, isNan]
    | infinite t =>
      cases t with
      | true => simp [lt, isNan, level]
      | false =>
        have below : (finite s m e).level < (infinite false).level :=
          WithBot.coe_lt_coe.mpr (WithTop.coe_lt_top _)
        simp [lt, isNan, below]
    | finite t n f =>
      simp only [lt, isNan, level, true_and, WithBot.coe_lt_coe, WithTop.coe_lt_coe]
      exact scaledLt_iff ..

theorem le_iff {a b : Double} :
    a.le b ↔ a.isNan = false ∧ b.isNan = false ∧ a.level ≤ b.level := by
  unfold le
  cases one : a.isNan with
  | true => simp
  | false =>
    cases two : b.isNan with
    | true => simp
    | false =>
      have below := lt_iff (a := b) (b := a)
      rw [one, two] at below
      simp only [true_and] at below
      rw [← not_lt, ← below]
      simp

section Compared

variable {a b c : Double}

theorem le_refl (number : a.isNan = false) : a.le a :=
  le_iff.mpr ⟨number, number, le_rfl⟩

theorem le_trans (first : a.le b) (second : b.le c) : a.le c := by
  rw [le_iff] at *
  exact ⟨first.1, second.2.1, first.2.2.trans second.2.2⟩

theorem lt_of_lt_of_le (first : a.lt b) (second : b.le c) : a.lt c := by
  rw [lt_iff] at *
  rw [le_iff] at second
  exact ⟨first.1, second.2.1, first.2.2.trans_le second.2.2⟩

/-- Of two numbers one is below the other, or the other is below or equal to it. -/
theorem lt_of_not_le (numberA : a.isNan = false) (numberB : b.isNan = false)
    (above : a.le b = false) : b.lt a := by
  simpa [le, numberA, numberB] using above

theorem le_of_not_lt (numberA : a.isNan = false) (numberB : b.isNan = false)
    (above : b.lt a = false) : a.le b := by
  simp [le, numberA, numberB, above]

end Compared

/-! ## Twice a positive number -/

theorem level_zero : (zero false).level = ((0 : ℚ) : WithTop ℚ) := by
  simp [zero, level, ratio, signed]

/-- A positive number has no sign. -/
theorem unsigned_of_pos {negative : Bool} {mantissa : Nat} {exponent : Int}
    (positive : 0 < ratio negative mantissa exponent) : negative = false := by
  cases negative with
  | false => rfl
  | true =>
    have negated : ratio true mantissa exponent = -(mantissa * 2 ^ exponent) := by
      simp [ratio, signed]
    have nonnegative : (0 : ℚ) ≤ mantissa * 2 ^ exponent := by positivity
    linarith

theorem ratio_double (negative : Bool) (mantissa : Nat) (exponent : Int) :
    ratio negative (2 * mantissa) exponent = 2 * ratio negative mantissa exponent := by
  cases negative <;> simp [ratio, signed] <;> ring

theorem ratio_succ (negative : Bool) (mantissa : Nat) (exponent : Int) :
    ratio negative mantissa (exponent + 1) = 2 * ratio negative mantissa exponent := by
  rw [ratio, ratio, zpow_add_one₀ (by norm_num)]
  ring

/-- Doubling is exact, or it goes beyond all finite numbers. -/
theorem twice_finite (negative : Bool) (mantissa : Nat) (exponent : Int) :
    (∃ m e, (finite negative mantissa exponent).twice = finite negative m e ∧
      ratio negative m e = 2 * ratio negative mantissa exponent) ∨
    (finite negative mantissa exponent).twice = infinite negative := by
  rw [twice]
  split
  · exact .inl ⟨_, _, rfl, ratio_double ..⟩
  · split
    · exact .inl ⟨_, _, rfl, ratio_succ ..⟩
    · exact .inr rfl

/-- Doubling takes no positive number down. -/
theorem isNan_twice (a : Double) : a.twice.isNan = a.isNan := by
  cases a with
  | nan | infinite => rfl
  | finite =>
    rw [twice]
    split_ifs <;> rfl

theorem le_twice {a : Double} (positive : (zero false).lt a) : a.le a.twice := by
  obtain ⟨-, number, above⟩ := lt_iff.mp positive
  rw [level_zero] at above
  cases a with
  | nan => cases number
  | infinite negative => exact le_refl rfl
  | finite negative mantissa exponent =>
    have positive : 0 < ratio negative mantissa exponent := by simpa [level] using above
    rcases twice_finite negative mantissa exponent with ⟨m, e, doubled, twofold⟩ | doubled
    · rw [doubled]
      refine le_iff.mpr ⟨rfl, rfl, WithBot.coe_le_coe.mpr (WithTop.coe_le_coe.mpr ?_)⟩
      linarith
    · rw [doubled, unsigned_of_pos positive]
      exact le_iff.mpr ⟨rfl, rfl, WithBot.coe_le_coe.mpr le_top⟩

end Double

end Paywatch
