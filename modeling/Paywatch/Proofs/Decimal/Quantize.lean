import Mathlib.Data.Rat.Floor
import Paywatch.Proofs.Decimal.Sum

/-!
# Choosing an exponent

`quantize` gives a number a chosen exponent or refuses.  Where it does not
refuse, the coefficient is the magnitude in units of that exponent, rounded in
the chosen direction.
-/

namespace Paywatch

namespace Decimal

@[simp]
theorem rescale_zero (mode : Rounding) (e target : Int) : rescale mode 0 e target = 0 := by
  unfold rescale
  split
  · exact Nat.zero_mul _
  · rw [dropDigits_eq_quotient]
    cases mode <;> simp [Rounding.quotient]

/-- A number is given a chosen exponent where it and what it becomes fit into the precision. -/
theorem quantize_finite (mode : Rounding) {target : Int} (least : leastExponent ≤ target)
    (top : target ≤ topExponent) (s : Bool) (c : Nat) (e : Int) :
    (finite s c e).quantize mode target =
      if scaled c e < 10 ^ (target + precision) ∧ rescale mode c e target < 10 ^ precision then
        .ok (.finite s (rescale mode c e target) target)
      else .error .invalidOperation := by
  have fits {n : Nat} : n < 10 ^ precision ↔ digitCount n ≤ precision :=
    (digitCount_le_iff (by decide)).symm
  by_cases zero : c = 0
  · subst zero
    have inside : scaled 0 e < (10 : ℚ) ^ (target + precision) := by
      rw [scaled_zero]
      positivity
    have short : rescale mode 0 e target < 10 ^ precision := by
      rw [rescale_zero]
      decide
    rw [if_pos ⟨inside, short⟩, rescale_zero]
    simp only [quantize, if_true]
    exact finish_of_fits s (by decide +kernel) least top
  have wide : scaled c e < 10 ^ (target + precision) ↔
      ¬ (precision : Int) < leading c e - target + 1 := by
    constructor
    · intro below
      have := leading_lt_of_scaled_lt zero below
      omega
    · intro short
      refine (scaled_lt_pow_leading c e).trans_le (zpow_le_zpow_right₀ (by norm_num) ?_)
      omega
  simp only [wide, fits, quantize, if_neg zero]
  by_cases deep : (precision : Int) < leading c e - target + 1
  · rw [if_pos deep, if_neg fun both => both.1 deep]
  rw [if_neg deep]
  by_cases long : precision < digitCount (rescale mode c e target)
  · rw [if_pos long, if_neg fun both => long.not_ge both.2]
  rw [if_neg long, if_pos ⟨deep, Nat.le_of_not_lt long⟩]
  exact finish_of_fits s (Nat.le_of_not_lt long) least top

/-- What a number becomes at a chosen exponent: a diagnostic, or a rescaled number that fits. -/
theorem quantize_cases {mode : Rounding} {target : Int} {a d : Decimal}
    (least : leastExponent ≤ target) (top : target ≤ topExponent)
    (ok : a.quantize mode target = .ok d) :
    (∃ s payload, a.isFinite = false ∧ d = .nan s false payload) ∨
      ∃ s c e, a = .finite s c e ∧ d = .finite s (rescale mode c e target) target ∧
        rescale mode c e target < 10 ^ precision := by
  cases a with
  | infinite s => cases ok
  | nan s signaling payload =>
    cases signaling with
    | true => cases ok
    | false =>
      cases ok
      exact .inl ⟨s, _, rfl, rfl⟩
  | finite s c e =>
    right
    rw [quantize_finite mode least top] at ok
    split at ok
    · rename_i fits
      cases ok
      exact ⟨s, c, e, rfl, rfl, fits.2⟩
    · cases ok

/-! ## Down and up -/

theorem floor_quotient_down (n d : Nat) :
    ⌊(n : ℚ) / d⌋ = Rounding.down.quotient n d :=
  Rat.floor_natCast_div_natCast n d

theorem ceil_quotient_up (n : Nat) {d : Nat} (positive : 0 < d) :
    ⌈(n : ℚ) / d⌉ = Rounding.up.quotient n d := by
  have dPositive : (0 : ℚ) < d := by exact_mod_cast positive
  have whole : (n : ℚ) = d * (n / d : Nat) + (n % d : Nat) := by
    exact_mod_cast (Nat.div_add_mod n d).symm
  have rest : ((n % d : Nat) : ℚ) < d := by exact_mod_cast Nat.mod_lt n positive
  have restNonneg : (0 : ℚ) ≤ (n % d : Nat) := Nat.cast_nonneg _
  simp only [Rounding.quotient]
  rw [Int.ceil_eq_iff, lt_div_iff₀ dPositive, div_le_iff₀ dPositive, whole]
  generalize n / d = q, n % d = r at *
  split
  · rename_i even
    rw [even]
    push_cast
    constructor <;> nlinarith
  · rename_i uneven
    have restPositive : (0 : ℚ) < r := by exact_mod_cast Nat.pos_of_ne_zero uneven
    push_cast
    constructor <;> nlinarith

theorem rescale_down (c : Nat) (e target : Int) :
    (rescale .down c e target : Int) = ⌊scaled c e / 10 ^ target⌋ := by
  unfold rescale
  split
  · rename_i grows
    rw [scaled_eq_of_le grows, scaled_div_self, Int.floor_natCast, Nat.pow_eq]
  · rename_i shrinks
    rw [dropDigits_eq_quotient, scaled_div_pow (by omega), floor_quotient_down]

theorem rescale_up (c : Nat) (e target : Int) :
    (rescale .up c e target : Int) = ⌈scaled c e / 10 ^ target⌉ := by
  unfold rescale
  split
  · rename_i grows
    rw [scaled_eq_of_le grows, scaled_div_self, Int.ceil_natCast, Nat.pow_eq]
  · rename_i shrinks
    rw [dropDigits_eq_quotient, scaled_div_pow (by omega), ceil_quotient_up _ (by positivity)]

/-- A number that fits into the precision still fits when it is rounded down. -/
theorem quantize_down_of_lt {target : Int} (least : leastExponent ≤ target)
    (top : target ≤ topExponent) (s : Bool) {c : Nat} {e : Int}
    (below : scaled c e < 10 ^ (target + precision)) :
    (finite s c e).quantize .down target = .ok (.finite s (rescale .down c e target) target) ∧
      rescale .down c e target < 10 ^ precision := by
  have short : rescale .down c e target < 10 ^ precision := by
    have power : (10 : ℚ) ^ (target + precision) = 10 ^ precision * 10 ^ target := by
      rw [zpow_add₀ (by norm_num), zpow_natCast, mul_comm]
    have units : scaled c e / 10 ^ target < ((10 ^ precision : Nat) : Int) := by
      rw [div_lt_iff₀ (by positivity)]
      push_cast
      rwa [← power]
    have floor := Int.floor_lt.mpr units
    rw [← rescale_down] at floor
    exact_mod_cast floor
  exact ⟨by rw [quantize_finite .down least top, if_pos ⟨below, short⟩], short⟩

/-- Rounding down keeps the order, and refuses nothing below a number that fits. -/
theorem quantize_down_mono {target : Int} (least : leastExponent ≤ target)
    (top : target ≤ topExponent) {s t : Bool} {c d l : Nat} {e f : Int}
    (le : scaled c e ≤ scaled d f)
    (ok : (finite t d f).quantize .down target = .ok (.finite t l target)) :
    ∃ k, (finite s c e).quantize .down target = .ok (.finite s k target) ∧ k ≤ l := by
  rw [quantize_finite .down least top] at ok
  split at ok
  · rename_i fits
    cases ok
    refine ⟨_, (quantize_down_of_lt least top s (le.trans_lt fits.1)).1, ?_⟩
    have power : (0 : ℚ) ≤ 10 ^ target := by positivity
    have floors := Int.floor_mono (div_le_div_of_nonneg_right le power)
    rw [← rescale_down, ← rescale_down] at floors
    exact_mod_cast floors
  · cases ok

/-! ## Up to the whole number -/

/-- A number is rounded up where it and the whole number fit into the precision. -/
theorem roundUpWhole_finite (c : Nat) (e : Int) :
    (finite false c e).roundUpWhole =
      if scaled c e < 10 ^ precision ∧ ⌈scaled c e⌉ < 10 ^ precision then .ok ⌈scaled c e⌉
      else .error .invalidOperation := by
  have up : ⌈scaled c e⌉ = (rescale .up c e 0 : Int) := by
    rw [rescale_up, zpow_zero, div_one]
  have short : (rescale .up c e 0 : Int) < 10 ^ precision ↔ rescale .up c e 0 < 10 ^ precision := by
    exact_mod_cast Iff.rfl
  have quantized := quantize_finite .up (by decide : leastExponent ≤ 0) (by decide) false c e
  simp only [roundUpWhole, quantized, zero_add, zpow_natCast, up, short]
  by_cases fits : scaled c e < 10 ^ precision ∧ rescale .up c e 0 < 10 ^ precision
  · simp only [if_pos fits, signed, Bool.false_eq_true, if_false]
  · simp only [if_neg fits]

/-- Rounding a total up to a whole number succeeds below `10 ^ 26`. -/
theorem roundUpWhole_of_lt {c : Nat} {e : Int} (below : scaled c e < 10 ^ (26 : Int)) :
    (finite false c e).roundUpWhole = .ok ⌈scaled c e⌉ := by
  have less : (10 : ℚ) ^ (26 : Int) < 10 ^ precision := by norm_num [precision]
  have whole : ⌈scaled c e⌉ ≤ 10 ^ 26 := by
    rw [Int.ceil_le]
    push_cast
    exact_mod_cast below.le
  rw [roundUpWhole_finite, if_pos ⟨below.trans less, whole.trans_lt (by decide)⟩]

/-- A result fits into the precision with all digits or not at all when it is rounded up. -/
theorem InRange.roundUpWhole {c : Nat} {e : Int} (inRange : InRange c e) :
    (finite false c e).roundUpWhole =
      if scaled c e < 10 ^ precision then .ok ⌈scaled c e⌉ else .error .invalidOperation := by
  have fits (below : scaled c e < 10 ^ precision) : ⌈scaled c e⌉ < 10 ^ precision := by
    rcases le_or_gt 0 e with whole | broken
    · rw [scaled_eq_of_le whole] at below ⊢
      simp only [scaled, zpow_zero, mul_one, Int.ceil_natCast] at below ⊢
      exact_mod_cast below
    · -- a digit behind the point leaves one less before it
      have small : scaled c e ≤ 10 ^ ((precision : Int) - 1) := by
        refine (scaled_lt_pow ((digitCount_le_iff (by decide)).mp inRange.digits) e).le.trans ?_
        apply zpow_le_zpow_right₀ (by norm_num)
        omega
      have rounded : ⌈scaled c e⌉ ≤ 10 ^ 27 := by
        rw [Int.ceil_le]
        push_cast
        exact_mod_cast small
      exact rounded.trans_lt (by decide)
  rw [roundUpWhole_finite]
  by_cases below : scaled c e < 10 ^ precision
  · rw [if_pos ⟨below, fits below⟩, if_pos below]
  · rw [if_neg fun both => below both.1, if_neg below]

end Decimal

end Paywatch
