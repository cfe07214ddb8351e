import Paywatch.Payment.Conversion
import Paywatch.Proofs.Decimal.Exact
import Paywatch.Proofs.Decimal.Quantize

/-!
# What a payment is worth

A conversion is a product, a quotient and a rounding to the cent, each of which
has to succeed.  What it gives is an amount of whole cents, unless the ledger
would refuse it.
-/

namespace Paywatch

open Decimal

/-- A conversion succeeds when its three steps do. -/
theorem convertToUsd_eq_ok {satoshi : Int} {rate usd : Decimal} :
    convertToUsd satoshi rate = .ok usd ↔
      ∃ product quotient, (Decimal.ofInt satoshi).mul rate = .ok product ∧
        product.shiftRight satoshiPlaces = .ok quotient ∧
        quotient.quantize .down centExponent = .ok usd := by
  unfold convertToUsd
  constructor
  · intro converted
    cases multiplied : (Decimal.ofInt satoshi).mul rate with
    | error signal =>
      rw [multiplied] at converted
      cases converted
    | ok product =>
      rw [multiplied] at converted
      cases divided : product.shiftRight satoshiPlaces with
      | error signal =>
        simp only [bind, Except.bind, divided] at converted
        cases converted
      | ok quotient =>
        simp only [bind, Except.bind, divided] at converted
        exact ⟨product, quotient, rfl, divided, converted⟩
  · rintro ⟨product, quotient, multiplied, divided, rounded⟩
    simp only [multiplied, divided, bind, Except.bind, rounded]

/-! ## The product -/

/-- The exact product, before it is brought into range. -/
theorem scaled_product {satoshi : Int} (nonneg : 0 ≤ satoshi) (d : Nat) (f : Int) :
    scaled (satoshi.natAbs * d) f = satoshi * scaled d f := by
  rw [scaled, scaled]
  push_cast
  rw [← mul_assoc, ← Int.cast_natCast, Int.natAbs_of_nonneg nonneg]

theorem mul_ofInt {satoshi : Int} (nonneg : 0 ≤ satoshi) (t : Bool) (d : Nat) (f : Int) :
    (Decimal.ofInt satoshi).mul (.finite t d f) = finish t (satoshi.natAbs * d) f := by
  have plus : decide (satoshi < 0) = false := decide_eq_false (not_lt.mpr nonneg)
  rw [ofInt, mul_finite, plus, Bool.false_xor, zero_add]

/-- A rate that is not negative has its magnitude for its value, and a minus sign only at zero. -/
theorem rate_magnitude {t : Bool} {d : Nat} {f : Int} (nonneg : 0 ≤ value (.finite t d f)) :
    value (.finite t d f) = scaled d f ∧ (t = true → d = 0) := by
  cases t with
  | false => exact ⟨rfl, nofun⟩
  | true =>
    have zero : scaled d f = 0 := by
      rw [value_finite_true] at nonneg
      exact le_antisymm (by linarith) (scaled_nonneg d f)
    exact ⟨by rw [value_finite_true, zero, neg_zero], fun _ => scaled_eq_zero.mp zero⟩

/-! ## Whole cents -/

/-- A conversion that is not below zero gives whole cents. -/
theorem isCents_of_convertToUsd {satoshi : Int} {rate usd : Decimal}
    (converted : convertToUsd satoshi rate = .ok usd) (nonneg : usd.isNegative = .ok false) :
    IsCents usd := by
  obtain ⟨product, quotient, -, -, rounded⟩ := convertToUsd_eq_ok.mp converted
  rcases quantize_cases (by decide) (by decide) rounded with
    ⟨s, payload, -, rfl⟩ | ⟨s, c, e, -, rfl, short⟩
  · cases nonneg
  · refine ⟨s, _, rfl, short, ?_⟩
    rintro rfl
    simpa [isNegative] using nonneg

/-- What is paid at a rate above zero is not below zero. -/
theorem isNegative_of_convertToUsd {satoshi : Int} {d : Nat} {f : Int} {usd : Decimal}
    (amount : 0 ≤ satoshi) (converted : convertToUsd satoshi (.finite false d f) = .ok usd) :
    usd.isNegative = .ok false := by
  obtain ⟨product, quotient, multiplied, divided, rounded⟩ := convertToUsd_eq_ok.mp converted
  rw [mul_ofInt amount] at multiplied
  obtain ⟨c, e, rfl, -⟩ := finish_inRange multiplied
  obtain ⟨c', e', rfl, -⟩ := finish_inRange divided
  rcases quantize_cases (by decide) (by decide) rounded with
    ⟨s, payload, infinite, -⟩ | ⟨s, c, e, whole, rfl, -⟩
  · cases infinite
  · cases whole
    rfl

/-! ## The exact amount -/

/-- The dollars that an amount of satoshi is worth at a rate, with whole cents only. -/
def worth (satoshi : Int) (rate : ℚ) : ℚ :=
  ⌊satoshi * rate / 10 ^ satoshiPlaces * 100⌋ / 100

/-- Amounts that are kept by rounding have the same whole cents. -/
theorem floor_of_kept {x y : ℚ} (kept : Kept x y) (xNonneg : 0 ≤ x) (yNonneg : 0 ≤ y) :
    ⌊y / 10 ^ centExponent⌋ = ⌊x * 100⌋ := by
  have cents (z : ℚ) : z / 10 ^ centExponent = z * 100 := by
    norm_num [centExponent]
    ring
  rw [cents]
  rcases kept with rfl | ⟨xTiny, yTiny⟩
  · rfl
  · have small : (10 : ℚ) ^ tiny < 1 / 100 := by
      have power : (1 : ℚ) / 100 = 10 ^ (-2 : Int) := by norm_num
      rw [power]
      exact zpow_lt_zpow_right₀ (by norm_num) (by decide)
    have none {z : ℚ} (nonneg : 0 ≤ z) (le : z ≤ 10 ^ tiny) : ⌊z * 100⌋ = 0 := by
      rw [Int.floor_eq_zero_iff, Set.mem_Ico]
      constructor <;> linarith
    rw [none xNonneg xTiny, none yNonneg yTiny]

/--
A conversion whose product has no more digits than the precision loses nothing
but what is below the cent.
-/
theorem value_of_convertToUsd {satoshi : Int} {t : Bool} {d : Nat} {f : Int} {usd : Decimal}
    (amount : 0 ≤ satoshi) (rate : 0 ≤ value (.finite t d f))
    (representable : Representable (satoshi * value (.finite t d f)))
    (converted : convertToUsd satoshi (.finite t d f) = .ok usd) :
    usd.value = worth satoshi (value (.finite t d f)) := by
  obtain ⟨product, quotient, multiplied, divided, rounded⟩ := convertToUsd_eq_ok.mp converted
  obtain ⟨same, minus⟩ := rate_magnitude rate
  have exact : scaled (satoshi.natAbs * d) f = satoshi * value (.finite t d f) := by
    rw [same, scaled_product amount]
  rw [mul_ofInt amount] at multiplied
  rw [← exact] at representable
  obtain ⟨k, g, rfl, kept⟩ := finish_kept multiplied representable
  obtain ⟨k', g', rfl, kept'⟩ := shiftRight_kept divided representable kept
  rcases quantize_cases (by decide) (by decide) rounded with
    ⟨s, payload, infinite, -⟩ | ⟨s, c, e, whole, rfl, -⟩
  · cases infinite
  · cases whole
    have cents := floor_of_kept kept' (div_nonneg (scaled_nonneg _ _) (by positivity))
      (scaled_nonneg k' g')
    rw [← rescale_down, exact] at cents
    have power : (10 : ℚ) ^ centExponent = 1 / 100 := by
      norm_num [centExponent]
    rw [worth, ← cents]
    cases t with
    | false =>
      rw [value_finite_false, scaled, power]
      push_cast
      ring
    | true =>
      have none : (satoshi : ℚ) * value (.finite true d f) = 0 := by
        rw [same, minus rfl, scaled_zero, mul_zero]
      have zero : rescale .down k' g' centExponent = 0 := by
        rw [none, zero_div, zero_mul, Int.floor_zero] at cents
        exact_mod_cast cents
      rw [value_finite_true, zero, scaled_zero]
      norm_num

end Paywatch
