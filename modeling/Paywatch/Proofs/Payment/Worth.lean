import Mathlib.Order.Bounds.Basic
import Paywatch.Proofs.Decimal.Carry
import Paywatch.Proofs.Payment.Conversion
import Paywatch.Rates.Table

/-!
# More for more, and not more than it is worth

More satoshi at a higher rate are never converted to fewer dollars, whatever the
rates look like.  What is converted is the exact amount rounded down to the cent,
unless the product has more digits than the precision and rounding it carries the
amount over the next cent; below `10 ^ 12` dollars that does not happen.
-/

namespace Paywatch

open Decimal

/-! ## More for more -/

/-- A greater product is converted to more cents, and where it is converted a smaller one is too. -/
theorem cents_mono {satoshi more : Int} {s t : Bool} {c d : Nat} {e f : Int} {usd : Decimal}
    (nonneg : 0 ≤ satoshi) (nonneg' : 0 ≤ more) (le : satoshi * scaled c e ≤ more * scaled d f)
    (converted : convertToUsd more (.finite t d f) = .ok usd) :
    ∃ k l, convertToUsd satoshi (.finite s c e) = .ok (.finite s k cent) ∧
      usd = .finite t l cent ∧ k ≤ l ∧ l < 10 ^ precision := by
  rw [← scaled_product nonneg, ← scaled_product nonneg'] at le
  obtain ⟨product, quotient, multiplied, divided, rounded⟩ := convertToUsd_eq_ok.mp converted
  rw [mul_ofInt nonneg'] at multiplied
  obtain ⟨d', f', rfl, -⟩ := finish_inRange multiplied
  obtain ⟨d'', f'', rfl, -⟩ := finish_inRange divided
  rcases quantize_cases (by decide) (by decide) rounded with
    ⟨_, _, infinite, -⟩ | ⟨_, _, _, whole, rfl, short⟩
  · cases infinite
  cases whole
  obtain ⟨c', e', multiplied', products'⟩ := finish_mono (s := s) le multiplied
  obtain ⟨c'', e'', divided', quotients⟩ := shiftRight_mono (s := s) products' divided
  obtain ⟨k, rounded', cents⟩ :=
    quantize_down_mono (s := s) (by decide) (by decide) quotients rounded
  refine ⟨k, _, convertToUsd_eq_ok.mpr ⟨_, _, ?_, divided', rounded'⟩, rfl, cents, short⟩
  rw [mul_ofInt nonneg, multiplied']

/-- What is paid at a rate that is not negative is an amount of whole cents. -/
theorem isCents_of_nonneg {satoshi : Int} {t : Bool} {d : Nat} {f : Int} {usd : Decimal}
    (amount : 0 ≤ satoshi) (rate : 0 ≤ value (.finite t d f))
    (converted : convertToUsd satoshi (.finite t d f) = .ok usd) : IsCents usd := by
  obtain ⟨-, l, -, rfl, -, short⟩ := cents_mono (s := t) amount amount le_rfl converted
  refine ⟨t, l, rfl, short, fun minus => ?_⟩
  have zero : d = 0 := (rate_magnitude rate).2 minus
  subst zero
  have free : convertToUsd 0 (.finite false 0 0) = .ok (.finite false 0 cent) := by decide +kernel
  obtain ⟨k, none, paid, nothing, le, -⟩ :=
    cents_mono (s := t) (c := 0) (e := f) amount le_rfl (by simp) free
  cases converted.symm.trans paid
  cases nothing
  exact Nat.le_zero.mp le

/--
If a conversion succeeds, so does that of an amount and a rate that are not
greater, and it does not give more.  Both give whole cents below `10 ^ 26`.
-/
theorem convertToUsd_mono {satoshi more : Int} {rate dearer usd : Decimal} (nonneg : 0 ≤ satoshi)
    (le : satoshi ≤ more) (finite : rate.isFinite = true) (finite' : dearer.isFinite = true)
    (rateNonneg : 0 ≤ rate.value) (rates : rate.value ≤ dearer.value)
    (converted : convertToUsd more dearer = .ok usd) :
    ∃ less, convertToUsd satoshi rate = .ok less ∧ less.value ≤ usd.value ∧
      ∀ paid ∈ [less, usd], paid.isFinite = true ∧
        ∃ n : Nat, paid.value = n / 100 ∧ paid.value < 10 ^ 26 := by
  cases rate with
  | infinite | nan => cases finite
  | finite s c e =>
    cases dearer with
    | infinite | nan => cases finite'
    | finite t d f =>
      obtain ⟨same, -⟩ := rate_magnitude rateNonneg
      obtain ⟨same', -⟩ := rate_magnitude (rateNonneg.trans rates)
      have nonneg' := nonneg.trans le
      have products : satoshi * scaled c e ≤ more * scaled d f := by
        rw [same, same'] at rates
        have amounts : (satoshi : ℚ) ≤ more := by exact_mod_cast le
        exact mul_le_mul amounts rates (scaled_nonneg c e) (by exact_mod_cast nonneg')
      obtain ⟨k, l, paid, rfl, cents, -⟩ := cents_mono (s := s) nonneg nonneg' products converted
      have lessCents := isCents_of_nonneg nonneg rateNonneg paid
      have usdCents := isCents_of_nonneg nonneg' (rateNonneg.trans rates) converted
      refine ⟨_, paid, ?_, ?_⟩
      · rw [lessCents.value_finite, usdCents.value_finite]
        exact scaled_le_scaled cents cent
      · intro amount either
        have isCents : IsCents amount := by
          rcases List.mem_pair.mp either with rfl | rfl
          · exact lessCents
          · exact usdCents
        exact isCents.bounded

/-- A payment of a satoshi and one of very many, at rates of very different size. -/
theorem convertToUsd_mono_distant :
    convertToUsd (10 ^ 40) (.finite false 15 (-19)) = .ok (.finite false 15000000000000000 cent) ∧
    ∃ less, convertToUsd 1 (.finite false 1 (-60)) = .ok less ∧
      less.value ≤ value (.finite false 15000000000000000 cent) := by
  have converted : convertToUsd (10 ^ 40) (.finite false 15 (-19)) =
      .ok (.finite false 15000000000000000 cent) := by
    decide +kernel
  have one : (0 : Int) ≤ 1 ∧ (1 : Int) ≤ 10 ^ 40 := by decide
  have nonneg : 0 ≤ value (.finite false 1 (-60)) := scaled_nonneg 1 (-60)
  have rates : value (.finite false 1 (-60)) ≤ value (.finite false 15 (-19)) := by
    norm_num [scaled]
  obtain ⟨less, paid, le, -⟩ :=
    convertToUsd_mono one.1 one.2 rfl rfl nonneg rates converted
  exact ⟨converted, less, paid, le⟩

/-! ## Rounded down to the cent -/

/-- A rate as it is recorded: above zero, below `10 ^ 12`, with no more places than are stored. -/
structure IsRecorded (rate : Decimal) : Prop where
  finite : rate.isFinite = true
  positive : 0 < rate.value
  below : rate.value < 10 ^ 12
  places : ∃ n : Nat, rate.value = n / 10 ^ RateTable.storedPlaces

def wholeSupply : Int := 21 * 10 ^ 14

/-- The exact dollars that an amount of satoshi is worth at a rate. -/
def dollars (satoshi : Int) (rate : ℚ) : ℚ :=
  satoshi * rate / 10 ^ satoshiPlaces

/-- The whole cents that are not above an amount. -/
def centsUpTo (x : ℚ) : Set ℚ :=
  {z | (∃ n : Int, z = n / 100) ∧ z ≤ x}

theorem worth_isGreatest (satoshi : Int) (rate : ℚ) :
    IsGreatest (centsUpTo (dollars satoshi rate)) (worth satoshi rate) := by
  constructor
  · refine ⟨⟨_, rfl⟩, ?_⟩
    rw [worth, div_le_iff₀ (by norm_num)]
    exact Int.floor_le _
  · rintro z ⟨⟨n, rfl⟩, le⟩
    rw [div_le_iff₀ (by norm_num)] at le
    have cents : n ≤ ⌊dollars satoshi rate * 100⌋ := Int.le_floor.mpr le
    rw [worth]
    exact div_le_div_of_nonneg_right (by exact_mod_cast cents) (by norm_num)

/-- A product that is brought into range is converted to its whole cents. -/
theorem convertToUsd_of_product {satoshi : Int} {t : Bool} {d k : Nat} {f g : Int}
    (multiplied : (Decimal.ofInt satoshi).mul (.finite t d f) = .ok (.finite false k g))
    (inRange : InRange k g) (below : scaled k g ≤ 10 ^ 28) :
    ∃ usd, convertToUsd satoshi (.finite t d f) = .ok usd ∧ IsCents usd ∧
      usd.value = ⌊scaled k g / 10 ^ satoshiPlaces * 100⌋ / 100 := by
  have representable : Representable (scaled k g) :=
    ⟨k, g, (digitCount_le_iff (by decide)).mp inRange.digits, rfl⟩
  have small : scaled k g / 10 ^ satoshiPlaces ≤ 10 ^ (20 : Int) := by
    rw [div_le_iff₀ (by positivity)]
    exact below.trans (by norm_num [satoshiPlaces])
  have shifted : scaled k g / 10 ^ satoshiPlaces < overflowBound := by
    have power : (10 : ℚ) ^ (20 : Int) < 10 ^ maxExponent :=
      zpow_lt_zpow_right₀ (by norm_num) (by decide)
    exact small.trans_lt (power.trans_le pow_maxExponent_le_overflowBound)
  obtain ⟨c, e, divided, -⟩ := exists_shiftRight false shifted
  obtain ⟨c, e, same, kept⟩ := shiftRight_kept divided representable (.inl rfl)
  cases same
  have fits : scaled c e < 10 ^ (centExponent + precision) := by
    have power : (10 : ℚ) ^ (20 : Int) < 10 ^ (centExponent + precision) :=
      zpow_lt_zpow_right₀ (by norm_num) (by decide)
    refine lt_of_le_of_lt ?_ power
    rcases kept with same | ⟨-, tiny⟩
    · exact same ▸ small
    · exact tiny.trans (zpow_le_zpow_right₀ (by norm_num) (by decide))
  obtain ⟨rounded, short⟩ := quantize_down_of_lt (by decide) (by decide) false fits
  refine ⟨_, convertToUsd_eq_ok.mpr ⟨_, _, multiplied, divided, rounded⟩,
    ⟨false, _, rfl, short, nofun⟩, ?_⟩
  have exactNonneg : 0 ≤ scaled k g / 10 ^ satoshiPlaces :=
    div_nonneg (scaled_nonneg k g) (by positivity)
  have floor := floor_of_kept kept exactNonneg (scaled_nonneg c e)
  have power : (10 : ℚ) ^ centExponent = 1 / 100 := by norm_num [centExponent]
  rw [← floor, ← rescale_down, value_finite_false, scaled, power, Int.cast_natCast, mul_one_div]

/-- From an amount to the next cent it is farther than half of the last place. -/
def KeepsCent (x : ℚ) : Prop :=
  lastPlace x / 2 < (⌊x * 100⌋ + 1) / 100 - x

/-- A product that is not zero keeps its cent or is carried over the next one. -/
theorem floor_product {c : Nat} {e : Int} {q : Nat} (nonzero : c ≠ 0)
    (deep : leastExponent + satoshiPlaces ≤ leading c e + 1 - precision)
    (below : leading c e < precision)
    (nearest : IsNearest (scaled c e / 10 ^ unit c e) q) :
    let y := scaled c e / 10 ^ satoshiPlaces
    (KeepsCent y → ⌊scaled q (unit c e) / 10 ^ satoshiPlaces * 100⌋ = ⌊y * 100⌋) ∧
    (¬ KeepsCent y → ⌊scaled q (unit c e) / 10 ^ satoshiPlaces * 100⌋ = ⌊y * 100⌋ + 1) := by
  intro y
  have shifted : (10 : ℚ) ^ (unit c e - satoshiPlaces) = 10 ^ unit c e / 10 ^ satoshiPlaces := by
    rw [zpow_sub₀ (by norm_num), zpow_natCast]
  have place : lastPlace y = 10 ^ (unit c e - satoshiPlaces) := by
    rw [lastPlace_div_pow (scaled_pos nonzero e), lastPlace_scaled nonzero (by omega), shifted]
  have nearest' : IsNearest (y / 10 ^ (unit c e - satoshiPlaces)) q := by
    rw [shifted, div_div_div_cancel_right₀ (by positivity)]
    exact nearest
  have rounded :
      scaled q (unit c e) / 10 ^ satoshiPlaces = scaled q (unit c e - satoshiPlaces) := by
    rw [scaled, scaled, shifted, mul_div_assoc]
  have hundred (z : ℚ) : z / 10 ^ centExponent = z * 100 := by
    norm_num [centExponent]
    ring
  have finer : unit c e - satoshiPlaces < centExponent := by
    simp only [unit, leastExponent, precision, satoshiPlaces, centExponent] at *
    omega
  have nonneg : 0 ≤ y := div_nonneg (scaled_nonneg c e) (by positivity)
  have floor := floor_of_isNearest nonneg finer nearest'
  have next : (⌊y * 100⌋ + 1 : ℚ) * 10 ^ centExponent = (⌊y * 100⌋ + 1) / 100 := by
    norm_num [centExponent]
    ring
  rw [← place, hundred, hundred, next] at floor
  rw [rounded, floor]
  exact ⟨fun keeps => if_pos keeps, fun carried => if_neg carried⟩

/-- Below `10 ^ 12` the last place is too small for an amount with 16 places. -/
theorem keepsCent_of_lt {y : ℚ} {n : Nat} (places : y = n / 10 ^ 16) (below : y < 10 ^ 12) :
    KeepsCent y := by
  have short : Int.log 10 y < 12 := by
    rcases eq_or_ne n 0 with rfl | nonzero
    · rw [places, Nat.cast_zero, zero_div, Int.log_zero_right]
      decide
    · have positive : 0 < y := by
        rw [places]
        positivity
      exact (Int.lt_zpow_iff_log_lt (b := 10) (by decide) positive).mp (by exact_mod_cast below)
  have last : lastPlace y ≤ 1 / 10 ^ 16 := by
    have power : (1 : ℚ) / 10 ^ 16 = 10 ^ (-16 : Int) := by norm_num
    rw [power]
    apply zpow_le_zpow_right₀ (by norm_num)
    unfold precision
    omega
  -- the next cent is a multiple of the last of the 16 places, and so is the amount
  have next : (n : Int) + 1 ≤ (⌊y * 100⌋ + 1) * 10 ^ 14 := by
    have above := Int.lt_floor_add_one (y * 100)
    rw [places] at above ⊢
    rw [Int.add_one_le_iff]
    have : (n : ℚ) < (⌊(n : ℚ) / 10 ^ 16 * 100⌋ + 1) * 10 ^ 14 := by linarith
    exact_mod_cast this
  have apart : (n : ℚ) + 1 ≤ (⌊y * 100⌋ + 1) * 10 ^ 14 := by exact_mod_cast next
  have amount : (n : ℚ) = y * 10 ^ 16 := by
    rw [places]
    norm_num
  rw [KeepsCent]
  linarith

theorem IsRecorded.written {rate : Decimal} (recorded : IsRecorded rate) :
    ∃ d f, rate = .finite false d f := by
  cases rate with
  | infinite | nan => exact nomatch recorded.finite
  | finite t d f =>
    obtain ⟨-, minus⟩ := rate_magnitude recorded.positive.le
    cases t with
    | false => exact ⟨d, f, rfl⟩
    | true =>
      have positive := recorded.positive
      rw [minus rfl, value_finite_true, scaled_zero, neg_zero] at positive
      exact absurd positive (lt_irrefl 0)

/-- The product has no more places than are stored. -/
theorem IsRecorded.places_product {satoshi : Int} {rate : Decimal} (recorded : IsRecorded rate)
    (nonneg : 0 ≤ satoshi) : ∃ n : Nat, satoshi * rate.value = n / 10 ^ 8 := by
  obtain ⟨n, places⟩ := recorded.places
  have amount : ((satoshi.natAbs : Nat) : ℚ) = satoshi := by
    rw [← Int.cast_natCast, Int.natAbs_of_nonneg nonneg]
  refine ⟨satoshi.natAbs * n, ?_⟩
  rw [Nat.cast_mul, amount, mul_div_assoc, places, RateTable.storedPlaces]

/-- The exact amount has as many places as the satoshi and the rate together. -/
theorem IsRecorded.places_dollars {satoshi : Int} {rate : Decimal} (recorded : IsRecorded rate)
    (nonneg : 0 ≤ satoshi) : ∃ n : Nat, dollars satoshi rate.value = n / 10 ^ 16 := by
  obtain ⟨n, places⟩ := recorded.places_product nonneg
  refine ⟨n, ?_⟩
  rw [dollars, places, satoshiPlaces, div_div, ← pow_add]

/-- Even the whole supply at the greatest rate has a product below the power of the precision. -/
theorem IsRecorded.product_lt {satoshi : Int} {d : Nat} {f : Int}
    (recorded : IsRecorded (.finite false d f)) (nonneg : 0 ≤ satoshi)
    (supply : satoshi ≤ wholeSupply) : scaled (satoshi.natAbs * d) f < 10 ^ (28 : Int) := by
  have amount : (satoshi : ℚ) ≤ 21 * 10 ^ 14 := by exact_mod_cast supply
  have rate : scaled d f ≤ 10 ^ 12 := recorded.below.le
  rw [scaled_product nonneg]
  calc
    satoshi * scaled d f ≤ 21 * 10 ^ 14 * 10 ^ 12 :=
      mul_le_mul amount rate (scaled_nonneg d f) (by norm_num)
    _ < 10 ^ (28 : Int) := by norm_num

/-- A product that is not zero is at least a unit of the last place that is stored. -/
theorem IsRecorded.le_leading_product {satoshi : Int} {d : Nat} {f : Int}
    (recorded : IsRecorded (.finite false d f)) (nonneg : 0 ≤ satoshi)
    (nonzero : satoshi.natAbs * d ≠ 0) : -8 ≤ leading (satoshi.natAbs * d) f := by
  obtain ⟨n, places⟩ := recorded.places_product nonneg
  rw [value_finite_false, ← scaled_product nonneg] at places
  have some : n ≠ 0 := by
    rintro rfl
    have positive := scaled_pos nonzero f
    rw [places, Nat.cast_zero, zero_div] at positive
    exact lt_irrefl 0 positive
  have least : (10 : ℚ) ^ (-8 : Int) ≤ scaled (satoshi.natAbs * d) f := by
    rw [places, zpow_neg, ← one_div]
    have one : (1 : ℚ) ≤ n := by exact_mod_cast Nat.one_le_iff_ne_zero.mpr some
    exact div_le_div_of_nonneg_right one (by norm_num)
  have above : -8 < leading (satoshi.natAbs * d) f + 1 :=
    (zpow_lt_zpow_iff_right₀ (by norm_num : (1 : ℚ) < 10)).mp
      (least.trans_lt (scaled_lt_pow_leading _ f))
  omega

/-- The product is brought into range, and its cents are those of the exact amount or one more. -/
theorem IsRecorded.product {satoshi : Int} {d : Nat} {f : Int}
    (recorded : IsRecorded (.finite false d f)) (nonneg : 0 ≤ satoshi)
    (supply : satoshi ≤ wholeSupply) :
    let exact := dollars satoshi (scaled d f)
    ∃ k g, (Decimal.ofInt satoshi).mul (.finite false d f) = .ok (.finite false k g) ∧
      InRange k g ∧ scaled k g ≤ 10 ^ 28 ∧
      (KeepsCent exact → ⌊scaled k g / 10 ^ satoshiPlaces * 100⌋ = ⌊exact * 100⌋) ∧
      (¬ KeepsCent exact → ⌊scaled k g / 10 ^ satoshiPlaces * 100⌋ = ⌊exact * 100⌋ + 1) := by
  intro exact
  have product : exact = scaled (satoshi.natAbs * d) f / 10 ^ satoshiPlaces := by
    rw [scaled_product nonneg]
    rfl
  obtain ⟨n, places⟩ : ∃ n : Nat, exact = n / 10 ^ 16 := recorded.places_dollars nonneg
  rw [mul_ofInt nonneg]
  by_cases zero : satoshi.natAbs * d = 0
  · have none : exact = 0 := by
      rw [product, zero, scaled_zero, zero_div]
    have keeps : KeepsCent exact := keepsCent_of_lt places (by rw [none]; norm_num)
    obtain ⟨g, kept, inRange⟩ := finish_zero false f
    refine ⟨0, g, by rw [zero, kept], inRange, by rw [scaled_zero]; norm_num, fun _ => ?_,
      fun carried => absurd keeps carried⟩
    rw [scaled_zero, none, zero_div]
  have below := recorded.product_lt nonneg supply
  have lead := leading_lt_of_scaled_lt zero below
  have least := recorded.le_leading_product nonneg zero
  rcases finish_cases false zero f with ⟨k, g, q, kept, -, inRange, nearest, eq⟩ | ⟨-, beyond⟩
  · have grid : unit (satoshi.natAbs * d) f ≤ 28 := by
      simp only [unit, leastExponent, precision] at *
      omega
    have short : scaled k g ≤ scaled 1 28 :=
      eq ▸ scaled_le_of_isNearest nearest grid (by rw [scaled_one]; exact below.le)
    have deep : leastExponent + satoshiPlaces ≤
        leading (satoshi.natAbs * d) f + 1 - precision := by
      simp only [leastExponent, satoshiPlaces, precision]
      omega
    rw [scaled_one] at short
    refine ⟨k, g, kept, inRange, by exact_mod_cast short, ?_⟩
    rw [eq, product]
    exact floor_product zero deep lead nearest
  · have power : (10 : ℚ) ^ (28 : Int) ≤ 10 ^ maxExponent :=
      zpow_le_zpow_right₀ (by norm_num) (by decide)
    exact absurd (beyond.trans_lt below) (power.trans pow_maxExponent_le_overflowBound).not_gt

/--
A conversion at a recorded rate always succeeds and gives whole cents, the
greatest that the payment was worth, as long as the exact amount keeps its cent.
Otherwise it gives a cent more than that, and more than the payment was worth.
Below `10 ^ 12` dollars every amount keeps its cent.
-/
theorem rounded_down_unless_carried {satoshi : Int} {rate : Decimal} (nonneg : 0 ≤ satoshi)
    (supply : satoshi ≤ wholeSupply) (recorded : IsRecorded rate) :
    let exact := dollars satoshi rate.value
    ∃ usd, convertToUsd satoshi rate = .ok usd ∧ IsCents usd ∧
      (IsGreatest (centsUpTo exact) usd.value ↔ KeepsCent exact) ∧
      (¬ KeepsCent exact →
        usd.value = worth satoshi rate.value + 1 / 100 ∧ exact < usd.value) ∧
      (exact < 10 ^ 12 → KeepsCent exact) := by
  intro exact
  obtain ⟨n, places⟩ := recorded.places_dollars nonneg
  obtain ⟨d, f, rfl⟩ := recorded.written
  obtain ⟨k, g, multiplied, inRange, short, keeps, carries⟩ := recorded.product nonneg supply
  obtain ⟨usd, converted, isCents, value⟩ := convertToUsd_of_product multiplied inRange short
  have greatest := worth_isGreatest satoshi (scaled d f)
  have kept (keepsCent : KeepsCent exact) : usd.value = worth satoshi (scaled d f) := by
    rw [value, keeps keepsCent]
    rfl
  have carried (lost : ¬ KeepsCent exact) :
      usd.value = worth satoshi (scaled d f) + 1 / 100 ∧ exact < usd.value := by
    have more : usd.value = worth satoshi (scaled d f) + 1 / 100 := by
      rw [value, carries lost]
      push_cast
      rw [add_div]
      rfl
    refine ⟨more, ?_⟩
    have above := Int.lt_floor_add_one (exact * 100)
    rw [more]
    change exact < (⌊exact * 100⌋ : ℚ) / 100 + 1 / 100
    linarith
  refine ⟨usd, converted, isCents, ⟨fun isGreatest => ?_, fun keepsCent => ?_⟩, carried,
    keepsCent_of_lt places⟩
  · by_contra lost
    exact isGreatest.1.2.not_gt (carried lost).2
  · rw [kept keepsCent]
    exact greatest

def greatestRate : Decimal := .finite false (10 ^ 20 - 1) (-8)

theorem rounded_down_unless_carried_greatest :
    IsRecorded greatestRate ∧ KeepsCent (dollars wholeSupply greatestRate.value) ∧
    ∃ usd, convertToUsd wholeSupply greatestRate = .ok usd ∧
      IsGreatest (centsUpTo (dollars wholeSupply greatestRate.value)) usd.value := by
  have rate : greatestRate.value = (10 ^ 20 - 1) / 10 ^ 8 := by
    norm_num [greatestRate, scaled]
  have recorded : IsRecorded greatestRate := by
    refine ⟨rfl, ?_, ?_, 10 ^ 20 - 1, ?_⟩ <;> rw [rate] <;> norm_num [RateTable.storedPlaces]
  have amount : dollars wholeSupply greatestRate.value = 20999999999999999999.79 := by
    rw [dollars, rate]
    norm_num [wholeSupply, satoshiPlaces]
  have keeps : KeepsCent (dollars wholeSupply greatestRate.value) := by
    have log : Int.log 10 (20999999999999999999.79 : ℚ) = 19 := log_eq (by norm_num) (by norm_num)
    have floor : ⌊(20999999999999999999.79 : ℚ) * 100⌋ = 2099999999999999999979 := by norm_num
    rw [amount, KeepsCent, lastPlace, log, floor]
    norm_num [precision]
  obtain ⟨usd, converted, -, greatest, -⟩ :=
    rounded_down_unless_carried (by decide) (le_refl wholeSupply) recorded
  exact ⟨recorded, keeps, usd, converted, greatest.mpr keeps⟩

/-- Two million bitcoins less a satoshi bring a cent more than they are worth. -/
theorem not_rounded_down_carried :
    ¬ ∀ (satoshi : Int) (rate : Decimal), 0 ≤ satoshi → satoshi ≤ wholeSupply →
      IsRecorded rate → ∃ usd, convertToUsd satoshi rate = .ok usd ∧
        IsGreatest (centsUpTo (dollars satoshi rate.value)) usd.value := by
  intro roundsDown
  have rate : value (.finite false 100000000000001 (-8)) = 100000000000001 / 10 ^ 8 := by
    norm_num [scaled]
  have recorded : IsRecorded (.finite false 100000000000001 (-8)) := by
    refine ⟨rfl, ?_, ?_, 100000000000001, ?_⟩ <;> rw [rate] <;> norm_num [RateTable.storedPlaces]
  have converted : convertToUsd 199999999999999 (.finite false 100000000000001 (-8)) =
      .ok (.finite false 200000000000001 (-2)) := by
    decide +kernel
  obtain ⟨usd, converted', greatest⟩ :=
    roundsDown 199999999999999 _ (by decide) (by decide) recorded
  cases converted.symm.trans converted'
  have le := greatest.1.2
  rw [dollars, rate, value_finite_false, scaled] at le
  norm_num [satoshiPlaces] at le

end Paywatch
