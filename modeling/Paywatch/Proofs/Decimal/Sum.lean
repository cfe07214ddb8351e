import Paywatch.Decimal.Arithmetic
import Paywatch.Proofs.Decimal.Range

/-!
# Sums of cents

A running total grows by amounts of whole cents.  As long as it stays below
`10 ^ 26` every sum is exact.  A greater total may lose cents to rounding, but
the sum is never refused: at `10 ^ plateau` an amount is too small to be seen
beside the total, so that no number of additions leads beyond it.
-/

namespace Paywatch

namespace Decimal

/-! ## Results that need no rounding -/

/-- A coefficient that fits into the precision is kept, if its exponent is in range. -/
theorem finish_of_fits (s : Bool) {c : Nat} {e : Int} (fits : digitCount c ≤ precision)
    (least : leastExponent ≤ e) (top : e ≤ topExponent) :
    finish s c e = .ok (.finite s c e) := by
  refine finish_of_inRange s ⟨fits, least, ?_⟩
  simp only [leading, precision, topExponent, maxExponent] at *
  omega

/-! ## The exact sum -/

/--
The sum of two numbers that are not negative, of which the second has the smaller
exponent, is a result to be brought into range.  It is the exact sum, unless the
second number is negligible; then a smaller power stands for it.
-/
theorem addAligned_eq_finish {s t : Bool} {c d : Nat} {e f : Int} (aligned : f ≤ e)
    (left : s = true → c = 0) (right : t = true → d = 0) (plus : (s && t) = false) :
    ∃ k g, addAligned s c e t d f = finish false k g ∧ f ≤ g ∧
      (scaled k g = scaled c e + scaled d f ∨
        ∃ l, leading d f < l ∧ l + 29 ≤ leading c e ∧ l < e ∧ c ≠ 0 ∧ d ≠ 0 ∧
          scaled k g = scaled c e + 10 ^ l) := by
  unfold addAligned
  by_cases cZero : c = 0
  · subst cZero
    by_cases dZero : d = 0
    · subst dZero
      exact ⟨0, f, by simp [plus], le_refl f, .inl (by simp)⟩
    · have tPlus : t = false := Bool.eq_false_iff.mpr fun minus => dZero (right minus)
      subst tPlus
      exact ⟨d, f, by simp [dZero], le_refl f, .inl (by simp)⟩
  have sPlus : s = false := Bool.eq_false_iff.mpr fun minus => cZero (left minus)
  subst sPlus
  have low : negligible c e + 29 ≤ leading c e ∧ negligible c e < e := by
    unfold negligible leading precision
    omega
  by_cases dZero : d = 0
  · subst dZero
    simp only [cZero, false_and, if_false, if_true, Nat.pow_eq]
    have target : max f (negligible c e) ≤ e := by omega
    refine ⟨_, _, rfl, le_max_left _ _, .inl ?_⟩
    rw [← scaled_eq_of_le target, scaled_zero, add_zero]
  · have tPlus : t = false := Bool.eq_false_iff.mpr fun minus => dZero (right minus)
    subst tPlus
    have sum (n : Nat) (d : Nat) : ¬ signed false n + signed false d < 0 ∧
        (signed false n + signed false d).natAbs = n + d := by
      simp only [signed, Bool.false_eq_true, if_false]
      omega
    simp only [cZero, dZero, false_and, if_false, (sum _ _).1, (sum _ _).2, decide_false,
      Nat.pow_eq]
    by_cases small : leading d f < negligible c e
    · simp only [if_pos small]
      have dPositive := digitCount_pos d
      refine ⟨_, _, rfl, ?_, .inr ⟨_, small, low.1, low.2, cZero, dZero, ?_⟩⟩
      · unfold leading at small
        omega
      · rw [scaled_add, ← scaled_eq_of_le low.2.le, scaled_one]
    · simp only [if_neg small]
      refine ⟨_, _, rfl, le_refl f, .inl ?_⟩
      rw [scaled_add, ← scaled_eq_of_le aligned]

/-- The number with the greater exponent comes first. -/
theorem add_eq_addAligned {s t : Bool} {c d : Nat} {e f : Int} (aligned : f ≤ e) :
    (finite s c e).add (finite t d f) = addAligned s c e t d f := by
  simp only [add, diagnosed?, isSignaling, Bool.or_self, Bool.false_eq_true, if_false, aligned,
    if_true]

/-- The sum of a total and a number that is not negative and has the smaller exponent. -/
theorem add_eq_finish {t : Bool} {c d : Nat} {e f : Int} (aligned : f ≤ e)
    (nonneg : t = true → d = 0) :
    ∃ k g, (finite false c e).add (finite t d f) = finish false k g ∧ f ≤ g ∧
      (scaled k g = scaled c e + scaled d f ∨
        ∃ l, leading d f < l ∧ l + 29 ≤ leading c e ∧ l < e ∧ c ≠ 0 ∧ d ≠ 0 ∧
          scaled k g = scaled c e + 10 ^ l) := by
  rw [add_eq_addAligned aligned]
  exact addAligned_eq_finish aligned nofun nonneg rfl

/-! ## Totals -/

abbrev cent : Int := -2

/-- At this power of ten a total does not grow any more. -/
def plateau : Int := 60

/-- A total that additions of cents can lead to. -/
structure IsTotal (total : Decimal) : Prop where
  finite : ∃ c e, total = .finite false c e ∧ cent ≤ e ∧ scaled c e ≤ 10 ^ plateau

/-- An amount of whole cents that is not negative and fits into the precision. -/
structure IsCents (usd : Decimal) : Prop where
  finite : ∃ s c, usd = .finite s c cent ∧ c < 10 ^ precision ∧ (s = true → c = 0)

theorem isTotal_zero : IsTotal zero :=
  ⟨0, 0, rfl, by decide, by rw [scaled_zero]; positivity⟩

/-- Below the plateau and slightly beyond it results are rounded to the plateau at most. -/
theorem finish_le_plateau {k : Nat} {g : Int} (least : cent ≤ g)
    (le : scaled k g ≤ scaled (10 ^ 28 + 1) 32) :
    ∃ d, finish false k g = .ok d ∧ IsTotal d := by
  by_cases zero : k = 0
  · subst zero
    refine ⟨_, by rw [finish, if_pos rfl], _, _, rfl, ?_, by rw [scaled_zero]; positivity⟩
    simp only [cent, leastExponent, maxExponent] at *
    omega
  rcases finish_cases false zero g with ⟨c, e, q, ok, grown, -⟩ | ⟨-, above⟩
  · have rounded : finish false (10 ^ 28 + 1) 32 = .ok (.finite false (10 ^ 27) 33) := by
      decide +kernel
    refine ⟨_, ok, _, _, rfl, least.trans grown, ?_⟩
    refine (scaled_le_of_finish le ok rounded).trans (le_of_eq ?_)
    rw [scaled, plateau]
    norm_num
  · have small : scaled k g < 10 ^ (61 : Int) := by
      refine le.trans_lt ?_
      unfold scaled
      norm_num
    have top : (10 : ℚ) ^ (61 : Int) ≤ 10 ^ maxExponent :=
      zpow_le_zpow_right₀ (by norm_num) (by decide)
    exact absurd (above.trans_lt small) (top.trans pow_maxExponent_le_overflowBound).not_gt

/-- A total grows by cents without being refused, and stays a total. -/
theorem IsTotal.add {total usd : Decimal} (isTotal : IsTotal total) (isCents : IsCents usd) :
    ∃ sum, total.add usd = .ok sum ∧ IsTotal sum := by
  obtain ⟨c, e, rfl, least, bounded⟩ := isTotal.finite
  obtain ⟨t, d, rfl, short, nonneg⟩ := isCents.finite
  obtain ⟨k, g, eq, aligned, sum⟩ := add_eq_finish (c := c) least nonneg
  rw [eq]
  apply finish_le_plateau aligned
  have limit : scaled (10 ^ 28 + 1) 32 = 10 ^ plateau + 10 ^ (32 : Int) := by
    rw [scaled, plateau]
    norm_num
  rw [limit]
  rcases sum with sum | ⟨l, -, gap, -, cNonzero, -, sum⟩
  · have small : scaled d cent ≤ 10 ^ (32 : Int) := by
      refine (scaled_lt_pow short cent).le.trans ?_
      apply zpow_le_zpow_right₀ (by norm_num)
      decide
    linarith
  · have lead : leading c e < plateau + 1 := by
      refine leading_lt_of_scaled_lt cNonzero (bounded.trans_lt ?_)
      rw [plateau]
      norm_num
    have small : (10 : ℚ) ^ l ≤ 10 ^ (32 : Int) := by
      apply zpow_le_zpow_right₀ (by norm_num)
      unfold plateau at lead
      omega
    linarith

/-! ## Cents -/

/-- Cents are added to nothing. -/
theorem add_cents_zero {t : Bool} {d : Nat} {e : Int} (aligned : cent ≤ e)
    (nonneg : t = true → d = 0) (short : d < 10 ^ precision) :
    (finite false 0 e).add (finite t d cent) = .ok (finite false d cent) := by
  have fits : digitCount d ≤ precision := (digitCount_le_iff (by decide)).mpr short
  have finished := finish_of_fits false fits (e := cent) (by decide) (by decide)
  rw [add_eq_addAligned aligned, addAligned]
  by_cases dZero : d = 0
  · subst dZero
    exact finished
  · have plus : t = false := by
      cases t with
      | false => rfl
      | true => exact absurd (nonneg rfl) dZero
    rw [if_neg fun both => dZero both.2, if_pos rfl, plus, finished]

/-- Cents are added to cents, as long as the sum fits into the precision. -/
theorem add_cents {t : Bool} {c d : Nat} (nonneg : t = true → d = 0)
    (short : c + d < 10 ^ precision) :
    (finite false c cent).add (finite t d cent) = .ok (finite false (c + d) cent) := by
  by_cases cZero : c = 0
  · subst cZero
    rw [Nat.zero_add] at short ⊢
    exact add_cents_zero le_rfl nonneg short
  have fits : digitCount (c + d) ≤ precision := (digitCount_le_iff (by decide)).mpr short
  have finished := finish_of_fits false fits (e := cent) (by decide) (by decide)
  have low : negligible c cent < cent := by
    unfold negligible
    omega
  rw [add_eq_addAligned le_rfl, addAligned, if_neg fun both => cZero both.1, if_neg cZero, ← finished]
  by_cases dZero : d = 0
  · subst dZero
    simp only [if_true, max_eq_left low.le, sub_self, Int.toNat_zero, Nat.pow_eq, pow_zero,
      Nat.mul_one, Nat.add_zero]
  · have plus : t = false := by
      cases t with
      | false => rfl
      | true => exact absurd (nonneg rfl) dZero
    have seen : ¬ leading d cent < negligible c cent := by
      have := digitCount_pos d
      unfold leading
      omega
    simp only [plus, dZero, seen, if_false, signed, Bool.false_eq_true, sub_self, Int.toNat_zero,
      Nat.pow_eq, pow_zero, Nat.mul_one]
    rfl

/-- An amount below `10 ^ 26` is a number of cents that the precision holds. -/
theorem lt_of_scaled_cent_lt {c : Nat} (below : scaled c cent < 10 ^ (26 : Int)) :
    c < 10 ^ precision := by
  have cents : (c : ℚ) = scaled c cent * 10 ^ (2 : Int) := by
    rw [scaled, mul_assoc, ← zpow_add₀ (by norm_num), show cent + 2 = 0 from rfl, zpow_zero, mul_one]
  have short : (c : ℚ) < 10 ^ precision := by
    rw [cents, precision]
    calc scaled c cent * 10 ^ (2 : Int) < 10 ^ (26 : Int) * 10 ^ (2 : Int) := by gcongr
      _ = 10 ^ 28 := by norm_num
  exact_mod_cast short

/-! ## Many amounts -/

def sumFrom (total : Decimal) (amounts : List Decimal) : Except Signal Decimal :=
  amounts.foldlM add total

theorem sumFrom_cons {total sum : Decimal} (usd : Decimal) (amounts : List Decimal)
    (added : total.add usd = .ok sum) : sumFrom total (usd :: amounts) = sumFrom sum amounts := by
  simp only [sumFrom, List.foldlM_cons, added]
  rfl

theorem sumFrom_append {total sum : Decimal} {amounts : List Decimal} (more : List Decimal)
    (summed : sumFrom total amounts = .ok sum) :
    sumFrom total (amounts ++ more) = sumFrom sum more := by
  unfold sumFrom at *
  rw [List.foldlM_append, summed]
  rfl

theorem sumFrom_concat {total sum : Decimal} {amounts : List Decimal} (usd : Decimal)
    (summed : sumFrom total amounts = .ok sum) :
    sumFrom total (amounts ++ [usd]) = sum.add usd :=
  (sumFrom_append [usd] summed).trans (bind_pure (sum.add usd))

theorem IsCents.value_finite {s : Bool} {c : Nat} (isCents : IsCents (.finite s c cent)) :
    value (.finite s c cent) = scaled c cent := by
  obtain ⟨s', c', same, -, nonneg⟩ := isCents.finite
  cases same
  cases s with
  | false => rfl
  | true => rw [nonneg rfl, value_finite_true, scaled_zero, neg_zero]

theorem IsCents.value_eq {usd : Decimal} (isCents : IsCents usd) :
    ∃ s c, usd = .finite s c cent ∧ (s = true → c = 0) ∧ usd.value = scaled c cent := by
  obtain ⟨s, c, rfl, -, nonneg⟩ := isCents.finite
  exact ⟨s, c, rfl, nonneg, isCents.value_finite⟩

/-- Amounts of whole cents lie below `10 ^ 26`. -/
theorem IsCents.bounded {usd : Decimal} (isCents : IsCents usd) :
    usd.isFinite = true ∧ ∃ n : Nat, usd.value = n / 100 ∧ usd.value < 10 ^ 26 := by
  obtain ⟨s, c, rfl, short, -⟩ := isCents.finite
  have power : (10 : ℚ) ^ cent = 1 / 100 := by norm_num
  refine ⟨rfl, c, ?_, ?_⟩
  · rw [isCents.value_finite, scaled, power, mul_one_div]
  · rw [isCents.value_finite]
    exact_mod_cast scaled_lt_pow short cent

theorem sum_value_nonneg {amounts : List Decimal} (cents : ∀ usd ∈ amounts, IsCents usd) :
    0 ≤ (amounts.map value).sum := by
  apply List.sum_nonneg
  intro v inside
  obtain ⟨usd, inside', rfl⟩ := List.mem_map.mp inside
  obtain ⟨s, c, -, -, value⟩ := (cents usd inside').value_eq
  rw [value]
  exact scaled_nonneg c cent

/-- Amounts of cents are added to a total without being refused. -/
theorem IsTotal.sumFrom {total : Decimal} (isTotal : IsTotal total) {amounts : List Decimal}
    (cents : ∀ usd ∈ amounts, IsCents usd) :
    ∃ sum, total.sumFrom amounts = .ok sum ∧ IsTotal sum := by
  induction amounts generalizing total with
  | nil => exact ⟨total, rfl, isTotal⟩
  | cons usd amounts ih =>
    obtain ⟨sum, added, isTotal'⟩ := isTotal.add (cents usd (.head _))
    rw [sumFrom_cons usd amounts added]
    exact ih isTotal' fun usd' inside => cents usd' (.tail _ inside)

/-- Below `10 ^ 26` no cent is lost when amounts are added to cents. -/
theorem sumFrom_cents {c : Nat} {amounts : List Decimal} (cents : ∀ usd ∈ amounts, IsCents usd)
    (below : scaled c cent + (amounts.map value).sum < 10 ^ (26 : Int)) :
    ∃ k, (finite false c cent).sumFrom amounts = .ok (finite false k cent) ∧
      scaled k cent = scaled c cent + (amounts.map value).sum := by
  induction amounts generalizing c with
  | nil => exact ⟨c, rfl, by rw [List.map_nil, List.sum_nil, add_zero]⟩
  | cons usd amounts ih =>
    obtain ⟨s, d, rfl, nonneg, value⟩ := (cents usd (.head _)).value_eq
    have rest : ∀ usd ∈ amounts, IsCents usd := fun usd' inside => cents usd' (.tail _ inside)
    rw [List.map_cons, List.sum_cons, value, ← add_assoc, ← scaled_add] at below ⊢
    have short : c + d < 10 ^ precision :=
      lt_of_scaled_cent_lt ((le_add_of_nonneg_right (sum_value_nonneg rest)).trans_lt below)
    rw [sumFrom_cons _ amounts (add_cents nonneg short)]
    exact ih rest below

/-- Below `10 ^ 26` no cent is lost, in whatever order the amounts are added. -/
theorem sumFrom_zero {amounts : List Decimal} (cents : ∀ usd ∈ amounts, IsCents usd)
    (below : (amounts.map value).sum < 10 ^ (26 : Int)) :
    ∃ sum, zero.sumFrom amounts = .ok sum ∧ sum.value = (amounts.map value).sum ∧
      (sum = zero ∧ amounts = [] ∨ amounts ≠ [] ∧ ∃ k, sum = .finite false k cent) := by
  cases amounts with
  | nil => exact ⟨zero, rfl, scaled_zero 0, .inl ⟨rfl, rfl⟩⟩
  | cons usd amounts =>
    obtain ⟨s, d, rfl, nonneg, value⟩ := (cents usd (.head _)).value_eq
    have rest : ∀ usd ∈ amounts, IsCents usd := fun usd' inside => cents usd' (.tail _ inside)
    rw [List.map_cons, List.sum_cons, value] at below ⊢
    have short : d < 10 ^ precision :=
      lt_of_scaled_cent_lt ((le_add_of_nonneg_right (sum_value_nonneg rest)).trans_lt below)
    obtain ⟨k, summed, sum⟩ := sumFrom_cents rest below
    have added : zero.add (.finite s d cent) = .ok (.finite false d cent) :=
      add_cents_zero (by decide) nonneg short
    rw [sumFrom_cons _ amounts added]
    exact ⟨_, summed, sum, .inr ⟨List.cons_ne_nil _ _, k, rfl⟩⟩

/-- Below `10 ^ 26` the order of the amounts is of no concern. -/
theorem sumFrom_perm {amounts amounts' : List Decimal} (perm : amounts.Perm amounts')
    (cents : ∀ usd ∈ amounts, IsCents usd) (below : (amounts.map value).sum < 10 ^ (26 : Int)) :
    zero.sumFrom amounts' = zero.sumFrom amounts := by
  have same := (perm.map value).sum_eq
  have cents' : ∀ usd ∈ amounts', IsCents usd := fun usd inside => cents usd (perm.mem_iff.mpr inside)
  obtain ⟨sum, summed, total, form⟩ := sumFrom_zero cents below
  obtain ⟨sum', summed', total', form'⟩ := sumFrom_zero cents' (same ▸ below)
  rw [summed, summed']
  rcases form with ⟨rfl, rfl⟩ | ⟨some, k, rfl⟩
  · rcases form' with ⟨rfl, -⟩ | ⟨some', -⟩
    · rfl
    · exact absurd perm.nil_eq.symm some'
  · rcases form' with ⟨-, rfl⟩ | ⟨-, k', rfl⟩
    · exact absurd perm.eq_nil some
    · rw [value_finite_false] at total total'
      rw [eq_of_scaled_eq (total'.trans (same.symm.trans total.symm))]

/-! ## Totals that lose no cent -/

/-- Below `10 ^ 26` no cent is lost when an amount is added to a total, however that came about. -/
theorem IsTotal.add_exact {total usd : Decimal} (isTotal : IsTotal total) (isCents : IsCents usd)
    (below : total.value + usd.value < 10 ^ (26 : Int)) :
    ∃ sum, total.add usd = .ok sum ∧ IsTotal sum ∧ sum.value = total.value + usd.value := by
  obtain ⟨sum, added, isTotal'⟩ := isTotal.add isCents
  refine ⟨sum, added, isTotal', ?_⟩
  obtain ⟨c, e, rfl, least, -⟩ := isTotal.finite
  obtain ⟨t, d, rfl, nonneg, value⟩ := isCents.value_eq
  obtain ⟨k, g, eq, aligned, exact⟩ := add_eq_finish (c := c) least nonneg
  rw [eq] at added
  rw [value_finite_false, value] at below ⊢
  -- beside a total below `10 ^ 26` no cent is negligible
  replace exact : scaled k g = scaled c e + scaled d cent := by
    rcases exact with exact | ⟨l, small, gap, -, cNonzero, -, -⟩
    · exact exact
    · have lead := leading_lt_of_scaled_lt cNonzero
        ((le_add_of_nonneg_right (scaled_nonneg d cent)).trans_lt below)
      have := digitCount_pos d
      simp only [leading, cent] at small
      omega
  rw [← exact] at below ⊢
  by_cases zero : k = 0
  · subst zero
    rw [finish, if_pos rfl] at added
    cases added
    rw [value_finite_false, scaled_zero, scaled_zero]
  · have lead := leading_lt_of_scaled_lt zero below
    have fits : digitCount k ≤ precision := by
      simp only [leading, cent, precision] at *
      omega
    have top : g ≤ topExponent := by
      have := digitCount_pos k
      simp only [leading, topExponent] at *
      omega
    rw [finish_of_fits false fits ((by decide : leastExponent ≤ cent).trans aligned) top] at added
    cases added
    rfl

theorem IsTotal.sumFrom_exact {total : Decimal} (isTotal : IsTotal total) {amounts : List Decimal}
    (cents : ∀ usd ∈ amounts, IsCents usd)
    (below : total.value + (amounts.map value).sum < 10 ^ (26 : Int)) :
    ∃ sum, total.sumFrom amounts = .ok sum ∧ sum.value = total.value + (amounts.map value).sum := by
  induction amounts generalizing total with
  | nil => exact ⟨total, rfl, by rw [List.map_nil, List.sum_nil, add_zero]⟩
  | cons usd amounts ih =>
    have rest : ∀ usd ∈ amounts, IsCents usd := fun usd' inside => cents usd' (.tail _ inside)
    rw [List.map_cons, List.sum_cons, ← add_assoc] at below ⊢
    obtain ⟨sum, added, isTotal', value⟩ := isTotal.add_exact (cents usd (.head _))
      ((le_add_of_nonneg_right (sum_value_nonneg rest)).trans_lt below)
    rw [← value] at below ⊢
    rw [sumFrom_cons usd amounts added]
    exact ih isTotal' rest below

end Decimal

end Paywatch
