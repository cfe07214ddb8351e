import Paywatch.Proofs.Decimal.Nearest

/-!
# The range of results

Bringing a number into range gives a result of at most `precision` digits, and a
number that is one already stays as it is.  A result is refused exactly from
`overflowBound` on, and of two numbers that are not refused the greater one has
the greater result, whatever their representations.
-/

namespace Paywatch

namespace Decimal

theorem inRange_zero {e : Int} (least : leastExponent ≤ e) (top : e ≤ maxExponent) :
    InRange 0 e := by
  have one : digitCount 0 = 1 := by decide +kernel
  refine ⟨by rw [one]; decide, least, ?_⟩
  rw [leading, one]
  omega

/-- A zero stays a zero. -/
theorem finish_zero (s : Bool) (e : Int) :
    ∃ f, finish s 0 e = .ok (.finite s 0 f) ∧ InRange 0 f := by
  refine ⟨_, by rw [finish, if_pos rfl], inRange_zero ?_ ?_⟩
  · simp only [leastExponent, maxExponent]
    omega
  · exact min_le_right _ _

/-- What is brought into range is finite and keeps its sign. -/
theorem finish_inRange {s : Bool} {c : Nat} {e : Int} {d : Decimal} (ok : finish s c e = .ok d) :
    ∃ k f, d = .finite s k f ∧ InRange k f := by
  by_cases zero : c = 0
  · subst zero
    obtain ⟨f, kept, inRange⟩ := finish_zero s e
    rw [kept] at ok
    cases ok
    exact ⟨0, f, rfl, inRange⟩
  · rcases finish_cases s zero e with ⟨k, f, q, kept, -, inRange, -⟩ | ⟨refused, -⟩
    · rw [kept] at ok
      cases ok
      exact ⟨k, f, rfl, inRange⟩
    · rw [refused] at ok
      cases ok

/-- What is in range stays as it is. -/
theorem finish_of_inRange (s : Bool) {c : Nat} {e : Int} (inRange : InRange c e) :
    finish s c e = .ok (.finite s c e) := by
  obtain ⟨digits, least, top⟩ := inRange
  unfold finish
  split
  · rename_i zero
    subst zero
    have one : digitCount 0 = 1 := by decide +kernel
    rw [leading, one] at top
    congr 2
    omega
  · have fits : ¬ topExponent < e + digitCount c - precision := by
      simp only [leading, topExponent, precision, maxExponent] at *
      omega
    have kept : ¬ e < max (e + digitCount c - precision) leastExponent := by omega
    simp only [if_neg fits, if_neg kept]

/-! ## Overflow -/

theorem overflowBound_pos : 0 < overflowBound :=
  scaled_pos (by decide) _

/-- No number below the greatest power that a leading digit may have reaches the bound. -/
theorem pow_maxExponent_le_overflowBound : (10 : ℚ) ^ maxExponent ≤ overflowBound := by
  have lead : leading (10 ^ 29 - 5) (topExponent - 1) = maxExponent := by decide +kernel
  rw [← lead, overflowBound]
  exact pow_leading_le (by decide) _

/-- The bound is itself rounded beyond the greatest result. -/
theorem isNearest_overflowBound :
    unit (10 ^ 29 - 5) (topExponent - 1) = topExponent ∧
    IsNearest (overflowBound / 10 ^ topExponent) (10 ^ precision) := by
  have rounded : dropDigits .halfEven (10 ^ 29 - 5) (topExponent - (topExponent - 1)).toNat =
      10 ^ precision := by
    decide +kernel
  refine ⟨by decide +kernel, ?_⟩
  rw [← rounded]
  exact isNearest_dropDigits (by omega)

theorem InRange.scaled_lt {c : Nat} {e : Int} (inRange : InRange c e) :
    scaled c e < 10 ^ (maxExponent + 1) := by
  refine (scaled_lt_pow_leading c e).trans_le (zpow_le_zpow_right₀ (by norm_num) ?_)
  have := inRange.top
  omega

/-- A result is refused exactly from the bound on. -/
theorem finish_eq_overflow_iff (s : Bool) (c : Nat) (e : Int) :
    finish s c e = .error .overflow ↔ overflowBound ≤ scaled c e := by
  by_cases zero : c = 0
  · subst zero
    obtain ⟨f, kept, -⟩ := finish_zero s e
    rw [kept, scaled_zero]
    simp [overflowBound_pos]
  rcases finish_cases s zero e with ⟨k, f, q, kept, -, inRange, nearest, eq⟩ | ⟨refused, beyond⟩
  · rw [kept]
    refine ⟨nofun, fun beyond => ?_⟩
    obtain ⟨top, atBound⟩ := isNearest_overflowBound
    rw [← top, overflowBound] at atBound
    have rounded := scaled_unit_le (by decide) beyond atBound nearest
    rw [top, ← eq, scaled] at rounded
    have power : ((10 ^ precision : Nat) : ℚ) * 10 ^ topExponent = 10 ^ (maxExponent + 1) := by
      push_cast
      rw [← zpow_natCast, ← zpow_add₀ (by norm_num)]
      rfl
    rw [power] at rounded
    exact absurd inRange.scaled_lt rounded.not_gt
  · simp only [refused, true_iff]
    exact beyond

/-- Nothing below the bound is refused. -/
theorem exists_finish (s : Bool) {c : Nat} {e : Int} (below : scaled c e < overflowBound) :
    ∃ k f, finish s c e = .ok (.finite s k f) ∧ InRange k f := by
  cases finished : finish s c e with
  | ok d =>
    obtain ⟨k, f, rfl, inRange⟩ := finish_inRange finished
    exact ⟨k, f, rfl, inRange⟩
  | error signal =>
    exfalso
    by_cases zero : c = 0
    · subst zero
      obtain ⟨f, kept, -⟩ := finish_zero s e
      rw [kept] at finished
      cases finished
    · rcases finish_cases s zero e with ⟨k, f, q, kept, -⟩ | ⟨-, beyond⟩
      · rw [kept] at finished
        cases finished
      · exact beyond.not_gt below

/-! ## Order -/

/-- The greater of two numbers has the greater result. -/
theorem scaled_le_of_finish {s t : Bool} {c d k l : Nat} {e f g h : Int}
    (le : scaled c e ≤ scaled d f) (left : finish s c e = .ok (.finite s k g))
    (right : finish t d f = .ok (.finite t l h)) : scaled k g ≤ scaled l h := by
  by_cases zero : c = 0
  · subst zero
    obtain ⟨f', kept, -⟩ := finish_zero s e
    rw [kept] at left
    cases left
    rw [scaled_zero]
    exact scaled_nonneg l h
  have nonzero : d ≠ 0 := by
    rintro rfl
    rw [scaled_zero] at le
    exact absurd le (scaled_pos zero e).not_ge
  rcases finish_cases s zero e with ⟨k', g', q, kept, -, -, nearest, eq⟩ | ⟨refused, -⟩
  · rw [kept] at left
    cases left
    rcases finish_cases t nonzero f with ⟨l', h', r, kept', -, -, nearest', eq'⟩ | ⟨refused, -⟩
    · rw [kept'] at right
      cases right
      rw [eq, eq']
      exact scaled_unit_le zero le nearest nearest'
    · rw [refused] at right
      cases right
  · rw [refused] at left
    cases left

/-- Below a number that is not refused none is. -/
theorem finish_mono {s t : Bool} {c d l : Nat} {e f h : Int} (le : scaled c e ≤ scaled d f)
    (ok : finish t d f = .ok (.finite t l h)) :
    ∃ k g, finish s c e = .ok (.finite s k g) ∧ scaled k g ≤ scaled l h := by
  have below : scaled c e < overflowBound := by
    refine le.trans_lt (lt_of_not_ge fun beyond => ?_)
    rw [(finish_eq_overflow_iff t d f).mpr beyond] at ok
    cases ok
  obtain ⟨k, g, kept, -⟩ := exists_finish s below
  exact ⟨k, g, kept, scaled_le_of_finish le kept ok⟩

end Decimal

end Paywatch
