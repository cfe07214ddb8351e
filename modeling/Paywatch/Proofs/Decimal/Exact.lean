import Paywatch.Decimal.Arithmetic
import Paywatch.Proofs.Decimal.Range

/-!
# Results that can be represented

A result that has a representation of at most `precision` digits is not changed by
rounding.  The exceptions lie so close to zero that the least exponent takes their
digits away; such a result may change, but it stays as close to zero.
-/

namespace Paywatch

namespace Decimal

/-- A magnitude of at most `precision` digits, at whatever power of ten. -/
def Representable (x : ℚ) : Prop :=
  ∃ m g, m < 10 ^ precision ∧ x = scaled m g

/-- Above this power of ten the least exponent takes no digits away. -/
def tiny : Int := leastExponent + precision

/-- A magnitude is kept, or it is tiny before and after. -/
def Kept (x y : ℚ) : Prop :=
  x = y ∨ x ≤ 10 ^ tiny ∧ y ≤ 10 ^ tiny

theorem Representable.div_pow {x : ℚ} (representable : Representable x) (places : Nat) :
    Representable (x / 10 ^ places) := by
  obtain ⟨m, g, short, rfl⟩ := representable
  refine ⟨m, g - places, short, ?_⟩
  rw [scaled, scaled, zpow_sub₀ (by norm_num), zpow_natCast, mul_div_assoc]

/-! ## Bringing into range -/

theorem finish_tiny {s : Bool} {c : Nat} {e : Int} {d : Decimal} (ok : finish s c e = .ok d)
    (le : scaled c e ≤ 10 ^ tiny) : ∃ k f, d = .finite s k f ∧ scaled k f ≤ 10 ^ tiny := by
  obtain ⟨k, f, rfl, -⟩ := finish_inRange ok
  have kept : finish s 1 tiny = .ok (.finite s 1 tiny) :=
    finish_of_inRange s ⟨by decide +kernel, by decide, by decide +kernel⟩
  rw [← scaled_one tiny] at le ⊢
  exact ⟨k, f, rfl, scaled_le_of_finish le ok kept⟩

theorem finish_kept {s : Bool} {c : Nat} {e : Int} {d : Decimal} (ok : finish s c e = .ok d)
    (representable : Representable (scaled c e)) :
    ∃ k f, d = .finite s k f ∧ Kept (scaled c e) (scaled k f) := by
  obtain ⟨m, g, short, same⟩ := representable
  by_cases low : g < leastExponent
  · have le : scaled c e ≤ 10 ^ tiny := by
      rw [same]
      refine (scaled_lt_pow short g).le.trans ?_
      apply zpow_le_zpow_right₀ (by norm_num)
      unfold tiny
      omega
    obtain ⟨k, f, rfl, le'⟩ := finish_tiny ok le
    exact ⟨k, f, rfl, .inr ⟨le, le'⟩⟩
  · by_cases zero : c = 0
    · subst zero
      rw [finish, if_pos rfl] at ok
      cases ok
      exact ⟨_, _, rfl, .inl (by rw [scaled_zero, scaled_zero])⟩
    · rcases finish_cases s zero e with ⟨k, f, q, kept, -, -, nearest, eq⟩ | ⟨refused, -⟩
      · rw [kept] at ok
        cases ok
        refine ⟨k, f, rfl, .inl ?_⟩
        have lead := leading_le_leading zero same.le
        have digits := (digitCount_le_iff (by decide)).mpr short
        have grid : unit c e ≤ g := by
          unfold unit leading at *
          omega
        rw [eq, same]
        exact (scaled_eq_of_isNearest nearest grid same).symm
      · rw [refused] at ok
        cases ok

theorem mul_finite (s : Bool) (c : Nat) (e : Int) (t : Bool) (d : Nat) (f : Int) :
    (finite s c e).mul (finite t d f) = finish (s ^^ t) (c * d) (e + f) := rfl

/-! ## Moving the point -/

theorem stripZeros_eq (limit n : Nat) :
    (stripZeros limit n).1 * 10 ^ (stripZeros limit n).2 = n := by
  induction limit generalizing n with
  | zero => exact Nat.mul_one n
  | succ limit ih =>
    unfold stripZeros
    split
    · rename_i even
      have rest := ih (n / 10)
      rw [pow_succ, ← mul_assoc, rest]
      omega
    · exact Nat.mul_one n

/-- The exact quotient, before it is brought into range. -/
theorem scaled_stripZeros (places c : Nat) (e : Int) :
    scaled (stripZeros places c).1 (e - places + (stripZeros places c).2) =
      scaled c e / 10 ^ places := by
  rw [← scaled_mul_pow, stripZeros_eq, scaled, scaled, zpow_sub₀ (by norm_num), zpow_natCast,
    mul_div_assoc]

/-- A quotient below the bound is not refused. -/
theorem exists_shiftRight (s : Bool) {places c : Nat} {e : Int}
    (below : scaled c e / 10 ^ places < overflowBound) :
    ∃ k f, (finite s c e).shiftRight places = .ok (.finite s k f) ∧ InRange k f := by
  rw [← scaled_stripZeros] at below
  exact exists_finish s below

/-- The greater number has the greater quotient, and below one that is not refused none is. -/
theorem shiftRight_mono {places : Nat} {s t : Bool} {c d l : Nat} {e f h : Int}
    (le : scaled c e ≤ scaled d f)
    (ok : (finite t d f).shiftRight places = .ok (.finite t l h)) :
    ∃ k g, (finite s c e).shiftRight places = .ok (.finite s k g) ∧ scaled k g ≤ scaled l h := by
  refine finish_mono ?_ ok
  rw [scaled_stripZeros, scaled_stripZeros]
  exact div_le_div_of_nonneg_right le (by positivity)

theorem shiftRight_kept {places : Nat} {s : Bool} {c : Nat} {e : Int} {d : Decimal} {x : ℚ}
    (ok : (finite s c e).shiftRight places = .ok d) (representable : Representable x)
    (kept : Kept x (scaled c e)) : ∃ k f, d = .finite s k f ∧ Kept (x / 10 ^ places) (scaled k f) := by
  have smaller {y : ℚ} (le : y ≤ 10 ^ tiny) : y / 10 ^ places ≤ 10 ^ tiny := by
    have positive : (0 : ℚ) < 10 ^ tiny := by positivity
    have one : (1 : ℚ) ≤ 10 ^ places := one_le_pow₀ (by norm_num)
    rw [div_le_iff₀ (by positivity)]
    nlinarith
  rcases kept with rfl | ⟨le, le'⟩
  · rw [← scaled_stripZeros]
    apply finish_kept ok
    rw [scaled_stripZeros]
    exact representable.div_pow places
  · obtain ⟨k, f, rfl, small⟩ := finish_tiny ok (by rw [scaled_stripZeros]; exact smaller le')
    exact ⟨k, f, rfl, .inr ⟨smaller le, small⟩⟩

end Decimal

end Paywatch
