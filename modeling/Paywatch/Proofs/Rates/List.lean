import Paywatch.Rates.Source

/-!
# Lists of rates

What a list of rates knows, and how one list may know less than another one.
-/

namespace Paywatch

namespace RateList

theorem rateAt_eq_ok {list : RateList} {height : Int} {rate : Decimal} :
    list.rateAt height = .ok rate ↔
      list.failure = none ∧ list.entries.lookup height = some rate := by
  unfold RateList.rateAt
  cases list.failure with
  | some failure => exact ⟨fun rated => (by cases rated), fun both => (by cases both.1)⟩
  | none =>
    cases list.entries.lookup height with
    | none => exact ⟨fun rated => (by cases rated), fun both => (by cases both.2)⟩
    | some other =>
      rw [Except.ok.injEq, Option.some.injEq]
      exact ⟨fun same => ⟨rfl, same⟩, fun both => both.2⟩

/-- A rate that is recorded is known, and so is any rate of another height that was. -/
theorem rateAt_record {list : RateList} {height height' : Int} {rate rate' : Decimal} :
    (list.record height rate).rateAt height' = .ok rate' ↔
      height' = height ∧ rate' = rate ∧ list.failure = none ∨
        height' ≠ height ∧ list.rateAt height' = .ok rate' := by
  rw [rateAt_eq_ok, rateAt_eq_ok, RateList.record, List.lookup_cons]
  by_cases here : height' = height
  · simp only [here, beq_self_eq_true, Option.some.injEq, ne_eq, not_true_eq_false, false_and,
      or_false, true_and, eq_comm (a := rate), and_comm]
  · simp only [here, beq_false_of_ne here, ne_eq, not_false_eq_true, true_and, false_and, false_or]

/-- No rate that the list knows is below zero. -/
def NonNegative (list : RateList) : Prop :=
  ∀ height rate, list.rateAt height = .ok rate → ∃ c e, rate = .finite false c e

/-- The second list knows no rates but those of the first one, none of which is below zero. -/
structure Includes (early late : RateList) : Prop where
  known : ∀ height rate, late.rateAt height = .ok rate → early.rateAt height = .ok rate
  positive : ∀ height rate, early.rateAt height = .ok rate → ∃ c e, rate = .finite false c e

end RateList

end Paywatch
