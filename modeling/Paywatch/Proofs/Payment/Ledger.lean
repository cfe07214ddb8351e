import Paywatch.Payment.Ledger
import Paywatch.Proofs.Run

/-!
# Entering credits

An amount that is not below zero enters the output of its credit, and then the
sum is formed.  Any other amount, and a second credit of an output, is refused
before anything changes.
-/

namespace Paywatch

namespace Ledger

variable {ledger : Ledger} {output : Outpoint} {usd : Decimal}

/-- A new output is entered before the sum is formed. -/
theorem commit_new (nonneg : usd.isNegative = .ok false) (new : ledger.contains output = false) :
    Run.outcome (commit output usd) ledger = ofArithmetic (ledger.total.add usd) ∧
    (∀ sum, ledger.total.add usd = .ok sum →
      Run.after (commit output usd) ledger = ⟨ledger.processed ++ [output], sum⟩) ∧
    (∀ signal, ledger.total.add usd = .error signal →
      Run.after (commit output usd) ledger = ⟨ledger.processed ++ [output], ledger.total⟩) := by
  cases added : ledger.total.add usd with
  | error signal => simp [commit, nonneg, new, added, ofArithmetic]
  | ok sum => simp [commit, nonneg, new, added, ofArithmetic]

/-- What is below zero, is no number, or comes for a credited output changes nothing. -/
theorem commit_refused (refused : usd.isNegative ≠ .ok false ∨ ledger.contains output = true) :
    ∃ failure, Run.outcome (commit output usd) ledger = .error failure ∧
      Run.after (commit output usd) ledger = ledger := by
  cases negative : usd.isNegative with
  | error signal =>
    exact ⟨.arithmetic signal, by simp [commit, negative, ofArithmetic],
      by simp [commit, negative, ofArithmetic]⟩
  | ok below =>
    cases below with
    | true =>
      exact ⟨.negativeCredit usd output, by simp [commit, negative, ofArithmetic],
        by simp [commit, negative, ofArithmetic]⟩
    | false =>
      have known : ledger.contains output = true := by simpa [negative] using refused
      exact ⟨.duplicateCredit output, by simp [commit, negative, known, ofArithmetic],
        by simp [commit, negative, known, ofArithmetic]⟩

end Ledger

end Paywatch
