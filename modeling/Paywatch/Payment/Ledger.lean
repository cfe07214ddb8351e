import Paywatch.Decimal.Arithmetic
import Paywatch.Run

/-!
# The ledger of contributions

The ledger knows which outputs have been credited and what they add up to.  A
credit below zero and a second credit of one output are refused.
-/

namespace Paywatch

/-- The credited outputs, the oldest first, and their sum. -/
structure Ledger where
  processed : List Outpoint := []
  total : Decimal := Decimal.zero
  deriving DecidableEq, Repr

namespace Ledger

def contains (ledger : Ledger) (output : Outpoint) : Bool :=
  ledger.processed.contains output

def count (ledger : Ledger) : Nat :=
  ledger.processed.length

/-- Credit an output, which counts as credited before the sum is formed; the new total. -/
def commit (output : Outpoint) (usd : Decimal) : Run Ledger Decimal := do
  if ← .ofExcept (ofArithmetic usd.isNegative) then
    throw (.negativeCredit usd output)
  if (← get).contains output then
    throw (.duplicateCredit output)
  modify fun ledger => { ledger with processed := ledger.processed ++ [output] }
  let total ← .ofExcept (ofArithmetic ((← get).total.add usd))
  modify fun ledger => { ledger with total := total }
  return total

/-- The total rounded up to the whole dollar. -/
def raisedUsd (ledger : Ledger) : Except Decimal.Signal Int :=
  ledger.total.roundUpWhole

end Ledger

end Paywatch
