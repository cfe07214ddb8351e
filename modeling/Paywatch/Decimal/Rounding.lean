import Paywatch.Decimal.Basic
import Paywatch.Rounding

/-!
# Rounding of decimals

Digits are dropped from the right of a coefficient in one of three ways: toward
zero, away from zero, or to the nearest with ties to the even neighbour.
`finish` brings an exact result into range with the last of them; `quantize`
gives a number a chosen exponent and refuses where the precision is too short.
-/

namespace Paywatch

namespace Decimal

/--
Drop the last `places` digits.  When more places than digits are dropped what is
left is below a tenth, so that only rounding up leaves anything.
-/
def dropDigits (mode : Rounding) (coefficient places : Nat) : Nat :=
  if digitCount coefficient < places then
    if mode = .up ∧ coefficient ≠ 0 then 1 else 0
  else
    mode.quotient coefficient (Nat.pow 10 places)

/-- The same value with the given exponent, rounded where digits are lost. -/
def rescale (mode : Rounding) (coefficient : Nat) (exponent target : Int) : Nat :=
  if target ≤ exponent then coefficient * Nat.pow 10 (exponent - target).toNat
  else dropDigits mode coefficient (target - exponent).toNat

/-- An exact result brought into range: at most `precision` digits, ties to even. -/
def finish (negative : Bool) (coefficient : Nat) (exponent : Int) : Except Signal Decimal :=
  if coefficient = 0 then
    .ok (.finite negative 0 (min (max exponent leastExponent) maxExponent))
  else
    let low := exponent + digitCount coefficient - precision
    if topExponent < low then .error .overflow
    else
      let low := max low leastExponent
      if exponent < low then
        let kept := dropDigits .halfEven coefficient (low - exponent).toNat
        let (kept, low) := if precision < digitCount kept then (kept / 10, low + 1) else (kept, low)
        if topExponent < low then .error .overflow else .ok (.finite negative kept low)
      else .ok (.finite negative coefficient exponent)

def quiet (negative : Bool) (payload : Nat) : Decimal :=
  .nan negative false (payload % Nat.pow 10 precision)

/-- The number with the exponent `target`, which has to fit into the precision. -/
def quantize (mode : Rounding) (target : Int) : Decimal → Except Signal Decimal
  | .nan _ true _ => .error .invalidOperation
  | .nan negative false payload => .ok (quiet negative payload)
  | .infinite _ => .error .invalidOperation
  | .finite negative coefficient exponent =>
    if coefficient = 0 then finish negative 0 target
    else if (precision : Int) < leading coefficient exponent - target + 1 then
      .error .invalidOperation
    else
      let scaled := rescale mode coefficient exponent target
      if precision < digitCount scaled then .error .invalidOperation
      else finish negative scaled target

end Decimal

end Paywatch
