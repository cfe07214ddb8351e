/-!
# Rounding of quotients

A quotient of natural numbers becomes a whole number in one of three ways:
toward zero, away from zero, or to the nearest with ties to the even neighbour.
-/

namespace Paywatch

/-- What becomes of the part of a quotient that is not whole. -/
inductive Rounding where
  | down
  | up
  | halfEven
  deriving DecidableEq, Repr

namespace Rounding

def quotient (mode : Rounding) (n d : Nat) : Nat :=
  let whole := n / d
  let rest := n % d
  match mode with
  | .down => whole
  | .up => if rest = 0 then whole else whole + 1
  | .halfEven =>
    if 2 * rest < d then whole
    else if d < 2 * rest then whole + 1
    else if whole % 2 = 0 then whole else whole + 1

end Rounding

end Paywatch
