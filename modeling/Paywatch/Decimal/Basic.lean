/-!
# Decimal numbers

A decimal is a sign, a whole coefficient and a power of ten, so that `2.50` and
`2.5` are different representations of one value.  Beside the finite numbers
stand the two infinities and the diagnostics, which are quiet or signaling and
may carry a whole payload.

Arithmetic is bounded: a result keeps at most `precision` digits, and its
leading digit stands at or below the power of ten `maxExponent`.
-/

namespace Paywatch

/-- A decimal number in one representation, an infinity or a diagnostic. -/
inductive Decimal where
  | finite (negative : Bool) (coefficient : Nat) (exponent : Int)
  | infinite (negative : Bool)
  | nan (negative : Bool) (signaling : Bool) (payload : Nat)
  deriving DecidableEq, Repr, Inhabited

namespace Decimal

/-- The ways in which decimal arithmetic refuses to give a result. -/
inductive Signal where
  | invalidOperation
  | divisionByZero
  | overflow
  deriving DecidableEq, Repr

/-- The number of digits that a result may have. -/
def precision : Nat := 28

/-- The greatest power of ten at which a leading digit may stand. -/
def maxExponent : Int := 999999

def leastExponent : Int := -1000026

def topExponent : Int := 999972

def ofInt (n : Int) : Decimal :=
  .finite (decide (n < 0)) n.natAbs 0

def zero : Decimal :=
  .finite false 0 0

/-- The number of decimal digits; zero has one. -/
def digitCount (n : Nat) : Nat :=
  if n < 10 then 1 else digitCount (n / 10) + 1
termination_by n

/-- The position of the leading digit of a finite number. -/
def leading (coefficient : Nat) (exponent : Int) : Int :=
  exponent + digitCount coefficient - 1

def signed (negative : Bool) (magnitude : Nat) : Int :=
  if negative then -magnitude else magnitude

def isSignaling : Decimal → Bool
  | .nan _ signaling _ => signaling
  | _ => false

/-! ## Order -/

/-- Below zero; a zero of either sign is not. Diagnostics have no order. -/
def isNegative : Decimal → Except Signal Bool
  | .finite negative coefficient _ => .ok (negative && coefficient != 0)
  | .infinite negative => .ok negative
  | .nan .. => .error .invalidOperation

/-- Above zero; a zero of either sign is not. Diagnostics have no order. -/
def isPositive : Decimal → Except Signal Bool
  | .finite negative coefficient _ => .ok (!negative && coefficient != 0)
  | .infinite negative => .ok !negative
  | .nan .. => .error .invalidOperation

end Decimal

end Paywatch
