import Paywatch.Decimal.Rounding

/-!
# Decimal arithmetic

Products, sums and the division by a power of ten.  Each computes its exact
result and rounds it once.  A signaling diagnostic is refused; a quiet one is
handed on, the left operand's first.
-/

namespace Paywatch

namespace Decimal

/-- The diagnostic that two operands hand on, if one of them is a diagnostic. -/
def diagnosed? (a b : Decimal) : Option (Except Signal Decimal) :=
  if a.isSignaling || b.isSignaling then some (.error .invalidOperation)
  else match a, b with
    | .nan negative _ payload, _ => some (.ok (quiet negative payload))
    | _, .nan negative _ payload => some (.ok (quiet negative payload))
    | _, _ => none

def isZero : Decimal → Bool
  | .finite _ coefficient _ => coefficient == 0
  | _ => false

def sign : Decimal → Bool
  | .finite negative .. => negative
  | .infinite negative => negative
  | .nan negative .. => negative

/-- The product, rounded once; an infinity times zero has none. -/
def mul (a b : Decimal) : Except Signal Decimal :=
  match diagnosed? a b with
  | some result => result
  | none =>
    match a, b with
    | .finite s c e, .finite t d f => finish (s ^^ t) (c * d) (e + f)
    | a, b =>
      if a.isZero || b.isZero then .error .invalidOperation
      else .ok (.infinite (a.sign ^^ b.sign))

/-- Strip at most `limit` trailing zeros; also how many were stripped. -/
def stripZeros : Nat → Nat → Nat × Nat
  | 0, n => (n, 0)
  | limit + 1, n =>
    if n % 10 = 0 then
      let (rest, count) := stripZeros limit (n / 10)
      (rest, count + 1)
    else (n, 0)

/--
The quotient by `10 ^ places`.  The point moves, and the exponent grows back
toward what it was as far as trailing zeros allow.
-/
def shiftRight (places : Nat) : Decimal → Except Signal Decimal
  | .nan _ true _ => .error .invalidOperation
  | .nan negative false payload => .ok (quiet negative payload)
  | .infinite negative => .ok (.infinite negative)
  | .finite negative coefficient exponent =>
    let (kept, stripped) := stripZeros places coefficient
    finish negative kept (exponent - places + stripped)

/-! ## Sums -/

/--
The exponent below which an addend no longer matters beside `coefficient` at
`exponent`, apart from whether it is there at all.
-/
def negligible (coefficient : Nat) (exponent : Int) : Int :=
  exponent + min (-1) ((digitCount coefficient : Int) - precision - 2)

/-- The sum of two finite numbers of which the first has the greater exponent. -/
def addAligned (s : Bool) (c : Nat) (e : Int) (t : Bool) (d : Nat) (f : Int) :
    Except Signal Decimal :=
  if c = 0 ∧ d = 0 then finish (s && t) 0 f
  else if c = 0 then finish t d f
  else
    let low := negligible c e
    if d = 0 then
      let target := max f low
      finish s (c * Nat.pow 10 (e - target).toNat) target
    else
      let (d, f) := if leading d f < low then (1, low) else (d, f)
      let sum := signed s (c * Nat.pow 10 (e - f).toNat) + signed t d
      finish (decide (sum < 0)) sum.natAbs f

/-- The sum, rounded once; opposite infinities have none. -/
def add (a b : Decimal) : Except Signal Decimal :=
  match diagnosed? a b with
  | some result => result
  | none =>
    match a, b with
    | .finite s c e, .finite t d f =>
      if f ≤ e then addAligned s c e t d f else addAligned t d f s c e
    | .infinite s, .infinite t => if s = t then .ok (.infinite s) else .error .invalidOperation
    | .infinite s, _ => .ok (.infinite s)
    | _, b => .ok b

/-- The least whole number that is not nearer to zero, if it fits into the precision. -/
def roundUpWhole (a : Decimal) : Except Signal Int :=
  match a.quantize .up 0 with
  | .ok (.finite negative coefficient _) => .ok (signed negative coefficient)
  | .ok _ => .error .invalidOperation
  | .error signal => .error signal

end Decimal

end Paywatch
