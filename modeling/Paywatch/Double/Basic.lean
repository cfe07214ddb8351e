import Paywatch.Rounding

/-!
# Double precision numbers

Delays, time limits and times of arrival are binary numbers of 53 digits.  A
finite one is a whole mantissa times a power of two; beside these stand the two
infinities and the value that is not a number, which no comparison holds of.
-/

namespace Paywatch

/-- A binary floating point number of double precision. -/
inductive Double where
  | nan
  | infinite (negative : Bool)
  | finite (negative : Bool) (mantissa : Nat) (exponent : Int)
  deriving DecidableEq, Repr, Inhabited

namespace Double

/-- The number of binary digits of a mantissa. -/
def precision : Nat := 53

/-- The least exponent; there the mantissa may have fewer digits. -/
def leastExponent : Int := -1074

def greatestExponent : Int := 971

def zero (negative : Bool) : Double :=
  .finite negative 0 leastExponent

/-! ## The nearest number -/

/-- The greatest `p` with `2 ^ p ≤ n / d`, for positive `n` and `d`. -/
def binaryMagnitude (n d : Nat) : Int :=
  let p : Int := (n.log2 : Int) - d.log2
  if d * Nat.pow 2 p.toNat ≤ n * Nat.pow 2 (-p).toNat then p else p - 1

/-- The number nearest to `n / d`, ties to the even mantissa; infinite beyond all of them. -/
def nearest (negative : Bool) (n d : Nat) : Double :=
  if n = 0 then zero negative
  else
    let e := max (binaryMagnitude n d - 52) leastExponent
    let m := Rounding.halfEven.quotient (n * Nat.pow 2 (-e).toNat) (d * Nat.pow 2 e.toNat)
    let (m, e) := if m = Nat.pow 2 precision then (Nat.pow 2 (precision - 1), e + 1) else (m, e)
    if greatestExponent < e then .infinite negative else .finite negative m e

/-- The number nearest to `coefficient * 10 ^ exponent`. -/
def ofScientific (negative : Bool) (coefficient : Nat) (exponent : Int) : Double :=
  if coefficient = 0 then zero negative
  else
    let top := exponent + (Nat.toDigits 10 coefficient).length
    if 310 < top then .infinite negative
    else if top < -330 then zero negative
    else nearest negative (coefficient * Nat.pow 10 exponent.toNat) (Nat.pow 10 (-exponent).toNat)

def ofInt (n : Int) : Double :=
  nearest (decide (n < 0)) n.natAbs 1

/-! ## Order -/

/-- Is `a * 2 ^ e` below `b * 2 ^ f`? -/
def scaledLt (a : Int) (e : Int) (b : Int) (f : Int) : Bool :=
  let low := min e f
  a * Nat.pow 2 (e - low).toNat < b * Nat.pow 2 (f - low).toNat

def signed (negative : Bool) (mantissa : Nat) : Int :=
  if negative then -mantissa else mantissa

/-- Strictly below; never of the value that is not a number. -/
def lt : Double → Double → Bool
  | .nan, _ => false
  | _, .nan => false
  | .infinite s, .infinite t => s && !t
  | .infinite s, .finite .. => s
  | .finite .., .infinite t => !t
  | .finite s m e, .finite t n f => scaledLt (signed s m) e (signed t n) f

def isNan : Double → Bool
  | .nan => true
  | _ => false

/-- Below or equal; never of the value that is not a number. -/
def le (a b : Double) : Bool :=
  !a.isNan && !b.isNan && !b.lt a

/-! ## Operations -/

/-- Twice the number, exact unless it passes the greatest one. -/
def twice : Double → Double
  | .nan => .nan
  | .infinite s => .infinite s
  | .finite s m e =>
    if 2 * m < Nat.pow 2 precision then .finite s (2 * m) e
    else if e < greatestExponent then .finite s m (e + 1)
    else .infinite s

/-- The first number unless the second is below it. -/
def atMost (a b : Double) : Double :=
  if b.lt a then b else a

def truncate (negative : Bool) (mantissa : Nat) (exponent : Int) : Int :=
  signed negative (mantissa * Nat.pow 2 exponent.toNat / Nat.pow 2 (-exponent).toNat)

end Double

end Paywatch
