import Paywatch.Decimal.Text
import Paywatch.Double.Basic

/-!
# Text of double precision numbers

A number is written with the fewest digits that read back as the same number,
and of those with the digits nearest to it.  From `0.0001` up to but not with
`10 ^ 16` it is written positionally, with at least one decimal place; elsewhere
with a power of ten of at least two digits.  A number may also be written with a
fixed count of decimal places, rounded from its exact value.
-/

namespace Paywatch

namespace Double

/-! ## Shortest digits -/

/-- The greatest `p` with `10 ^ p ≤ n / d`, for positive `n` and `d`. -/
def decimalMagnitude (n d : Nat) : Int :=
  let p : Int := ((Nat.toDigits 10 n).length : Int) - (Nat.toDigits 10 d).length
  if d * Nat.pow 10 p.toNat ≤ n * Nat.pow 10 (-p).toNat then p else p - 1

/--
The multiple of `10 ^ q` nearest to `mantissa * 2 ^ exponent` among those that
read back as that number.  The numbers that do so reach half way to the
neighbours, which are half as far apart below a power of two; the ends belong to
an even mantissa.
-/
def readsBackAt? (mantissa : Nat) (exponent q : Int) : Option Nat :=
  let fine := exponent - 2
  let unit := Nat.pow 2 fine.toNat * Nat.pow 10 (-q).toNat
  let grid := Nat.pow 10 q.toNat * Nat.pow 2 (-fine).toNat
  let low :=
    if mantissa = Nat.pow 2 (precision - 1) ∧ leastExponent < exponent then 4 * mantissa - 1
    else 4 * mantissa - 2
  let high := 4 * mantissa + 2
  let closed := mantissa % 2 = 0
  let below := 4 * mantissa * unit / grid
  let rest := 4 * mantissa * unit % grid
  let belowFits := low * unit < below * grid || closed && low * unit == below * grid
  let aboveFits :=
    (below + 1) * grid < high * unit || closed && (below + 1) * grid == high * unit
  if belowFits && aboveFits then some (Rounding.halfEven.quotient (below * grid + rest) grid)
  else if belowFits then some below
  else if aboveFits then some (below + 1)
  else none

/-- The shortest digits of a positive number, as a coefficient and a power of ten. -/
def shortest (mantissa : Nat) (exponent : Int) : Nat × Int :=
  let top := decimalMagnitude (mantissa * Nat.pow 2 exponent.toNat) (Nat.pow 2 (-exponent).toNat)
  let found := (List.range 17).findSome? fun (k : Nat) =>
    (readsBackAt? mantissa exponent (top - k)).map (·, top - k)
  found.getD (0, 0)

/-! ## Writing -/

/-- A power of ten with its sign and at least two digits. -/
def powerText (power : Int) : String :=
  "e" ++ (if power < 0 then "-" else "+") ++
    (if power.natAbs < 10 then "0" else "") ++ toString power.natAbs

/-- Digits without the zeros at their end; at least one stays. -/
def trimZeros (ds : List Char) : List Char :=
  match (ds.reverse.dropWhile (· = '0')).reverse with
  | [] => ['0']
  | kept => kept

/-- The digits of a number whose point stands `left` digits from their start. -/
def placedText (ds : List Char) (left : Int) : String :=
  if -4 < left ∧ left ≤ 16 then
    let body := String.ofList (Decimal.pointed ds left)
    if (ds.length : Int) ≤ left then body ++ ".0" else body
  else
    String.ofList (Decimal.pointed ds 1) ++ powerText (left - 1)

def text : Double → String
  | .nan => "nan"
  | .infinite negative => if negative then "-inf" else "inf"
  | .finite negative mantissa exponent =>
    let magnitude :=
      if mantissa = 0 then "0.0"
      else
        let (coefficient, q) := shortest mantissa exponent
        let ds := Decimal.digits coefficient
        placedText (trimZeros ds) (q + ds.length)
    (if negative then "-" else "") ++ magnitude

/-- The exact value in units of `10 ^ (-places)`, rounded to the nearest, ties to even. -/
def inPlaces (places mantissa : Nat) (exponent : Int) : Nat :=
  Rounding.halfEven.quotient (mantissa * Nat.pow 10 places * Nat.pow 2 exponent.toNat)
    (Nat.pow 2 (-exponent).toNat)

/-- The text with a fixed count of decimal places, which is at least one. -/
def fixedText (places : Nat) : Double → String
  | .nan => "nan"
  | .infinite negative => if negative then "-inf" else "inf"
  | .finite negative mantissa exponent =>
    let ds := Decimal.digits (inPlaces places mantissa exponent)
    let padded := List.replicate (places + 1 - ds.length) '0' ++ ds
    let left := padded.length - places
    (if negative then "-" else "") ++
      String.ofList (padded.take left ++ '.' :: padded.drop left)

end Double

end Paywatch
