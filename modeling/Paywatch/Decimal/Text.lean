import Paywatch.Decimal.Basic
import Paywatch.Text.Blank
import Paywatch.Text.Digit

/-!
# Decimal text

A number is written positionally as long as its exponent is not above zero and
its leading digit stands at the sixth decimal place or before it; otherwise it
is written in scientific form.  The reader takes every written form, with digits
of any script, and blanks around the number and underscores inside it as well.
It reads exactly, and refuses what lies outside `readLimit` and `readFloor`.
-/

namespace Paywatch

namespace Decimal

/-! ## Writing -/

/-- The decimal digits of a whole number. -/
def digits (n : Nat) : List Char :=
  Nat.toDigits 10 n

/-- A coefficient with its point `left` digits from its start, padded with zeros. -/
def pointed (ds : List Char) (left : Int) : List Char :=
  if left ≤ 0 then '0' :: '.' :: (List.replicate (-left).toNat '0' ++ ds)
  else if (ds.length : Int) ≤ left then ds ++ List.replicate (left - ds.length).toNat '0'
  else ds.take left.toNat ++ '.' :: ds.drop left.toNat

/-- The power of ten of the scientific form, always with a sign. -/
def powerText (power : Int) : String :=
  "E" ++ (if power < 0 then "-" else "+") ++ toString power.natAbs

/-- The finite number without its sign. -/
def magnitudeText (coefficient : Nat) (exponent : Int) : String :=
  let ds := digits coefficient
  let left := exponent + ds.length
  if exponent ≤ 0 ∧ -6 < left then String.ofList (pointed ds left)
  else
    String.ofList (pointed ds 1) ++ (if left = 1 then "" else powerText (left - 1))

def text : Decimal → String
  | .finite negative coefficient exponent =>
    (if negative then "-" else "") ++ magnitudeText coefficient exponent
  | .infinite negative => (if negative then "-" else "") ++ "Infinity"
  | .nan negative signaling payload =>
    (if negative then "-" else "") ++ (if signaling then "sNaN" else "NaN") ++
      (if payload = 0 then "" else toString payload)

/-! ## Reading -/

def digitsValue (ds : List Char) : Nat :=
  ds.foldl (fun n c => n * 10 + (c.toNat - 48)) 0

/-- Take a sign off the front; is it a minus? -/
def takeSign : List Char → Bool × List Char
  | '-' :: cs => (true, cs)
  | '+' :: cs => (false, cs)
  | cs => (false, cs)

def signedDigits? (cs : List Char) : Option Int :=
  let (negative, ds) := takeSign cs
  if ds.isEmpty || !ds.all Char.isDigit then none else some (signed negative (digitsValue ds))

/-- The magnitude of a finite number: digits, a point among them, an exponent. -/
def magnitude? (cs : List Char) : Option (Nat × Int) :=
  let whole := cs.takeWhile Char.isDigit
  let rest := cs.dropWhile Char.isDigit
  let (fraction, rest) := match rest with
    | '.' :: more => (more.takeWhile Char.isDigit, more.dropWhile Char.isDigit)
    | _ => ([], rest)
  if whole.isEmpty && fraction.isEmpty then none
  else
    let coefficient := digitsValue (whole ++ fraction)
    match rest with
    | [] => some (coefficient, -(fraction.length : Int))
    | 'e' :: power => (signedDigits? power).map fun p => (coefficient, p - fraction.length)
    | _ => none

/-- The payload of a diagnostic, zero when it is left out. -/
def payload? (ds : List Char) : Option Nat :=
  if ds.all Char.isDigit then some (digitsValue ds) else none

/-- The greatest power of ten at which the leading digit of a number that is read may stand. -/
def readLimit : Int :=
  999999999999999999

def readFloor : Int :=
  -1999999999999999997

inductive Misread where
  /-- It does not have the form of one. -/
  | malformed
  /-- It is too great, or its digits lie too deep, to be read. -/
  | outOfRange
  deriving DecidableEq, Repr

def isReadable (coefficient : Nat) (exponent : Int) : Bool :=
  leading coefficient exponent ≤ readLimit && readFloor ≤ exponent

/--
A digit or a blank in its ASCII form.  A character outside ASCII that is neither
stands for no part of a number, and neither does the first of all characters.
-/
def plainChar (c : Char) : Char :=
  if 0 < c.toNat && c.toNat < 128 then c
  else match Text.digitValue? c with
    | some value => Nat.digitChar value
    | none => '?'

/-- The characters of a number: lower case letters, plain digits, no underscores. -/
def numberChars (s : String) : List Char :=
  ((Text.stripWhere Text.isBlank s.toList).filter (· ≠ '_')).map fun c => (plainChar c).toLower

def ofText (s : String) : Except Misread Decimal :=
  let (negative, cs) := takeSign (numberChars s)
  match cs with
  | ['i', 'n', 'f'] => .ok (.infinite negative)
  | ['i', 'n', 'f', 'i', 'n', 'i', 't', 'y'] => .ok (.infinite negative)
  | 'n' :: 'a' :: 'n' :: ds =>
    match payload? ds with
    | some payload => .ok (.nan negative false payload)
    | none => .error .malformed
  | 's' :: 'n' :: 'a' :: 'n' :: ds =>
    match payload? ds with
    | some payload => .ok (.nan negative true payload)
    | none => .error .malformed
  | cs =>
    match magnitude? cs with
    | some (coefficient, exponent) =>
      if isReadable coefficient exponent then .ok (.finite negative coefficient exponent)
      else .error .outOfRange
    | none => .error .malformed

end Decimal

end Paywatch
