import Paywatch.Double.Basic
import Paywatch.Decimal.Text
import Paywatch.Text.Blank
import Paywatch.Text.Digit

/-!
# Numerals

How a setting's text is read as a number.  Digits may come from any script, and
single underscores may stand between them; blanks around the numeral are
ignored.  A whole number of more than `maxDigits` digits is refused.
-/

namespace Paywatch

namespace Text

def maxDigits : Nat := 4300

/--
Digits and blanks in their ASCII form.  A character outside ASCII that is
neither stands for no part of a numeral.
-/
def plainChar (c : Char) : Char :=
  if c.toNat < 127 then c
  else if isBlank c then ' '
  else match digitValue? c with
    | some value => Nat.digitChar value
    | none => '?'

/-- The ASCII controls and the blank that may surround a numeral. -/
def isMargin (c : Char) : Bool :=
  c = ' ' || (9 ≤ c.toNat && c.toNat ≤ 13)

/-- The characters of a numeral without what surrounds it. -/
def numeralChars (s : String) : List Char :=
  stripWhere isMargin (s.toList.map plainChar)

/-- Remove the underscores after `previous`; each has to stand between two digits. -/
def joinDigits? (previous : Char) : List Char → Option (List Char)
  | [] => some []
  | '_' :: c :: rest =>
    if previous.isDigit && c.isDigit then (joinDigits? c rest).map (c :: ·) else none
  | '_' :: [] => none
  | c :: rest => (joinDigits? c rest).map (c :: ·)

inductive Misread where
  /-- It does not have the form of one. -/
  | malformed (text : String)
  /-- It begins with more digits than are read. -/
  | tooLong (digits : Nat)
  deriving DecidableEq, Repr

def isRunChar (c : Char) : Bool :=
  c.isDigit || c = '_'

def readInt (s : String) : Except Misread Int :=
  let (negative, cs) := Decimal.takeSign (numeralChars s)
  let run := cs.takeWhile isRunChar
  match joinDigits? ' ' run with
  | none => .error (.malformed s)
  | some ds =>
    if maxDigits < ds.length then .error (.tooLong ds.length)
    else if ds.isEmpty || run.length < cs.length then .error (.malformed s)
    else .ok (Decimal.signed negative (Decimal.digitsValue ds))

/-- A number, an infinity or the value that is not a number, without its sign. -/
def readMagnitude? (negative : Bool) (cs : List Char) : Option Double :=
  match String.ofList cs with
  | "inf" => some (.infinite negative)
  | "infinity" => some (.infinite negative)
  | "nan" => some .nan
  | _ => (Decimal.magnitude? cs).map fun (c, e) => Double.ofScientific negative c e

/-- The double precision number that a text stands for, rounded to the nearest. -/
def readDouble? (s : String) : Option Double := do
  let joined ← joinDigits? ' ' (numeralChars s)
  let (negative, cs) := Decimal.takeSign (joined.map Char.toLower)
  readMagnitude? negative cs

end Text

end Paywatch
