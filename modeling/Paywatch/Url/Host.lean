import Paywatch.Failure
import Paywatch.Text.Percent
import Paywatch.Text.Pieces

/-!
# Numeric addresses of hosts

A host is addressed by number in one of two ways: by four octets with points
between them, or by eight groups of hexadecimal digits with colons between them.
In the second way two colons in a row stand for one or more groups that are zero,
four octets may take the place of the last two groups, and the name of a zone may
follow a percent sign.  Only the second way may be written in brackets, and
beside it forms of later versions, which begin with their version.
-/

namespace Paywatch

namespace Host

/-! ## Four octets -/

/-- Is this a number up to 255 without leading zeros? -/
def isOctet (cs : List Char) : Bool :=
  !cs.isEmpty && cs.length ≤ 3 && cs.all Char.isDigit &&
    (cs == ['0'] || cs.head? != some '0') && Decimal.digitsValue cs ≤ 255

def isFourOctets (cs : List Char) : Bool :=
  let octets := Text.pieces '.' cs
  octets.length == 4 && octets.all isOctet

/-! ## Eight groups -/

def isHexDigit (c : Char) : Bool :=
  (Text.hexValue? c).isSome

def isGroup (cs : List Char) : Bool :=
  !cs.isEmpty && cs.length ≤ 4 && cs.all isHexDigit

def groupDigits (group : Nat) : List Char :=
  Nat.toDigits 16 group

/-- Two groups in place of four octets. -/
def octetGroups (cs : List Char) : List (List Char) :=
  match (Text.pieces '.' cs).map Decimal.digitsValue with
  | [a, b, c, d] => [groupDigits (a * 256 + b), groupDigits (c * 256 + d)]
  | _ => []

/-- The pieces between the colons, with two groups in place of four octets at the end. -/
def groupPieces (cs : List Char) : List (List Char) :=
  let pieces := Text.pieces ':' cs
  match pieces.getLast? with
  | some last => if isFourOctets last then pieces.dropLast ++ octetGroups last else pieces
  | none => []

/-- Are the pieces on one side of a gap groups, or none at all? -/
def isSide (pieces : List (List Char)) : Bool :=
  pieces == [[]] || (!pieces.isEmpty && pieces.all isGroup)

/-- Does the piece at a position stand for groups that are zero? -/
def isGap (pieces : List (List Char)) (position : Nat) : Bool :=
  pieces[position]? == some [] && isSide (pieces.take position) &&
    isSide (pieces.drop (position + 1)) && pieces.countP isGroup < 8

/-- Are these eight groups, some of which may be left out? -/
def isEightGroups (cs : List Char) : Bool :=
  let pieces := groupPieces cs
  (pieces.length == 8 && pieces.all isGroup) || (List.range pieces.length).any (isGap pieces)

def isZone : List Char → Bool
  | [] => true
  | _ :: zone => !zone.isEmpty && !zone.contains '%'

def isGrouped (cs : List Char) : Bool :=
  isEightGroups (cs.takeWhile (· ≠ '%')) && isZone (cs.dropWhile (· ≠ '%'))

/-! ## Hosts in brackets -/

def isVersioned (cs : List Char) : Bool :=
  !(cs.takeWhile isHexDigit).isEmpty &&
    match cs.dropWhile isHexDigit with
    | '.' :: _ :: _ => true
    | _ => false

def checkBracketed : List Char → Except Failure Unit
  | 'v' :: version => if isVersioned version then .ok () else .error .malformedVersion
  | cs =>
    if isFourOctets cs then .error .bracketedOctets
    else if isGrouped cs then .ok ()
    else .error (.noHostNumber (String.ofList cs))

end Host

end Paywatch
