import Paywatch.Text.Utf8

/-!
# Percent encoding

A character that would be read as a delimiter is written as the bytes of its
UTF-8 form, each as a percent sign and two hexadecimal digits.  Letters, digits
and four marks always stay; the form for user names and passwords also writes a
blank as a plus sign.
-/

namespace Paywatch

namespace Text

/-- Letters, digits and marks that are never delimiters. -/
def isUnreserved (c : Char) : Bool :=
  c.isAlphanum || c = '_' || c = '.' || c = '-' || c = '~'

def upperHex (n : Nat) : Char :=
  (Nat.digitChar n).toUpper

/-- A byte as a percent sign and two digits. -/
def percentByte (b : Nat) : List Char :=
  ['%', upperHex (b / 16), upperHex (b % 16)]

def percentChar (keeps : Char → Bool) (c : Char) : List Char :=
  if keeps c then [c] else (encodeUtf8 [c]).flatMap percentByte

/-- A text in which only the characters of a class stand as they are. -/
def percentEncode (keeps : Char → Bool) (cs : List Char) : List Char :=
  cs.flatMap (percentChar keeps)

def plusEncode (cs : List Char) : List Char :=
  cs.flatMap fun c => if c = ' ' then ['+'] else percentChar isUnreserved c

/-! ## Decoding -/

def hexValue? (c : Char) : Option Nat :=
  if '0' ≤ c ∧ c ≤ '9' then some (c.toNat - 48)
  else if 'a' ≤ c ∧ c ≤ 'f' then some (c.toNat - 87)
  else if 'A' ≤ c ∧ c ≤ 'F' then some (c.toNat - 55)
  else none

/-- The byte that two digits after a percent sign stand for. -/
def hexByte? (a b : Char) : Option Nat := do
  return (← hexValue? a) * 16 + (← hexValue? b)

/-- The bytes that a percent encoded text stands for; other percent signs stand for themselves. -/
def percentBytes : List Char → List Nat
  | [] => []
  | '%' :: a :: b :: rest =>
    match hexByte? a b with
    | some byte => byte :: percentBytes rest
    | none => 0x25 :: percentBytes (a :: b :: rest)
  | c :: rest => encodeUtf8 [c] ++ percentBytes rest
termination_by cs => cs.length

def percentDecode (cs : List Char) : List Char :=
  decodeUtf8 (percentBytes cs)

def plusDecode (cs : List Char) : List Char :=
  percentDecode (cs.map fun c => if c = '+' then ' ' else c)

end Text

end Paywatch
