/-!
# Reading UTF-8

Bytes are read as text.  Where they are not well formed, the longest beginning
of a character that they do form stands for one replacement character, and so
does a byte that begins none.
-/

namespace Paywatch

namespace Text

/-- What stands for bytes that form no character. -/
def replacement : Char :=
  '\ufffd'

def isContinuation (b : Nat) : Bool :=
  0x80 ≤ b && b ≤ 0xbf

/-- Can `b` follow the first byte of a character of three bytes? -/
def secondOfThree (first b : Nat) : Bool :=
  if first = 0xe0 then 0xa0 ≤ b && b ≤ 0xbf
  else if first = 0xed then 0x80 ≤ b && b ≤ 0x9f
  else isContinuation b

/-- Can `b` follow the first byte of a character of four bytes? -/
def secondOfFour (first b : Nat) : Bool :=
  if first = 0xf0 then 0x90 ≤ b && b ≤ 0xbf
  else if first = 0xf4 then 0x80 ≤ b && b ≤ 0x8f
  else isContinuation b

def tailBits (b : Nat) : Nat :=
  b % 0x40

def frontChar (first : Nat) (rest : List Nat) : Char × Nat :=
  if first < 0x80 then (Char.ofNat first, 1)
  else if 0xc2 ≤ first ∧ first ≤ 0xdf then
    match rest with
    | b :: _ =>
      if isContinuation b then (Char.ofNat (first % 0x20 * 0x40 + tailBits b), 2)
      else (replacement, 1)
    | _ => (replacement, 1)
  else if 0xe0 ≤ first ∧ first ≤ 0xef then
    match rest with
    | b :: c :: _ =>
      if !secondOfThree first b then (replacement, 1)
      else if !isContinuation c then (replacement, 2)
      else (Char.ofNat ((first % 0x10 * 0x40 + tailBits b) * 0x40 + tailBits c), 3)
    | [b] => (replacement, if secondOfThree first b then 2 else 1)
    | [] => (replacement, 1)
  else if 0xf0 ≤ first ∧ first ≤ 0xf4 then
    match rest with
    | b :: c :: d :: _ =>
      if !secondOfFour first b then (replacement, 1)
      else if !isContinuation c then (replacement, 2)
      else if !isContinuation d then (replacement, 3)
      else
        (Char.ofNat (((first % 8 * 0x40 + tailBits b) * 0x40 + tailBits c) * 0x40 + tailBits d), 4)
    | [b, c] =>
      (replacement, if !secondOfFour first b then 1 else if isContinuation c then 3 else 2)
    | [b] => (replacement, if secondOfFour first b then 2 else 1)
    | [] => (replacement, 1)
  else (replacement, 1)

def decodeUtf8 : List Nat → List Char
  | [] => []
  | first :: rest =>
    let (c, taken) := frontChar first rest
    c :: decodeUtf8 (rest.drop (taken - 1))
termination_by bytes => bytes.length
decreasing_by simp only [List.length_drop, List.length_cons]; omega

/-- Bytes that form no character: where they stand, and whether they end too early. -/
structure Misfit where
  position : Nat
  bytes : List Nat
  isCut : Bool
  deriving DecidableEq, Repr

def isBeginning (b : Nat) : Bool :=
  b < 0x80 || (0xc2 ≤ b && b ≤ 0xf4)

def misfitFrom? (position : Nat) : List Nat → Option Misfit
  | [] => none
  | first :: rest =>
    let (c, taken) := frontChar first rest
    if c = replacement && !(first = 0xef && taken = 3) then
      some ⟨position, first :: rest.take (taken - 1),
        isBeginning first && decide (rest.length < taken)⟩
    else misfitFrom? (position + taken) (rest.drop (taken - 1))
termination_by bytes => bytes.length
decreasing_by simp only [List.length_drop, List.length_cons]; omega

def misfit? (bytes : List Nat) : Option Misfit :=
  misfitFrom? 0 bytes

def encodeUtf8 (cs : List Char) : List Nat :=
  cs.flatMap fun c => (String.utf8EncodeChar c).map UInt8.toNat

end Text

end Paywatch
