import Paywatch.Text.Ranges

/-!
# Blanks

The characters that count as space around a text, and their removal from both
ends.  Beside the separators of the Unicode standard these are the controls of
horizontal and vertical movement and the four information separators.
-/

namespace Paywatch

namespace Text

def blankRanges : List (Nat × Nat) :=
  [
    (0x9, 0xd), (0x1c, 0x20), (0x85, 0x85), (0xa0, 0xa0), (0x1680, 0x1680), (0x2000, 0x200a),
    (0x2028, 0x2029), (0x202f, 0x202f), (0x205f, 0x205f), (0x3000, 0x3000)]

def isBlank (c : Char) : Bool :=
  inRanges blankRanges c

/-- The text without the characters of a class at either end. -/
def stripWhere (p : Char → Bool) (cs : List Char) : List Char :=
  ((cs.dropWhile p).reverse.dropWhile p).reverse

def strip (s : String) : String :=
  String.ofList (stripWhere isBlank s.toList)

def isBlankText (s : String) : Bool :=
  s.toList.all isBlank

end Text

end Paywatch
