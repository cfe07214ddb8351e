/-!
# Pieces of a text

A text falls into pieces at every occurrence of a mark.  There is one piece more
than there are marks, and any of them may be empty.
-/

namespace Paywatch

namespace Text

def pieces (mark : Char) : List Char → List (List Char)
  | [] => [[]]
  | c :: rest =>
    match pieces mark rest with
    | [] => [[c]]
    | piece :: later => if c = mark then [] :: piece :: later else (c :: piece) :: later

end Text

end Paywatch
