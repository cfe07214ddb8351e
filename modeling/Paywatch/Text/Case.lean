import Paywatch.Text.Case.Table
import Paywatch.Text.Ranges

/-!
# Upper and lower case

Whole texts change case by the full mappings of the Unicode standard: one
character may become several, and a capital sigma at the end of a word takes its
final form.
-/

namespace Paywatch

namespace Text

def changeCase (runs : List CaseRun) (expansions : List (Nat × List Nat)) (c : Char) :
    List Char :=
  match expansions.find? (·.1 == c.toNat) with
  | some (_, several) => several.map Char.ofNat
  | none =>
    match runs.find? (·.contains c.toNat) with
    | some run => [Char.ofNat (c.toNat + run.offset).toNat]
    | none => [c]

def upper (s : String) : String :=
  String.ofList (s.toList.flatMap (changeCase upperRuns upperExpansions))

def startsCased (cs : List Char) : Bool :=
  match cs.dropWhile (inRanges caseIgnorableRanges) with
  | c :: _ => inRanges casedRanges c
  | [] => false

/-- The lower case of the rest of a text, after the characters in `before`, the nearest first. -/
def lowerAfter (before : List Char) : List Char → List Char
  | [] => []
  | c :: rest =>
    let mapped :=
      if c = 'Σ' then
        if startsCased before && !startsCased rest then ['ς'] else ['σ']
      else changeCase lowerRuns lowerExpansions c
    mapped ++ lowerAfter (c :: before) rest

def lower (s : String) : String :=
  String.ofList (lowerAfter [] s.toList)

end Text

end Paywatch
