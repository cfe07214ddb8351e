import Paywatch.Database.File.Fault
import Paywatch.Text.Percent
import Paywatch.Text.Pieces

/-!
# Names of files with options

A file may be named by its path alone, or by an address that begins with its
kind, perhaps names this machine, and adds options after a question mark.  Path
and options are percent encoded; what a number sign begins is left out, and an
encoded end of a text leaves out the rest of its part.
-/

namespace Paywatch

/-- The path of a file and the options of its name, as bytes. -/
structure FileName where
  path : List Nat
  options : List (List Nat × List Nat)
  deriving DecidableEq, Repr

namespace FileName

def bytesOf (word : String) : List Nat :=
  Text.encodeUtf8 word.toList

def decodePart (part : List Char) : List Nat :=
  (Text.percentBytes part).takeWhile (· ≠ 0)

/-- An option, which has an empty value if it has none; without a name it is none. -/
def readOption? (part : List Char) : Option (List Nat × List Nat) :=
  match decodePart (part.takeWhile (· ≠ '=')) with
  | [] => none
  | name => some (name, decodePart ((part.dropWhile (· ≠ '=')).drop 1))

def addressStart : List Char :=
  "file:".toList

/-- The rest of an address without the name of this machine, which may be left out. -/
def withoutHost (cs : List Char) : Except FileFault (List Char) :=
  match cs with
  | '/' :: '/' :: rest =>
    let host := String.ofList (rest.takeWhile (· ≠ '/'))
    if host.isEmpty || host = "localhost" then .ok (rest.dropWhile (· ≠ '/'))
    else .error (.foreignHost host)
  | _ => .ok cs

def ofAddress (cs : List Char) : Except FileFault FileName := do
  let kept := (← withoutHost cs).takeWhile (· ≠ '#')
  let query := (kept.dropWhile (· ≠ '?')).drop 1
  return ⟨decodePart (kept.takeWhile (· ≠ '?')), (Text.pieces '&' query).filterMap readOption?⟩

def ofText (text : String) : Except FileFault FileName :=
  let cs := text.toList
  if addressStart.isPrefixOf cs then ofAddress (cs.drop addressStart.length)
  else .ok ⟨bytesOf text, []⟩

end FileName

end Paywatch
