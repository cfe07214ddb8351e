import Paywatch.Database.File.Opening
import Paywatch.Text.Case
import Paywatch.Url.Database

/-!
# Databases in memory

An address of a database in memory names no user, host or port.  Some of its
options are read when the address is, and have to be readable; others are used
when the database is connected to.  All that are left belong to the name of a
file, if that may have options, and can make it one that is only read.
-/

namespace Paywatch

/-- The options of a database in memory that matter when it is connected to. -/
structure MemoryOptions where
  /-- The whole number that says which types are told. -/
  types : List Int
  /-- The modes of transactions. -/
  isolations : List String
  /-- How many statements are kept. -/
  statements : List Int
  /-- The name of the file, which may be missing. -/
  file : Option String
  /-- May the name of the file have options? -/
  isAddress : Bool
  deriving DecidableEq, Repr

namespace MemoryOptions

def yes : List String :=
  ["true", "yes", "on", "y", "t", "1"]

def no : List String :=
  ["false", "no", "off", "n", "f", "0"]

/-- The truth that a word stands for, in any case and with blanks around it. -/
def readTruth (text : String) : Except Failure Bool :=
  let word := Text.lower (Text.strip text)
  if yes.contains word then .ok true
  else if no.contains word then .ok false
  else .error (.noTruth word)

/-- An option that is set to yes or no; one that is set more than once is set to yes. -/
def truth : List String → Except Failure Bool
  | [] => .ok false
  | [text] => readTruth text
  | _ => .ok true

def checkNumber : List String → Except Failure Unit
  | [] => .ok ()
  | [text] =>
    match Text.readDouble? text with
    | some _ => .ok ()
    | none => .error (.unreadableDouble text)
  | _ => .error (.repeatedOption false)

def wholeNumbers : List String → Except Failure (List Int)
  | [] => .ok []
  | [text] =>
    match Text.readInt text with
    | .ok number => .ok [number]
    | .error misread => .error (.unreadableInt misread)
  | _ => .error (.repeatedOption true)

def names : List String :=
  ["uri", "timeout", "isolation_level", "detect_types", "check_same_thread",
    "cached_statements"]

def isPlaced (url : DatabaseUrl) : Bool :=
  let isNamed (part : Option (List Char)) : Bool := part.any (!·.isEmpty)
  isNamed url.username || isNamed url.host || isNamed url.password || url.port.any (· ≠ 0)

/-- The character that ends a name. -/
def endMark : Char :=
  '\x00'

/-- The name of a file with all options that are not read otherwise, in the order of their names. -/
def extended (url : DatabaseUrl) (file : Option String) : Except Failure (Option String) :=
  let keys := (url.without names).optionNames.mergeSort fun a b => decide (a ≤ b)
  let texts := keys.map fun key => s!"{key}={url.valueText key}"
  match texts, file with
  | [], _ => .ok file
  | _, none => .error .noFileNameToExtend
  | _, some file => .ok (some (file ++ "?" ++ "&".intercalate texts))

/-- A path in its shortest form; it ends at the first character that ends a name. -/
def shortPath (file : String) : String :=
  let path := String.ofList (file.toList.takeWhile (· ≠ endMark))
  let start := if path.startsWith "/" then "/" else "./"
  start ++ "/".intercalate (Opening.steps path)

/-- The name of a file without options; without a name the database lies in memory. -/
def plainFile (file : String) : String :=
  if file.isEmpty || file = Opening.memoryName then Opening.memoryName else shortPath file

def ofUrl (url : DatabaseUrl) : Except Failure MemoryOptions := do
  if isPlaced url then throw (.placedMemory url.shown)
  let isAddress ← truth (url.values "uri")
  checkNumber (url.values "timeout")
  let types ← wholeNumbers (url.values "detect_types")
  discard (truth (url.values "check_same_thread"))
  let statements ← wholeNumbers (url.values "cached_statements")
  let file := url.database.map String.ofList
  let file ← if isAddress then extended url file else pure (some (plainFile (file.getD "")))
  return ⟨types, url.values "isolation_level", statements, file, isAddress⟩

def fits (number : Int) : Bool :=
  -0x80000000 ≤ number && number < 0x80000000

def isReadOnly (options : MemoryOptions) : Except Failure Bool :=
  if !options.types.all fits then .error .optionTooWide
  else if 1 < options.isolations.length then .error .unknownIsolation
  else if !options.statements.all fits then .error .optionTooWide
  else match options.file with
    | none => .error .noFileName
    | some file =>
      if file.toList.contains endMark then .error .endInFileName
      else
        let name := if options.isAddress then FileName.ofText file
          else .ok ⟨FileName.bytesOf file, []⟩
        match name >>= Opening.isReadOnly with
        | .ok isReadOnly => .ok isReadOnly
        | .error cause =>
          match Text.misfit? cause.bytes with
          | some misfit => .error (.undecodable misfit)
          | none => .error (.unopened cause)

end MemoryOptions

end Paywatch
