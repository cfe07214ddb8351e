import Paywatch.Database.File.Name
import Paywatch.Decimal.Text

/-!
# Opening a file

The options of the name of a file say how it is opened.  Each access that is
asked for may be narrower than the one before, and only a database in memory
allows every one.  A database without a path lies in memory too, and one file
system keeps all its files there.  A file that is said not to change is only
read.
-/

namespace Paywatch

inductive FileAccess where
  | readOnly
  | readWrite
  | create
  | memory
  deriving DecidableEq, Repr

namespace FileAccess

def words : List (String × FileAccess) :=
  [("ro", readOnly), ("rw", readWrite), ("rwc", create), ("memory", memory)]

def ofBytes? (word : List Nat) : Option FileAccess :=
  (words.find? fun entry => FileName.bytesOf entry.1 = word).map (·.2)

/-- How much the access allows; one in memory asks for nothing. -/
def demand : FileAccess → Nat
  | memory => 0
  | readOnly => 1
  | readWrite => 2
  | create => 3

def limit : FileAccess → Nat
  | memory => 4
  | access => access.demand

/-- The access that a value asks for after another one. -/
def narrowed (access : FileAccess) (value : List Nat) : Except FileFault FileAccess :=
  match ofBytes? value with
  | none => .error (.unknownAccess value)
  | some next => if access.limit < next.demand then .error (.widerAccess value) else .ok next

end FileAccess

structure Opening where
  access : FileAccess := .create
  /-- The file system, if one is named. -/
  system : Option (List Nat) := none
  /-- The first answer to whether the file never changes. -/
  isFixed : Option Bool := none
  deriving DecidableEq, Repr

namespace Opening

def sharings : List String :=
  ["shared", "private"]

def memorySystem : String :=
  "memdb"

def systems : List String :=
  ["unix", "unix-none", "unix-dotfile", "unix-excl", memorySystem]

def isAmong (words : List String) (value : List Nat) : Bool :=
  words.any fun word => FileName.bytesOf word = value

def yes : List String :=
  ["on", "yes", "true"]

/-- A number of 32 bits in digits, as far as they go; a greater one counts as zero. -/
def leadingNumber (cs : List Char) : Nat :=
  let number := Decimal.digitsValue (cs.takeWhile Char.isDigit)
  if number < 0x80000000 then number else 0

/-- Does a value mean yes?  Of a number the last eight bits count. -/
def meansYes (value : List Nat) : Bool :=
  let cs := (Text.decodeUtf8 value).map Char.toLower
  if (cs.head?.map Char.isDigit).getD false then leadingNumber cs % 256 ≠ 0
  else yes.contains (String.ofList cs)

/-- Read one option of the name of a file; one that is not known makes no difference. -/
def readOption (opening : Opening) (name value : List Nat) : Except FileFault Opening :=
  if name = FileName.bytesOf "vfs" then .ok { opening with system := some value }
  else if name = FileName.bytesOf "cache" then
    if isAmong sharings value then .ok opening else .error (.unknownSharing value)
  else if name = FileName.bytesOf "mode" then
    (opening.access.narrowed value).map fun access => { opening with access := access }
  else if name = FileName.bytesOf "immutable" then
    .ok { opening with isFixed := opening.isFixed.or (some (meansYes value)) }
  else .ok opening

def ofName (name : FileName) : Except FileFault Opening := do
  let opening ← name.options.foldlM (fun opening option => opening.readOption option.1 option.2)
    ({} : Opening)
  match opening.system with
  | some system => if isAmong systems system then return opening else throw (.unknownSystem system)
  | none => return opening

def memoryName : String :=
  ":memory:"

/-- Does the database at a path lie in memory, without a file? -/
def isInMemory (opening : Opening) (path : List Nat) : Bool :=
  path.isEmpty || path = FileName.bytesOf memoryName || opening.access = .memory

def isKept (opening : Opening) : Bool :=
  opening.system = some (FileName.bytesOf memorySystem)

/-- May a file that is there only be read? -/
def isReadFile (opening : Opening) : Bool :=
  opening.access = .readOnly || opening.isFixed.getD false

/-! ## Folders -/

/-- The steps of a path, without those that lead nowhere or back. -/
def steps (path : String) : List String :=
  ((Text.pieces '/' path.toList).map String.ofList).foldl (fun before step =>
    if step = "" || step = "." then before
    else if step = ".." then before.dropLast
    else before ++ [step]) []

def folders : List String :=
  ["", "bin", "boot", "dev", "dev/shm", "etc", "home", "lib", "media", "mnt", "opt", "proc",
    "root", "run", "sbin", "srv", "sys", "tmp", "usr", "usr/bin", "usr/lib", "usr/local",
    "usr/share", "var", "var/lib", "var/log", "var/run", "var/tmp"]

/-- Is there a folder at a path, which begins at the root or else where the program is? -/
def isFolder (isRooted : Bool) (steps : List String) : Bool :=
  if isRooted then folders.contains ("/".intercalate steps) else steps.isEmpty

inductive Found where
  | folder
  /-- Nothing, but a file can be made. -/
  | room
  | nothing
  deriving DecidableEq, Repr

def find (path : String) : Found :=
  let isRooted := path.startsWith "/"
  let all := steps path
  if isFolder isRooted all then .folder
  else if !path.endsWith "/" && isFolder isRooted all.dropLast then .room
  else .nothing

def isReadOnly (name : FileName) : Except FileFault Bool := do
  let opening ← ofName name
  if opening.isInMemory name.path then return opening.access = .readOnly
  if opening.isKept then return opening.isReadFile
  match find (String.ofList (Text.decodeUtf8 name.path)), opening.access with
  | .room, .create => return opening.isReadFile
  | .folder, .readOnly => throw .unread
  | _, _ => throw .unopened

end Opening

end Paywatch
