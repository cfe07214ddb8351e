import Paywatch.Text.Utf8

/-!
# Files that are not opened

The name of a file may say how the file is to be opened.  It is not opened when
the name asks for what there is not, or for more than is allowed.
-/

namespace Paywatch

/-- Why a file is not opened. -/
inductive FileFault where
  /-- The name places the file on another machine. -/
  | foreignHost (host : String)
  /-- There is no such way to share the pages of the file. -/
  | unknownSharing (value : List Nat)
  /-- There is no such access. -/
  | unknownAccess (value : List Nat)
  /-- The access is wider than the one that was asked for before. -/
  | widerAccess (value : List Nat)
  /-- There is no such file system. -/
  | unknownSystem (name : List Nat)
  /-- The file is not there, or is none that can be written. -/
  | unopened
  /-- What is there is none that can be read. -/
  | unread
  deriving DecidableEq, Repr

namespace FileFault

def bytes : FileFault → List Nat
  | foreignHost host => Text.encodeUtf8 ("invalid uri authority: " ++ host).toList
  | unknownSharing value => Text.encodeUtf8 "no such cache mode: ".toList ++ value
  | unknownAccess value => Text.encodeUtf8 "no such access mode: ".toList ++ value
  | widerAccess value => Text.encodeUtf8 "access mode not allowed: ".toList ++ value
  | unknownSystem name => Text.encodeUtf8 "no such vfs: ".toList ++ name
  | unopened => Text.encodeUtf8 "unable to open database file".toList
  | unread => Text.encodeUtf8 "disk I/O error".toList

end FileFault

end Paywatch
