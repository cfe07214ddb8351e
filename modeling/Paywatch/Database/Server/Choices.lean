import Paywatch.Database.Server.Options
import Paywatch.Text.Pieces

/-!
# Values of the options

Before a server is looked for, the values of the options are checked one after
the other, and the first that cannot be meant is told.  Some options have a few
values only, some name versions of which the least may not be later than the
greatest, and some go together with others only when those are strong enough.
-/

namespace Paywatch

namespace ServerOptions

/-! ## Options with a few values -/

def choiceFault? (options : ServerOptions) (name : String) (choices : List String) :
    Option ServerFault :=
  match options.value? name with
  | none => none
  | some value => if choices.contains value then none else some (.unknownValue name value)

def methods : List String :=
  ["password", "md5", "gss", "sspi", "scram-sha-256", "none"]

/-- The first fault in a list of methods, which are either all asked for or all ruled out. -/
def methodFault? (isRuledOut : Bool) (before : List String) : List String → Option ServerFault
  | [] => none
  | text :: later =>
    let method := if text.startsWith "!" then String.ofList (text.toList.drop 1) else text
    if text.startsWith "!" && !isRuledOut then some (.ruledOut text)
    else if !text.startsWith "!" && isRuledOut then some (.askedFor text)
    else if !methods.contains method then some (.unknownValue "require_auth" method)
    else if before.contains text then some (.repeatedMethod text)
    else methodFault? isRuledOut (text :: before) later

/-- The first fault in the list of methods that the options hold. -/
def methodsFault? (options : ServerOptions) : Option ServerFault :=
  match options.value "require_auth" with
  | "" => none
  | text => methodFault? (text.startsWith "!") [] ((Text.pieces ',' text.toList).map String.ofList)

/-! ## Encryption -/

/-- The kind of encryption: unless it is set, the strongest if the system is to trust the server. -/
def mode (options : ServerOptions) : String :=
  (options.value? "sslmode").getD
    (if options.value? "sslrootcert" = some "system" then "verify-full" else "prefer")

/-- The encryption may be left out although it is needed from the first byte. -/
def directFault? (options : ServerOptions) : Option ServerFault :=
  let mode := options.mode
  if options.value? "sslnegotiation" = some "direct" && !mode.startsWith "r" &&
      !mode.startsWith "v" then some (.weakMode mode .direct)
  else none

/-- The certificate of the server is not looked at although the system is to trust it. -/
def trustFault? (options : ServerOptions) : Option ServerFault :=
  if options.value? "sslrootcert" = some "system" && options.mode ≠ "verify-full" then
    some (.weakMode options.mode .trusted)
  else none

/-! ## Versions -/

def versions : List String :=
  ["tlsv1", "tlsv1.1", "tlsv1.2", "tlsv1.3"]

/-- The place of a version among all, in any case. -/
def versionPlace? (text : String) : Option Nat :=
  versions.idxOf? (text.map Char.toLower)

def version (options : ServerOptions) (name default : String) : String :=
  (options.value? name).getD default

def versionFault? (options : ServerOptions) (name : String) : Option ServerFault :=
  let text := options.value name
  if text.isEmpty || (versionPlace? text).isSome then none else some (.unknownVersion name text)

def rangeFault? (options : ServerOptions) : Option ServerFault :=
  let least := versionPlace? (options.version "ssl_min_protocol_version" "TLSv1.2")
  let greatest := versionPlace? (options.version "ssl_max_protocol_version" "")
  match least, greatest with
  | some least, some greatest => if greatest < least then some .emptyRange else none
  | _, _ => none

/-! ## All of them -/

/-- What can be wrong with the values, in the order in which it is looked for. -/
def valueFaults (options : ServerOptions) : List (Option ServerFault) :=
  [options.methodsFault?,
    options.choiceFault? "channel_binding" ["disable", "prefer", "require"],
    options.choiceFault? "sslmode"
      ["disable", "allow", "prefer", "require", "verify-ca", "verify-full"],
    options.choiceFault? "sslnegotiation" ["postgres", "direct"],
    options.directFault?,
    options.trustFault?,
    options.versionFault? "ssl_min_protocol_version",
    options.versionFault? "ssl_max_protocol_version",
    options.rangeFault?,
    options.choiceFault? "sslcertmode" ["disable", "allow", "require"],
    options.choiceFault? "gssencmode" ["disable", "prefer", "require"],
    options.choiceFault? "target_session_attrs"
      ["any", "read-write", "read-only", "primary", "standby", "prefer-standby"],
    options.choiceFault? "load_balance_hosts" ["disable", "random"]]

def valueFault? (options : ServerOptions) : Option ServerFault :=
  options.valueFaults.findSome? id

end ServerOptions

end Paywatch
