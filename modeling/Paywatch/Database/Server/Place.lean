import Paywatch.Database.Server.Choices
import Paywatch.Database.Server.HostNumber

/-!
# Places of a server

The options name the places at which a server is looked for, each a host with a
port.  A place is a socket on this machine or a port of one or more numbers of a
host.  They are tried one after the other until one of them shows that the
others will not do either.
-/

namespace Paywatch

/-- A place at which a server is looked for; what is not named is empty. -/
structure Place where
  host : String
  number : String
  port : String
  deriving DecidableEq, Repr

inductive Target where
  /-- A socket at a path. -/
  | socket (path : String)
  /-- The numbers of a host, with the name that is told of it. -/
  | host (name : String) (isNumber : Bool) (numbers : List HostNumber)
  deriving DecidableEq, Repr

/-! ## Sockets -/

namespace SocketFault

def files : List String :=
  ["/dev/null", "/dev/zero", "/etc/passwd", "/etc/group", "/etc/hosts", "/etc/hostname",
    "/etc/resolv.conf", "/etc/os-release", "/bin/sh"]

def ofPath (path : String) : SocketFault :=
  if path.startsWith "@" then .refused
  else if files.any fun file => (file ++ "/").isPrefixOf path then .noFolder
  else .missing

end SocketFault

/-! ## Hosts -/

namespace HostNumber

def knownHosts : List (String × List HostNumber) :=
  [("localhost", [ownOctets])]

def anyHost : String :=
  "*"

def isNameChar (c : Char) : Bool :=
  c.isAlphanum || c = '-' || c = '_'

def isName (name : String) : Bool :=
  let labels := Text.pieces '.' name.toList
  let labels := if labels.getLast? = some [] then labels.dropLast else labels
  name = "." || (!labels.isEmpty && !name.startsWith "-" &&
    (labels.all fun label => 0 < label.length && label.length ≤ 63 && label.all isNameChar) &&
    (labels.flatMap ('.' :: ·)).length < 255)

def given? (text : String) : Option (List HostNumber) :=
  if text = anyHost then some [ownGroups, ownOctets] else (ofText? text).map ([·])

def ofHost (name : String) : Except LookupFault (List HostNumber) :=
  match given? name, knownHosts.lookup (name.map Char.toLower) with
  | some numbers, _ | none, some numbers => .ok numbers
  | none, none => .error (if isName name then .unanswered else .unknown)

end HostNumber

/-! ## Ports -/

namespace Place

def socketFolder : String :=
  "/var/run/postgresql"

def usualPort : Nat :=
  5432

/-- A whole number of 32 bits in plain digits, with a sign and margins. -/
def readNumber? (text : String) : Option Int :=
  match Decimal.signedDigits? (Text.stripWhere Text.isMargin text.toList) with
  | some number => if -0x80000000 ≤ number && number < 0x80000000 then some number else none
  | none => none

def readPort? (place : Place) : Option Int :=
  if place.port.isEmpty then some usualPort else readNumber? place.port

def shownPort (place : Place) : String :=
  if place.port.isEmpty then toString usualPort else place.port

/-! ## Targets -/

/-- The greatest length in which the path of a socket is kept, in bytes. -/
def keptPath : Nat :=
  1023

def frontBytes : Nat → List Char → List Char
  | _, [] => []
  | room, c :: rest => if c.utf8Size ≤ room then c :: frontBytes (room - c.utf8Size) rest else []

def socketIn (folder : String) (port : Int) : Except PlaceFault Target :=
  let path := String.ofList (frontBytes keptPath s!"{folder}/.s.PGSQL.{port}".toList)
  if PlaceFault.longestPath < path.utf8ByteSize then .error (.longPath path)
  else .ok (.socket path)

def isFolder (host : String) : Bool :=
  host.startsWith "/" || host.startsWith "@"

def target (place : Place) (port : Int) : Except PlaceFault Target :=
  if !place.number.isEmpty then
    match HostNumber.given? place.number with
    | some numbers => .ok (.host place.number true numbers)
    | none => .error (.noNumber place.number)
  else if place.host.isEmpty then socketIn socketFolder port
  else if isFolder place.host then socketIn place.host port
  else match HostNumber.ofHost place.host with
    | .ok numbers => .ok (.host place.host false numbers)
    | .error fault => .error (.unknownHost place.host fault)

end Place

namespace ServerOptions

/-! ## Settings of a connection -/

/-- A setting of a connection that is watched: its option, its name, and its greatest value. -/
structure Watching where
  option : String
  setting : String
  greatest : Int

def watchings : List Watching :=
  [⟨"keepalives_idle", "TCP_KEEPIDLE", 32767⟩, ⟨"keepalives_interval", "TCP_KEEPINTVL", 32767⟩,
    ⟨"keepalives_count", "TCP_KEEPCNT", 127⟩]

def numberFault? (options : ServerOptions) (name : String) : Option HostFault :=
  match options.value? name with
  | none => none
  | some text =>
    if (Place.readNumber? text).isSome then none else some (.unreadableOption name text)

def settingFault? (options : ServerOptions) (watching : Watching) : Option HostFault :=
  match options.value? watching.option, options.numberFault? watching.option with
  | _, some fault => some fault
  | none, none => none
  | some text, none =>
    let number := (Place.readNumber? text).getD 0
    if 1 ≤ number && number ≤ watching.greatest then none
    else some (.refusedSetting watching.setting)

def connectionFault? (options : ServerOptions) : Option HostFault :=
  match options.numberFault? "keepalives" with
  | some fault => some fault
  | none =>
    if (options.value? "keepalives").bind Place.readNumber? = some 0 then none
    else (watchings.findSome? options.settingFault?).or (options.numberFault? "tcp_user_timeout")

/-! ## The search -/

/-- Does the connection have to be encrypted by tickets? -/
def needsTickets (options : ServerOptions) : Bool :=
  options.value? "gssencmode" = some "require"

def targetFaults (options : ServerOptions) (port : String) : Target → List PlaceFault
  | .socket path =>
    [if options.needsTickets then .plainSocket else .socket path (.ofPath path)]
  | .host name isNumber numbers =>
    numbers.map fun number =>
      if options.needsTickets then .noTickets
      else .host name (if isNumber then name else number.text) port
        (options.connectionFault?.getD number.fault)

def placeFaults (options : ServerOptions) (place : Place) : List PlaceFault :=
  match place.readPort? with
  | none => [.unreadablePort place.port]
  | some port =>
    if port < 1 || 65535 < port then [.noPort place.port]
    else match place.target port with
      | .error fault => [fault]
      | .ok target => options.targetFaults place.shownPort target

def untilLast : List PlaceFault → List PlaceFault
  | [] => []
  | fault :: later => if fault.isLast then [fault] else fault :: untilLast later

/-- The members of a list in an option, of which an empty one has none. -/
def members (options : ServerOptions) (name : String) : List String :=
  match options.value name with
  | "" => []
  | text => (Text.pieces ',' text.toList).map String.ofList

def spread (count : Nat) : List String → List String
  | [] => List.replicate count ""
  | [one] => List.replicate count one
  | many => many

def places (options : ServerOptions) : Except ServerFault (List Place) :=
  let hosts := options.members "host"
  let numbers := options.members "hostaddr"
  let ports := options.members "port"
  let count := max 1 (if numbers.isEmpty then hosts.length else numbers.length)
  if !numbers.isEmpty && !hosts.isEmpty && hosts.length ≠ count then
    .error (.unmatchedHosts hosts.length count)
  else if 1 < ports.length && ports.length ≠ count then
    .error (.unmatchedPorts ports.length count)
  else
    .ok ((List.range count).map fun i =>
      ⟨hosts.getD i "", numbers.getD i "", (spread count ports).getD i ""⟩)

/-- The places in the order of the search, which may go over them again for any server. -/
def visits (options : ServerOptions) (places : List Place) : List Place :=
  if options.value? "target_session_attrs" = some "prefer-standby" then places ++ places
  else places

def fault (options : ServerOptions) : ServerFault :=
  match options.value? "service", options.places, options.valueFault? with
  | some service, _, _ => .unknownService service
  | none, .error fault, _ => fault
  | none, .ok _, some fault => fault
  | none, .ok places, none =>
    .notFound (untilLast ((options.visits places).flatMap options.placeFaults))

end ServerOptions

end Paywatch
