import Paywatch.Database.Server.Address
import Paywatch.Database.Server.Written
import Paywatch.Url.Database

/-!
# Requests for a connection to a server

An address of a database on a server gives the options of the connection: some
by its parts, others as options of their own, which win.  Hosts and ports may be
named in several ways.  Before a server is looked for, all options are put into
one text, also those that the address gives as such a text; options that do not
belong into it are used when it has been read.
-/

namespace Paywatch

/-! ## Places in an address -/

/-- Hosts and ports as an address names them; `joined` tells of several that are named together. -/
structure NamedPlaces where
  hosts : List String := []
  ports : List (Option String) := []
  joined : Bool := false
  deriving DecidableEq, Repr

namespace NamedPlaces

def split (mark : Char) (text : String) : List String :=
  (Text.pieces mark text.toList).map String.ofList

def isHostChar (c : Char) : Bool :=
  c.isAlphanum || c = '-' || c = '.'

def dropLineEnd (text : String) : String :=
  if text.endsWith "\n" then String.ofList text.toList.dropLast else text

/-- A single host and the port behind its colon, which may be left out. -/
def splitJoined? (text : String) : Option (String × Option String) :=
  match split ':' (dropLineEnd text) with
  | [host, port] =>
    if host.all isHostChar && port.all fun c => (Text.digitValue? c).isSome then
      some (host, if port.isEmpty then none else some port)
    else none
  | _ => none

def splitPort (text : String) : String × Option String :=
  match split ':' text with
  | host :: port :: _ => (host, some port)
  | _ => (text, none)

def hasMany (text : String) : Bool :=
  2 < (split ':' text).length

/-- The places named by an option for hosts, which may be set more than once; where no option
names the ports, a single host may have its port behind it. -/
def ofHosts (hasPorts : Bool) : List String → Except Failure NamedPlaces
  | [] => .ok {}
  | [text] =>
    match if hasPorts then none else splitJoined? text with
    | some (host, port) => .ok { hosts := [host], ports := [port] }
    | none => .ok { hosts := split ',' text }
  | texts =>
    if texts.all hasMany then .error .manyParts
    else .ok ⟨texts.map (splitPort · |>.1), texts.map (splitPort · |>.2), true⟩

/-- The places with the ports of an option of their own, which may be set more than once. -/
def withPorts (places : NamedPlaces) : List String → Except Failure NamedPlaces
  | [] => .ok places
  | ports =>
    if places.joined then .error (.misplacedServer .mixed)
    else
      let texts := match ports with
        | [text] => split ',' text
        | texts => texts
      .ok { places with ports := texts.map some }

def portNumber? : Option String → Option (Option Int)
  | none => some none
  | some text =>
    if text.isEmpty then some none
    else (Text.readInt text).toOption.map some

def isUnmatched (places : NamedPlaces) : Bool :=
  let hosts := places.hosts.length
  let ports := places.ports.length
  ports ≠ 0 && hosts ≠ ports && (1 < hosts || 1 < ports)

/-- A port in a list of ports; zero stands for the usual one. -/
def portText (port : Option Int) : String :=
  match port.filter (· ≠ 0) with
  | some number => toString number
  | none => ""

/-- Set the places; ports alone stay as they were given. -/
def putInto (places : NamedPlaces) (options : ServerOptions) : Except Failure ServerOptions :=
  match places.ports.mapM portNumber? with
  | none => .error (.misplacedServer (.unreadablePorts places.ports))
  | some numbers =>
    if places.isUnmatched then .error (.misplacedServer .unmatched)
    else if places.hosts.isEmpty then .ok options
    else
      let ports := if numbers.isEmpty then places.hosts.map fun _ => none else numbers
      .ok ((options.put "host" (",".intercalate places.hosts)).putSome "port"
        (",".intercalate (ports.map portText)))

end NamedPlaces

/-! ## Options of an address -/

structure ServerRequest where
  /-- The options that are put into one text. -/
  options : ServerOptions
  /-- The texts that ask for a connection, which there should be one of at most. -/
  texts : List String
  /-- What the options that hold numbers are set to. -/
  numbers : List (List String)
  /-- What is to make the connection. -/
  maker : List String
  deriving DecidableEq, Repr

namespace ServerRequest

def textName : String :=
  "dsn"

def numberNames : List String :=
  ["async", "async_"]

def makerName : String :=
  "connection_factory"

/-- The options that do not belong into the text that asks for a connection. -/
def ownNames : List String :=
  [textName, makerName, "cursor_factory"] ++ numberNames

def optionsOf (url : DatabaseUrl) : Except Failure ServerOptions := do
  let text (part : Option (List Char)) : String := (part.map String.ofList).getD ""
  let parts : ServerOptions := ({} : ServerOptions)
    |>.putSome "host" (text url.host)
    |>.putSome "dbname" (text url.database)
    |>.putSome "user" (text url.username)
    |>.putSome "password" (text url.password)
    |>.putSome "port" (NamedPlaces.portText url.port)
  let options := url.optionNames.foldl (fun options name =>
    options.put name (url.valueText name)) parts
  let ports := url.values "port"
  let places ← NamedPlaces.ofHosts (!ports.isEmpty) (url.values "host")
  (← places.withPorts ports).putInto options

def ofUrl (url : DatabaseUrl) : Except Failure ServerRequest := do
  let options ← optionsOf url
  return {
    options := ownNames.foldl ServerOptions.without options
    texts := url.values textName
    numbers := numberNames.map url.values
    maker := url.values makerName }

/-! ## The text that asks for a connection -/

/-- The character that ends a text. -/
def endMark : Char :=
  '\x00'

def readText (text : String) : Except Failure ServerOptions :=
  let cs := text.toList.takeWhile (· ≠ endMark)
  let refuse (fault : TextFault) : Failure := .unreachable (.unreadable fault)
  match ServerOptions.addressStart? cs with
  | some start => do
    let read ← (AddressOptions.ofAddress cs (cs.drop start.length)).mapError refuse
    read.decode.mapError .undecodable
  | none => (ServerOptions.ofWritten cs).mapError refuse

def nameDatabase (options : ServerOptions) : Except Failure ServerOptions :=
  match options.value? "database" with
  | none => .ok options
  | some database =>
    if (options.value? "dbname").isSome then .error .namedTwice
    else .ok ((options.without "database").put "dbname" database)

def severalType : String :=
  "tuple"

def givenText? (request : ServerRequest) : Except Failure (Option String) :=
  match request.texts with
  | [] => .ok none
  | [text] => .ok (some text)
  | _ => .error (.noText severalType)

/-- The text that asks for the connection, which has to be readable. -/
def text (request : ServerRequest) : Except Failure String := do
  if request.options.entries.isEmpty then
    let given := (← request.givenText?).getD ""
    discard (readText given)
    return given
  let options ← nameDatabase request.options
  let base ← match ← request.givenText? with
    | none => pure {}
    | some given => ServerOptions.inOrder <$> readText given
  return (base.putAll options).written

/-- An option that is set holds a text or several, which are refused by their type. -/
def refuse (failure : String → Failure) : List String → Except Failure Unit
  | [] => .ok ()
  | [_] => .error (failure "str")
  | _ => .error (failure severalType)

def connectionOptions (request : ServerRequest) : Except Failure ServerOptions := do
  let text ← request.text
  let options ← readText text
  if text.toList.contains endMark then throw .endInConnection
  request.numbers.forM (refuse .noWhole)
  refuse (fun typeName => .uncalled (.noFunction typeName)) request.maker
  return options

end ServerRequest

end Paywatch
