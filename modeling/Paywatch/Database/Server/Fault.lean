import Paywatch.Text.Quoted

/-!
# Servers that are not reached

No server answers here, so that every attempt to connect to one fails.  What is
told of it depends on how the connection was asked for: on the text that asks
for it, on the values of its options, and on the places at which the server is
looked for, one after the other.
-/

namespace Paywatch

/-- Why the text that asks for a connection cannot be read. -/
inductive TextFault where
  /-- There is no such option. -/
  | unknownOption (name : String)
  /-- A name without a value. -/
  | noValue (name : String)
  /-- A quote that is not closed. -/
  | openQuote
  /-- An address asks for an option that there is not. -/
  | unknownParameter (name : String)
  /-- An option in an address has a second value. -/
  | secondValue (name : String)
  /-- An option in an address has no value. -/
  | noParameterValue (name : String)
  /-- A percent sign without two digits after it. -/
  | malformedPercent (text : String)
  /-- The end of a text in percent form. -/
  | encodedEnd (text : String)
  /-- A bracket around a host that is not closed. -/
  | openBracket (address : String)
  /-- Brackets around no host. -/
  | emptyBrackets (address : String)
  /-- A character after the brackets around a host that cannot stand there. -/
  | stray (character : String) (position : Nat) (address : String)
  deriving DecidableEq, Repr

inductive SocketFault where
  /-- There is nothing at the path. -/
  | missing
  /-- Nobody answers, although such a socket needs no path. -/
  | refused
  /-- A part of the path is no folder. -/
  | noFolder
  deriving DecidableEq, Repr

inductive HostFault where
  /-- There is no way to the host. -/
  | noRoute
  /-- There is no way back from the host. -/
  | noSender
  /-- The host is on a link that is not told. -/
  | noLink
  /-- An option of the connection is no number. -/
  | unreadableOption (name value : String)
  /-- The system refuses a setting of the connection. -/
  | refusedSetting (setting : String)
  deriving DecidableEq, Repr

inductive LookupFault where
  /-- Nobody can be asked for the name. -/
  | unanswered
  /-- There cannot be such a name. -/
  | unknown
  deriving DecidableEq, Repr

/-- Why a server is not found at one place. -/
inductive PlaceFault where
  /-- The port is no number. -/
  | unreadablePort (port : String)
  /-- The port is a number that no port has. -/
  | noPort (port : String)
  /-- The path of a socket is longer than such a path can be. -/
  | longPath (path : String)
  /-- The number of a host does not have the form of one. -/
  | noNumber (number : String)
  /-- The name of a host stands for no number. -/
  | unknownHost (host : String) (fault : LookupFault)
  /-- A connection through a socket cannot be encrypted by tickets. -/
  | plainSocket
  /-- There are no tickets for the encryption that is asked for. -/
  | noTickets
  /-- The connection through a socket fails. -/
  | socket (path : String) (fault : SocketFault)
  /-- The connection to a host with a number, which may be its name, fails. -/
  | host (name number port : String) (fault : HostFault)
  deriving DecidableEq, Repr

inductive EncryptionDemand where
  /-- The connection is encrypted from its first byte. -/
  | direct
  /-- The server shows a certificate that the system trusts. -/
  | trusted
  deriving DecidableEq, Repr

inductive ServerFault where
  /-- The text that asks for the connection cannot be read. -/
  | unreadable (fault : TextFault)
  /-- No service has this name. -/
  | unknownService (name : String)
  /-- There are not as many numbers of hosts as hosts. -/
  | unmatchedHosts (hosts numbers : Nat)
  /-- There are not as many ports as hosts. -/
  | unmatchedPorts (ports hosts : Nat)
  /-- A method is ruled out beside others that are asked for. -/
  | ruledOut (method : String)
  /-- A method is asked for beside others that are ruled out. -/
  | askedFor (method : String)
  /-- A method is given twice. -/
  | repeatedMethod (method : String)
  /-- An option does not have such a value. -/
  | unknownValue (option value : String)
  /-- No version has this name. -/
  | unknownVersion (option value : String)
  /-- The least version is later than the greatest. -/
  | emptyRange
  /-- The encryption is too weak for what else is asked for. -/
  | weakMode (mode : String) (demand : EncryptionDemand)
  /-- The server is at none of the places. -/
  | notFound (faults : List PlaceFault)
  deriving DecidableEq, Repr

/-- Why the places in an address cannot be told. -/
inductive PlacesFault where
  /-- Ports are given both with the hosts and apart from them. -/
  | mixed
  /-- Not all ports are numbers. -/
  | unreadablePorts (ports : List (Option String))
  /-- There are not as many ports as hosts. -/
  | unmatched
  deriving DecidableEq, Repr

namespace TextFault

def text : TextFault → String
  | unknownOption name => s!"invalid connection option \"{name}\""
  | noValue name => s!"missing \"=\" after \"{name}\" in connection info string"
  | openQuote => "unterminated quoted string in connection info string"
  | unknownParameter name => s!"invalid URI query parameter: \"{name}\""
  | secondValue name => s!"extra key/value separator \"=\" in URI query parameter: \"{name}\""
  | noParameterValue name =>
    s!"missing key/value separator \"=\" in URI query parameter: \"{name}\""
  | malformedPercent text => s!"invalid percent-encoded token: \"{text}\""
  | encodedEnd text => s!"forbidden value %00 in percent-encoded value: \"{text}\""
  | openBracket address =>
    "end of string reached when looking for matching \"]\" in IPv6 host address in URI: " ++
      s!"\"{address}\""
  | emptyBrackets address => s!"IPv6 host address may not be empty in URI: \"{address}\""
  | stray character position address =>
    s!"unexpected character \"{character}\" at position {position} in URI " ++
      s!"(expected \":\" or \"/\"): \"{address}\""

end TextFault

def SocketFault.text : SocketFault → String
  | missing => "No such file or directory"
  | refused => "Connection refused"
  | noFolder => "Not a directory"

def HostFault.question : String :=
  "\n\tIs the server running on that host and accepting TCP/IP connections?"

def HostFault.text : HostFault → String
  | noRoute => "Network is unreachable" ++ question
  | noSender => "Cannot assign requested address" ++ question
  | noLink => "Invalid argument" ++ question
  | unreadableOption name value =>
    s!"invalid integer value \"{value}\" for connection option \"{name}\""
  | refusedSetting setting => s!"setsockopt({setting}) failed: Invalid argument"

def LookupFault.text : LookupFault → String
  | unanswered => "Temporary failure in name resolution"
  | unknown => "Name or service not known"

namespace PlaceFault

def longestPath : Nat :=
  107

/-- Where a connection to a host was tried; its number is told when it is not its name. -/
def hostText (name number port : String) : String :=
  if number = name then s!"server at \"{name}\", port {port}"
  else s!"server at \"{name}\" ({number}), port {port}"

def text : PlaceFault → String
  | unreadablePort port => s!"invalid integer value \"{port}\" for connection option \"port\""
  | noPort port => s!"invalid port number: \"{port}\""
  | longPath path =>
    s!"Unix-domain socket path \"{path}\" is too long (maximum {longestPath} bytes)"
  | noNumber number =>
    s!"could not parse network address \"{number}\": {LookupFault.unknown.text}"
  | unknownHost name fault =>
    s!"could not translate host name \"{name}\" to address: {fault.text}"
  | plainSocket => "GSSAPI encryption required but it is not supported over a local socket"
  | noTickets => "GSSAPI encryption required but no credential cache"
  | socket path fault =>
    s!"connection to server on socket \"{path}\" failed: {fault.text}\n\t" ++
      "Is the server running locally and accepting connections on that socket?"
  | host name number port fault =>
    s!"connection to {hostText name number port} failed: {fault.text}"

/-- Does the search end with the fault, instead of going on at the next place? -/
def isLast : PlaceFault → Bool
  | unreadablePort _ | plainSocket | noTickets => true
  | _ => false

end PlaceFault

/-- Why encryption of too weak a kind will not do. -/
def EncryptionDemand.text : EncryptionDemand → String
  | direct => "sslnegotiation=direct (use \"require\", \"verify-ca\", or \"verify-full\")"
  | trusted => "sslrootcert=system (use \"verify-full\")"

namespace ServerFault

def lines : ServerFault → List String
  | unreadable fault => ["invalid dsn: " ++ fault.text]
  | unknownService name => [s!"definition of service \"{name}\" not found"]
  | unmatchedHosts hosts numbers =>
    [s!"could not match {hosts} host names to {numbers} hostaddr values"]
  | unmatchedPorts ports hosts => [s!"could not match {ports} port numbers to {hosts} hosts"]
  | ruledOut method =>
    [s!"negative require_auth method \"{method}\" cannot be mixed with non-negative methods"]
  | askedFor method =>
    [s!"require_auth method \"{method}\" cannot be mixed with negative methods"]
  | repeatedMethod method => [s!"require_auth method \"{method}\" is specified more than once"]
  | unknownValue option value => [s!"invalid {option} value: \"{value}\""]
  | unknownVersion option value => [s!"invalid \"{option}\" value: \"{value}\""]
  | emptyRange => ["invalid SSL protocol version range"]
  | weakMode mode demand => [s!"weak sslmode \"{mode}\" may not be used with {demand.text}"]
  | notFound faults => faults.map PlaceFault.text

def text (fault : ServerFault) : String :=
  String.join (fault.lines.map (· ++ "\n"))

/-- Was the connection asked for in words that cannot be read? -/
def isUnreadable : ServerFault → Bool
  | unreadable _ => true
  | _ => false

end ServerFault

namespace PlacesFault

def text : PlacesFault → String
  | mixed =>
    "Can't mix 'multihost' formats together; use \"host=h1,h2,h3&port=p1,p2,p3\" or " ++
      "\"host=h1:p1&host=h2:p2&host=h3:p3\" separately"
  | unreadablePorts ports => s!"Received non-integer port arguments: {Text.quotedAll ports}"
  | unmatched => "number of hosts and ports don't match"

end PlacesFault

end Paywatch
