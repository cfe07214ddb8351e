import Paywatch.Database.Server.Fault

/-!
# Options of a connection to a server

A connection is asked for by options, each a name with a text.  Options keep the
order in which they were first given, and an option that is given again is
changed in its place.
-/

namespace Paywatch

/-- The options of a connection to a server, in the order in which they were first given. -/
structure ServerOptions where
  entries : List (String × String) := []
  deriving DecidableEq, Repr

namespace ServerOptions

def value? (options : ServerOptions) (name : String) : Option String :=
  options.entries.lookup name

def value (options : ServerOptions) (name : String) : String :=
  (options.value? name).getD ""

def put (options : ServerOptions) (name value : String) : ServerOptions :=
  if (options.value? name).isSome then
    ⟨options.entries.map fun entry => if entry.1 = name then (name, value) else entry⟩
  else ⟨options.entries ++ [(name, value)]⟩

def putSome (options : ServerOptions) (name value : String) : ServerOptions :=
  if value.isEmpty then options else options.put name value

def putAll (options others : ServerOptions) : ServerOptions :=
  others.entries.foldl (fun options entry => options.put entry.1 entry.2) options

def without (options : ServerOptions) (name : String) : ServerOptions :=
  ⟨options.entries.filter (·.1 ≠ name)⟩

def names : List String :=
  ["service", "user", "password", "passfile", "channel_binding", "connect_timeout", "dbname",
    "host", "hostaddr", "port", "client_encoding", "options", "application_name",
    "fallback_application_name", "keepalives", "keepalives_idle", "keepalives_interval",
    "keepalives_count", "tcp_user_timeout", "sslmode", "sslnegotiation", "sslcompression",
    "sslcert", "sslkey", "sslcertmode", "sslpassword", "sslrootcert", "sslcrl", "sslcrldir",
    "sslsni", "requirepeer", "require_auth", "ssl_min_protocol_version",
    "ssl_max_protocol_version", "gssencmode", "krbsrvname", "gsslib", "gssdelegation",
    "replication", "target_session_attrs", "load_balance_hosts"]

def inOrder (options : ServerOptions) : ServerOptions :=
  ⟨names.filterMap fun name => (options.value? name).map fun value => (name, value)⟩

/-- The older name of an option on encryption, which is set to yes or no. -/
def olderName : String :=
  "requiressl"

def modeName : String :=
  "sslmode"

/-- What yes and no under the older name stand for. -/
def olderMode (isYes : Bool) : String :=
  if isYes then "require" else "prefer"

/-- Set an option that there has to be; the older name stands for one of two values. -/
def store? (options : ServerOptions) (name value : String) : Option ServerOptions :=
  if name = olderName then some (options.put modeName (olderMode (value.startsWith "1")))
  else if names.contains name then some (options.put name value)
  else none

end ServerOptions

end Paywatch
