import Paywatch.Double.Text
import Paywatch.Log
import Paywatch.Text.Case
import Paywatch.Url.Split

/-!
# Settings

What an operator chooses: the database and its credentials, the network and the
watch on it, how old a rate may be, and the time limits of the listener.
`problems` lists what is wrong with a choice, and `summary` is what the log
tells of it, which leaves out credentials.
-/

namespace Paywatch

/-- The networks that a watch can usually be on. -/
def usualNetworks : List String :=
  ["mainnet", "testnet", "regtest"]

structure Settings where
  environment : String := "development"
  databaseUser : Option String := none
  databasePassword : Option String := none
  databaseUrl : Option String := none
  network : String := "testnet"
  networks : List String := usualNetworks
  watchPath : String := ""
  maxBlockGap : Int := 144
  pollTimeout : Double := .ofInt 1
  stopTimeout : Double := .ofInt 10
  initialDelay : Double := .ofInt 1
  maxDelay : Double := .ofInt 30
  logLevel : String := "INFO"
  deriving DecidableEq, Repr

namespace Settings

def isProduction (settings : Settings) : Bool :=
  settings.environment == "production"

/-- The address of the database unless it is missing or empty. -/
def databaseUrl? (settings : Settings) : Option String :=
  settings.databaseUrl.filter (!·.isEmpty)

def problemIf (condition : Bool) (text : String) : List String :=
  if condition then [text] else []

/-- The networks that a watch can be on, as a message lists them. -/
def networkNames (settings : Settings) : String :=
  ", ".intercalate settings.networks

def problems (settings : Settings) : List String :=
  problemIf settings.databaseUrl?.isNone "DATABASE_URL is not set" ++
  problemIf (!settings.networks.contains settings.network)
    s!"BITCOIN_NETWORK={Text.quoted settings.network} is not one of {settings.networkNames}" ++
  problemIf (decide (settings.maxBlockGap < 0))
    "EXCHANGE_RATE_MAX_BLOCK_GAP must not be negative" ++
  problemIf (settings.pollTimeout.le (.zero false)) "LISTENER_POLL_TIMEOUT must be positive" ++
  problemIf (settings.initialDelay.le (.zero false))
    "LISTENER_RECONNECT_INITIAL_DELAY must be positive" ++
  problemIf (settings.maxDelay.lt settings.initialDelay)
    "LISTENER_RECONNECT_MAX_DELAY must not be below the initial delay"

/-! ## What the log tells -/

def headLines (settings : Settings) : List LogRecord :=
  [⟨.info, "🔧 Pay-in Monitor Configuration:", none⟩,
    ⟨.info, s!"   Environment: {Text.upper settings.environment}", none⟩,
    ⟨.info, s!"   Bitcoin Network: {settings.network}", none⟩]

/-- The line on the database, which names its host alone. -/
def databaseLine (settings : Settings) : Except Failure LogRecord :=
  match settings.databaseUrl? with
  | none => .ok ⟨.error, "   ❌ Database: NOT CONFIGURED - check DATABASE_URL", none⟩
  | some address => do
    let url ← SplitUrl.ofChars address.toList
    return ⟨.info, s!"   Database Host: {String.ofList url.host}", none⟩

def watchName (settings : Settings) : String :=
  if settings.watchPath.isEmpty then "in-memory (no SPV client configured)"
  else settings.watchPath

def tailLines (settings : Settings) : List LogRecord :=
  [⟨.info, s!"   Exchange Rate Max Block Gap: {settings.maxBlockGap}", none⟩,
    ⟨.info, s!"   Blockchain Watch: {settings.watchName}", none⟩,
    ⟨.info,
      s!"   Listener: poll={settings.pollTimeout.text}s stop={settings.stopTimeout.text}s " ++
        s!"backoff={settings.initialDelay.text}s..{settings.maxDelay.text}s", none⟩]

def summary (settings : Settings) : List LogRecord × Option Failure :=
  match settings.databaseLine with
  | .ok line => (settings.headLines ++ line :: settings.tailLines, none)
  | .error failure => (settings.headLines, some failure)

end Settings

end Paywatch
