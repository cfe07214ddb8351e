import Paywatch.Settings.Basic
import Paywatch.Text.Numeral
import Paywatch.Url.Credentials

/-!
# Settings from the environment

Every setting is a variable of the environment.  A number that is missing or
blank keeps its default; one that cannot be read keeps it with a warning.
-/

namespace Paywatch

abbrev Environment : Type :=
  String → Option String

/-- The character that ends the text of a variable, and so cannot stand in it. -/
def variableEnd : Char :=
  '\x00'

/-- What a variable can hold. -/
def checkVariable (raw : Option String) : Except Failure Unit :=
  if (raw.getD "").toList.contains variableEnd then .error .endInVariable else .ok ()

structure Reading (α : Type) where
  value : α
  log : List LogRecord := []

def readNumeral {α : Type} (read? : String → Option α) (kind : String) (render : α → String)
    (name : String) (raw : Option String) (default : α) : Reading α :=
  match raw with
  | none => ⟨default, []⟩
  | some text =>
    if Text.isBlankText text then ⟨default, []⟩
    else match read? text with
      | some value => ⟨value, []⟩
      | none =>
        ⟨default, [⟨.warning,
          s!"⚠️ CONFIG: {name}={Text.quoted text} is not {kind}, using default {render default}",
          none⟩]⟩

def readWhole (name : String) (raw : Option String) (default : Int) : Reading Int :=
  readNumeral (Text.readInt · |>.toOption) "an integer" toString name raw default

def readFloating (name : String) (raw : Option String) (default : Double) : Reading Double :=
  readNumeral Text.readDouble? "a number" Double.text name raw default

namespace Settings

/-- A word from a variable, in lower case and without blanks around it. -/
def readWord (raw : Option String) (default : String) : String :=
  Text.strip (Text.lower (raw.getD default))

def variableNames : List String :=
  ["ENVIRONMENT", "DATASOURCE_USERNAME", "DATASOURCE_PASSWORD", "DATABASE_URL",
    "BITCOIN_NETWORK", "BLOCKCHAIN_WATCH_FACTORY", "EXCHANGE_RATE_MAX_BLOCK_GAP",
    "LISTENER_POLL_TIMEOUT", "LISTENER_STOP_TIMEOUT", "LISTENER_RECONNECT_INITIAL_DELAY",
    "LISTENER_RECONNECT_MAX_DELAY", "LOG_LEVEL"]

/-- The settings of an environment, unless the address of the database cannot be read. -/
def ofEnvironment (env : Environment) : Except Failure (Reading Settings) := do
  variableNames.forM fun name => checkVariable (env name)
  let user := env "DATASOURCE_USERNAME"
  let password := env "DATASOURCE_PASSWORD"
  let databaseUrl ← withCredentials (env "DATABASE_URL") user password
  let whole (name : String) := readWhole name (env name)
  let floating (name : String) := readFloating name (env name)
  let gap := whole "EXCHANGE_RATE_MAX_BLOCK_GAP" 144
  let poll := floating "LISTENER_POLL_TIMEOUT" (.ofInt 1)
  let stop := floating "LISTENER_STOP_TIMEOUT" (.ofInt 10)
  let initial := floating "LISTENER_RECONNECT_INITIAL_DELAY" (.ofInt 1)
  let greatest := floating "LISTENER_RECONNECT_MAX_DELAY" (.ofInt 30)
  return {
    value := {
      environment := readWord (env "ENVIRONMENT") "development"
      databaseUser := user
      databasePassword := password
      databaseUrl := databaseUrl
      network := readWord (env "BITCOIN_NETWORK") "testnet"
      watchPath := (env "BLOCKCHAIN_WATCH_FACTORY").getD ""
      maxBlockGap := gap.value
      pollTimeout := poll.value
      stopTimeout := stop.value
      initialDelay := initial.value
      maxDelay := greatest.value
      logLevel := Text.upper ((env "LOG_LEVEL").getD "INFO") }
    log := gap.log ++ poll.log ++ stop.log ++ initial.log ++ greatest.log }

end Settings

end Paywatch
