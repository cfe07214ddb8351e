import Paywatch.Database.Records
import Paywatch.Feed.Source
import Paywatch.Run
import Paywatch.Settings.Basic

/-!
# Before the monitor starts

The settings are checked, then the database, then the watch is obtained.  The
first of these that goes wrong ends the program, and the log says why.
-/

namespace Paywatch

/-- What the start meets outside: the database, and the modules that offer a watch. -/
structure Surroundings where
  connecting : Except Failure Unit
  creating : Except Failure Unit
  adapters : List Adapter

namespace Startup

def tell (records : List LogRecord) : Run (List LogRecord) Unit :=
  modify (· ++ records)

def problemRecord (problem : String) : LogRecord :=
  ⟨.error, s!"❌ CONFIG: {problem}", none⟩

def noWatchRecord (failure : Failure) : LogRecord :=
  ⟨.error, s!"❌ PAYIN_MONITOR: Could not build blockchain watch: {failure.message}", none⟩

def checkSettings (settings : Settings) : Run (List LogRecord) Bool := do
  let (records, cut) := settings.summary
  tell records
  match cut with
  | some failure => throw failure
  | none =>
    tell (settings.problems.map problemRecord)
    return settings.problems.isEmpty

def checkDatabase (outside : Surroundings) : Run (List LogRecord) Bool := do
  tell [Database.testRecord outside.connecting]
  if !outside.connecting.isOk then return false
  tell [Database.creatingRecord]
  match outside.creating with
  | .ok () => return true
  | .error failure =>
    tell [Database.notCreatedRecord failure]
    return false

def checkWatch (settings : Settings) (outside : Surroundings) : Run (List LogRecord) Bool := do
  match WatchSource.load outside.adapters settings.watchPath settings.network with
  | .ok source =>
    tell source.log
    return true
  | .error failure =>
    tell [noWatchRecord failure]
    return false

/-- Can the monitor start? -/
def prepare (settings : Settings) (outside : Surroundings) : Run (List LogRecord) Bool := do
  if !(← checkSettings settings) then return false
  if !(← checkDatabase outside) then return false
  checkWatch settings outside

end Startup

end Paywatch
