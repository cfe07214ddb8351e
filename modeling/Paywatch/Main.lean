import Paywatch.Monitor.Startup
import Paywatch.Settings.Environment

/-!
# The command line

The program reads its settings from the environment and goes through what comes
before the monitor starts.  No driver of a database and no module that offers a
watch is linked into it, so that it ends with the test of the connection.
-/

namespace Paywatch

/-- The outside of a program without a driver of a database. -/
def unlinked : Surroundings where
  connecting := .error (.noModule "psycopg2")
  creating := .error (.noModule "psycopg2")
  adapters := []

def readVariables : IO Environment := do
  let found ← Settings.variableNames.mapM fun name => do return (name, ← IO.getEnv name)
  return fun name => (found.lookup name).join

def writeRecord (record : LogRecord) : IO Unit :=
  IO.eprintln s!"{record.level.text} - {record.text}"

/-- The exit code after the start, which is all that can be done. -/
def runUnlinked : IO UInt32 := do
  match Settings.ofEnvironment (← readVariables) with
  | .error failure =>
    IO.eprintln failure.message
    return 1
  | .ok reading =>
    let (result, log) := Startup.prepare reading.value unlinked []
    (reading.log ++ log).forM writeRecord
    match result with
    | .error failure =>
      IO.eprintln failure.message
      return 1
    | .ok ready => return if ready then 0 else 1

end Paywatch

def main : IO UInt32 :=
  Paywatch.runUnlinked
