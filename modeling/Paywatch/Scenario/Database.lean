import Paywatch.Database.Basic
import Paywatch.Scenario.Answer
import Paywatch.Settings.Basic

/-!
# Scenarios on the database

Steps configure an address, open and give up the database at it, and record and
look up rates.
-/

namespace Paywatch

namespace Scenario

/-- A step on the database; a rate that is to be recorded may be unreadable. -/
inductive DatabaseOp where
  | configure (address : Option String)
  | require
  | createTables
  | test
  | record (height : Int) (rate : Except Failure Decimal)
  | rateAt (height : Int)
  | dispose

/-- What a step gives back: an answer, or the kind of the open database and its number. -/
inductive DatabaseAnswer where
  | answer (value : Answer)
  | database (number : Nat) (dialect : String)

/-- A database, and the open databases that were looked at, in the order of the first look. -/
structure DatabaseWorld where
  database : Database
  seen : List OpenDatabase := []

def onDatabase {α : Type} (step : Run Database α) : Run DatabaseWorld α :=
  Run.within (·.database) (fun database w => { w with database := database }) step

/-- Look at an open database; its number among those that were looked at. -/
def lookAt (current : OpenDatabase) : Run DatabaseWorld Nat := do
  let seen := (← get).seen
  if !seen.contains current then
    modify fun w => { w with seen := seen ++ [current] }
  return seen.idxOf current

def DatabaseOp.perform : DatabaseOp → Run DatabaseWorld DatabaseAnswer
  | .configure address => do
    onDatabase (modify fun d => { d with address := address })
    return .answer .nothing
  | .require => do
    let current ← onDatabase Database.require
    return .database (← lookAt current) current.dialect
  | .createTables => return .answer (.flag (← onDatabase Database.createTables))
  | .test => return .answer (.flag (← onDatabase Database.test))
  | .record height rate => do
    discard (onDatabase Database.require)
    let rate ← Run.ofExcept rate
    onDatabase (Database.record height rate)
    return .answer .nothing
  | .rateAt height => return .answer (.decimal (← onDatabase (Database.rateAt height)))
  | .dispose => do
    onDatabase Database.dispose
    return .answer .nothing

structure DatabaseStep where
  result : Except Failure DatabaseAnswer
  log : List LogRecord

def runDatabaseFrom (w : DatabaseWorld) : List DatabaseOp → List DatabaseStep
  | [] => []
  | op :: ops =>
    let (result, after) := op.perform w
    ⟨result, after.database.log.drop w.database.log.length⟩ :: runDatabaseFrom after ops

def runDatabase (settings : Settings) (ops : List DatabaseOp) : List DatabaseStep :=
  runDatabaseFrom { database := { maxGap := settings.maxBlockGap } } ops

end Scenario

end Paywatch
