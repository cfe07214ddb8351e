import Paywatch.Rates.Source
import Paywatch.Scenario.Answer

/-!
# Scenarios on the rates

Steps on a service of rates over a table: lookups, changes of the table behind
its back, and faults of the database.
-/

namespace Paywatch

namespace Scenario

inductive RateOp where
  | rateAt (height : Int)
  | record (height : Int) (rate : Decimal)
  | erase (height : Int)
  | fault (planned : Option QueryFault)
  /-- A step that cannot be read. -/
  | unreadable (failure : Failure)
  deriving DecidableEq, Repr

/-- A step with its outcome, the log of it, and the use of sessions after it. -/
structure RateStep where
  result : Except Failure Answer
  log : List LogRecord
  opened : Nat
  closed : Nat

def RateOp.perform (service : RateService) :
    RateOp → Except Failure Answer × List LogRecord × RateService
  | .rateAt height =>
    let lookup := service.rateAt height
    (lookup.result.map .decimal, lookup.log, lookup.service)
  | .record height rate =>
    match service.table.record height rate with
    | .ok table => (.ok .nothing, [], { service with table := table })
    | .error failure => (.error failure, [], service)
  | .erase height =>
    match service.table.remove height with
    | .ok table => (.ok .nothing, [], { service with table := table })
    | .error failure => (.error failure, [], service)
  | .fault planned => (.ok .nothing, [], { service with fault := planned })
  | .unreadable failure => (.error failure, [], service)

def runRates (service : RateService) : List RateOp → List RateStep
  | [] => []
  | op :: ops =>
    let (result, log, after) := op.perform service
    ⟨result, log, after.opened, after.closed⟩ :: runRates after ops

/-- A table with the given rows, unless one of them cannot be read or recorded. -/
def tableOf (rows : List (Int × Except Failure Decimal)) : Except Failure RateTable :=
  rows.foldlM (fun table (block, rate) => do table.record block (← rate)) {}

def listOf (rates : List (Int × Except Failure Decimal)) : Except Failure RateList := do
  let entries ← rates.mapM fun (height, rate) => do return (height, ← rate)
  return { entries := entries.reverse }

end Scenario

end Paywatch
