import Paywatch.Rates.Service

/-!
# Sources of rates

Rates come from the service over the table, or from a plain list of heights that
knows those heights and no others.
-/

namespace Paywatch

/-- Rates by exact height, the latest entry first, and a failure of every lookup. -/
structure RateList where
  entries : List (Int × Decimal) := []
  failure : Option Failure := none
  deriving DecidableEq, Repr

namespace RateList

def rateAt (list : RateList) (height : Int) : Except Failure Decimal :=
  match list.failure with
  | some failure => .error failure
  | none =>
    match list.entries.lookup height with
    | some rate => .ok rate
    | none => .error (.noRate height)

def record (list : RateList) (height : Int) (rate : Decimal) : RateList :=
  { list with entries := (height, rate) :: list.entries }

def erase (list : RateList) (height : Int) : RateList :=
  { list with entries := list.entries.filter (·.1 ≠ height) }

end RateList

inductive RateSource where
  | listed (rates : RateList)
  | recorded (service : RateService)
  deriving DecidableEq, Repr

namespace RateSource

def rateAt (source : RateSource) (height : Int) :
    Except Failure Decimal × List LogRecord × RateSource :=
  match source with
  | .listed rates => (rates.rateAt height, [], source)
  | .recorded service =>
    let lookup := service.rateAt height
    (lookup.result, lookup.log, .recorded lookup.service)

def record (source : RateSource) (height : Int) (rate : Decimal) : Except Failure RateSource :=
  match source with
  | .listed rates => .ok (.listed (rates.record height rate))
  | .recorded service => do
    return .recorded { service with table := ← service.table.record height rate }

def erase (source : RateSource) (height : Int) : Except Failure RateSource :=
  match source with
  | .listed rates => .ok (.listed (rates.erase height))
  | .recorded service => do
    return .recorded { service with table := ← service.table.remove height }

/-- The source with every lookup failing, or with none; a list has no stages. -/
def withFault (source : RateSource) (fault : Option QueryFault) : RateSource :=
  match source with
  | .listed rates => .listed { rates with failure := fault.map (·.failure) }
  | .recorded service => .recorded { service with fault := fault }

end RateSource

end Paywatch
