import Paywatch.Decimal.Text
import Paywatch.Log
import Paywatch.Rates.Table

/-!
# Rates by block height

The rate for a block is the latest one recorded at or below it, as long as that
record is not too many blocks older.  A rate recorded at the very block is
final: it is kept and given again without asking the table.
-/

namespace Paywatch

/-- Where asking the table fails: when a session is opened, or when the query runs. -/
inductive QueryStage where
  | opening
  | querying
  deriving DecidableEq, Repr

/-- A fault of the database, and where it strikes. -/
structure QueryFault where
  stage : QueryStage
  failure : Failure
  deriving DecidableEq, Repr

/-- The rates on a table, with the final answers so far and the use of sessions. -/
structure RateService where
  table : RateTable := {}
  maxGap : Int
  final : List (Int × Decimal) := []
  opened : Nat := 0
  closed : Nat := 0
  fault : Option QueryFault := none
  deriving DecidableEq, Repr

/-- What a lookup gives, what the log is told, and the service after it. -/
structure Lookup where
  result : Except Failure Decimal
  log : List LogRecord
  service : RateService

namespace RateService

/-- A failure of the database in the words of the rates; any other stays as it is. -/
def wrapFault (height : Int) (failure : Failure) : Failure :=
  if failure.isStorageFault then .rateQuery height failure.message else failure

/-- Open a session, run the query and close the session again. -/
def query (service : RateService) (height : Int) :
    Except Failure (Option RateRow) × RateService :=
  let opened := { service with opened := service.opened + 1 }
  let both := { opened with closed := opened.closed + 1 }
  match service.fault with
  | some ⟨.opening, failure⟩ => (.error failure, opened)
  | some ⟨.querying, failure⟩ => (.error failure, both)
  | none =>
    match RateTable.checkBlock height with
    | .ok () => (.ok (service.table.latest? height), both)
    | .error failure => (.error failure, both)

def tooOld (service : RateService) (height : Int) (row : RateRow) : LogRecord :=
  ⟨.warning,
    s!"⚠️ EXCHANGE_RATE: Latest rate for block {height} was recorded at block {row.block}, " ++
      s!"{height - row.block} blocks earlier (limit {service.maxGap}); treating as missing", none⟩

def found (height : Int) (row : RateRow) : LogRecord :=
  ⟨.debug,
    s!"EXCHANGE_RATE: block {height} -> {row.usdPerBitcoin.text} USD/BTC " ++
      s!"(recorded at block {row.block})", none⟩

/-- What a record of the table says about a height. -/
def judge (service : RateService) (height : Int) : Option RateRow → Lookup
  | none => ⟨.error (.noRate height), [], service⟩
  | some row =>
    match row.usdPerBitcoin.isPositive with
    | .error signal => ⟨.error (.arithmetic signal), [], service⟩
    | .ok false => ⟨.error (.noRate height), [], service⟩
    | .ok true =>
      if service.maxGap < height - row.block then
        ⟨.error (.noRate height), [service.tooOld height row], service⟩
      else
        let final :=
          if row.block = height then service.final ++ [(height, row.usdPerBitcoin)]
          else service.final
        ⟨.ok row.usdPerBitcoin, [found height row], { service with final := final }⟩

/-- The dollars per bitcoin at a block. -/
def rateAt (service : RateService) (height : Int) : Lookup :=
  match service.final.lookup height with
  | some rate => ⟨.ok rate, [], service⟩
  | none =>
    match service.query height with
    | (.error failure, service) => ⟨.error (wrapFault height failure), [], service⟩
    | (.ok row, service) => service.judge height row

end RateService

end Paywatch
