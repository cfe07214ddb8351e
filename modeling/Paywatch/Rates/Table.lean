import Paywatch.Failure

/-!
# The table of rates

Rates are recorded with the block at which they were seen, and a later record of
one block supersedes an earlier one.  A rate passes through a double precision
number and comes back with `storedPlaces` decimal places.
-/

namespace Paywatch

/-- A recorded rate: its block, and the rate as it comes back from the table. -/
structure RateRow where
  block : Int
  usdPerBitcoin : Decimal
  deriving DecidableEq, Repr

/-- The recorded rates, the oldest record first. -/
structure RateTable where
  rows : List RateRow := []
  deriving DecidableEq, Repr

namespace RateTable

/-- The decimal places with which a rate comes back. -/
def storedPlaces : Nat := 8

/-- A double precision number as it comes back from the table, unless it is not a number. -/
def readBack? : Double → Option Decimal
  | .nan => none
  | .infinite negative => some (.infinite negative)
  | .finite negative mantissa exponent =>
    some (.finite negative (Double.inPlaces storedPlaces mantissa exponent) (-storedPlaces))

/-- The block numbers that the table can hold and be asked for. -/
def fits (block : Int) : Bool :=
  -0x8000000000000000 ≤ block && block < 0x8000000000000000

/-- A block number that the table can hold. -/
def checkBlock (block : Int) : Except Failure Unit :=
  if fits block then .ok () else .error .heightTooWide

def insert (table : RateTable) (row : RateRow) : RateTable :=
  ⟨table.rows ++ [row]⟩

/-- What cannot be bound is refused before the database sees the statement. -/
def checkBound (block : Int) (rate : Decimal) : Except Failure Unit :=
  if rate.isSignaling then .error (.refused .unbindable (.record block rate)) else .ok ()

def record (table : RateTable) (block : Int) (rate : Decimal) : Except Failure RateTable := do
  checkBound block rate
  checkBlock block
  match readBack? rate.toDouble with
  | some stored => return table.insert ⟨block, stored⟩
  | none => throw (.refused .noRate (.record block rate))

def erase (table : RateTable) (block : Int) : RateTable :=
  ⟨table.rows.filter (·.block ≠ block)⟩

def remove (table : RateTable) (block : Int) : Except Failure RateTable := do
  checkBlock block
  return table.erase block

/-- Of two records the one at the later block, and the second at the same block. -/
def later (best : Option RateRow) (row : RateRow) : Option RateRow :=
  match best with
  | none => some row
  | some b => if b.block ≤ row.block then some row else some b

/-- The last record of the latest block that is not above a height. -/
def latest? (table : RateTable) (height : Int) : Option RateRow :=
  (table.rows.filter (·.block ≤ height)).foldl later none

end RateTable

end Paywatch
