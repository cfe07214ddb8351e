import Paywatch.Database.Dialect
import Paywatch.Database.Memory
import Paywatch.Database.Records
import Paywatch.Database.Server.Place
import Paywatch.Database.Server.Request
import Paywatch.Rates.Service
import Paywatch.Run

/-!
# The use of the database

The database is opened when it is first needed, at the address that is then
configured, and stays open until it is given up.  A database in memory loses its
tables with that.  The only other kind known here is one on a server that does
not answer.
-/

namespace Paywatch

inductive DatabaseAccess where
  | memory (options : MemoryOptions)
  | server (request : ServerRequest)
  deriving DecidableEq, Repr

/-- An open database: its number in the order of opening, its kind, and the way to it. -/
structure OpenDatabase where
  number : Nat
  dialect : String
  access : DatabaseAccess
  deriving DecidableEq, Repr

/-- The configured address, the open database with its table of rates, and the log. -/
structure Database where
  address : Option String := none
  opened : Nat := 0
  current : Option OpenDatabase := none
  hasTables : Bool := false
  rates : RateTable := {}
  maxGap : Int
  log : List LogRecord := []

namespace DatabaseAccess

def memoryDialect : String :=
  "sqlite"

def ofUrl (dialect : String) (url : DatabaseUrl) : Except Failure DatabaseAccess :=
  if dialect = memoryDialect then (MemoryOptions.ofUrl url).map memory
  else (ServerRequest.ofUrl url).map server

/-- Connect to a database, which no server lets happen; may it only be read? -/
def isReadOnly : DatabaseAccess → Except Failure Bool
  | memory options => options.isReadOnly
  | server request => do
    throw (.unreachable (← request.connectionOptions).fault)

end DatabaseAccess

namespace OpenDatabase

def pluginOptions : List String :=
  ["plugin", "plugins"]

def checkPlugins (url : DatabaseUrl) : Except Failure Unit :=
  match url.values "plugin" with
  | [] => .ok ()
  | name :: _ => .error (.noPlugin "plugins" name)

def ofAddress (number : Nat) (address : String) : Except Failure OpenDatabase := do
  let url ← DatabaseUrl.ofChars address.toList
  checkPlugins url
  let dialect ← DatabaseDriver.dialectOf url.name
  return ⟨number, dialect, ← DatabaseAccess.ofUrl dialect (url.without pluginOptions)⟩

end OpenDatabase

namespace Database

def tell (record : LogRecord) : Run Database Unit :=
  modify fun d => { d with log := d.log ++ [record] }

def require : Run Database OpenDatabase := do
  let d ← get
  match d.current, d.address.filter (!·.isEmpty) with
  | some current, _ => return current
  | none, none => throw .noDatabase
  | none, some address =>
    let current ← Run.ofExcept (OpenDatabase.ofAddress d.opened address)
    modify fun d => { d with opened := d.opened + 1, current := some current }
    return current

def isReadOnly : Run Database Bool := do
  let current ← require
  Run.ofExcept current.access.isReadOnly

def connect : Run Database Unit := do
  discard isReadOnly

def test : Run Database Bool := do
  let result ← Run.attempt connect
  tell (testRecord result)
  return result.isOk

/-- Make the tables that are missing; did that succeed? -/
def createTables : Run Database Bool := do
  let result ← Run.attempt do
    discard require
    tell creatingRecord
    if ← isReadOnly then throw .readOnly
    modify fun d => { d with hasTables := true }
  match result with
  | .ok () => return true
  | .error failure =>
    tell (notCreatedRecord failure)
    return false

def reach (statement : RateStatement) : Run Database Unit := do
  connect
  if !(← get).hasTables then throw (.refused .noTable statement)

def record (height : Int) (rate : Decimal) : Run Database Unit := do
  connect
  Run.ofExcept (RateTable.checkBound height rate)
  reach (.record height rate)
  let table ← Run.ofExcept ((← get).rates.record height rate)
  modify fun d => { d with rates := table }

def obstacle? (height : Int) : Run Database (Option QueryFault) := do
  match ← Run.attempt require with
  | .error failure => return some ⟨.opening, failure⟩
  | .ok _ =>
    match ← Run.attempt (reach (.latest height)) with
    | .error failure => return some ⟨.querying, failure⟩
    | .ok () => return none

def rateAt (height : Int) : Run Database Decimal := do
  let fault ← obstacle? height
  let d ← get
  let service : RateService := { table := d.rates, maxGap := d.maxGap, fault := fault }
  let lookup := service.rateAt height
  modify fun d => { d with log := d.log ++ lookup.log }
  Run.ofExcept lookup.result

def dispose : Run Database Unit := do
  if (← get).current.isSome then
    tell disposedRecord
    modify fun d => { d with current := none, hasTables := false, rates := {} }

end Database

end Paywatch
