import Paywatch.Database.File.Fault
import Paywatch.Database.Server.Fault
import Paywatch.Database.Tables
import Paywatch.Member
import Paywatch.Payment.Output
import Paywatch.Rates.Statement
import Paywatch.Text.Numeral
import Paywatch.Text.Quoted

/-!
# Failures

Everything that can keep a step from giving its result, by cause.  Some causes
lie outside, in the database, the driver or the action that a notification
calls, and come with a text of their own; the others are this program's, and
`message` words them.  The predicates say which failures a step recovers from.
-/

namespace Paywatch

inductive FaultKind where
  | connection
  | rate
  | storage
  | driver
  | driverDatabase
  | driverInterface
  | driverOperational
  | driverProgramming
  | system
  | key
  | type
  | value
  | state
  deriving DecidableEq, Repr

inductive Failure where
  /-- A fault of an outside part, in its own words. -/
  | fault (kind : FaultKind) (text : String)
  /-- Decimal arithmetic refused the operands. -/
  | arithmetic (signal : Decimal.Signal)
  /-- A text is no decimal. -/
  | unreadableDecimal (misread : Decimal.Misread)
  /-- A text is no whole number. -/
  | unreadableInt (misread : Text.Misread)
  /-- A text names no confidence. -/
  | unknownConfidence (text : String)
  /-- The text of a variable holds the character that ends one. -/
  | endInVariable
  /-- A credit below zero. -/
  | negativeCredit (usd : Decimal) (output : Outpoint)
  /-- A second credit for one output. -/
  | duplicateCredit (output : Outpoint)
  /-- No rate is known for a block. -/
  | noRate (height : Int)
  /-- The rates could not be asked for. -/
  | rateQuery (height : Int) (cause : String)
  /-- A block number that the table cannot hold. -/
  | heightTooWide
  /-- A time of arrival that is not a number. -/
  | timeNotANumber
  /-- A time of arrival that is infinite. -/
  | timeInfinite
  /-- A listener was started twice. -/
  | alreadyRunning (name : String)
  /-- A listener without actions. -/
  | noActions
  /-- A time limit below zero. -/
  | negativeLimit
  /-- A time limit that is not a number. -/
  | limitNotANumber
  /-- A time limit too long for the clock. -/
  | limitTooLong
  /-- The connection for notifications could not be opened. -/
  | openFailed (cause : String)
  /-- A channel could not be subscribed to. -/
  | subscribeFailed (cause : String)
  /-- The connection for notifications broke. -/
  | connectionLost (cause : String)
  /-- There is no connection for notifications. -/
  | notOpen
  /-- Brackets in an address do not enclose its host. -/
  | misplacedBrackets
  /-- A host in brackets begins like one of a later version, and is none. -/
  | malformedVersion
  /-- Four octets stand in brackets. -/
  | bracketedOctets
  /-- What stands in brackets is not the number of a host. -/
  | noHostNumber (host : String)
  /-- The host part of an address holds a character that reads as a delimiter. -/
  | deceptiveHost (host : String)
  /-- A database address that does not have the form of one. -/
  | unreadableAddress
  /-- No address of a database at all. -/
  | noAddress
  /-- No addition to the access to databases has this name in its group. -/
  | noPlugin (group name : String)
  /-- There are more than the two parts that a name may have. -/
  | manyParts
  /-- An address places a database in memory on a server. -/
  | placedMemory (address : String)
  /-- A text is neither a word for yes nor one for no. -/
  | noTruth (text : String)
  /-- A text is no number. -/
  | unreadableDouble (text : String)
  /-- An option that holds a number, or a whole one, is set more than once. -/
  | repeatedOption (isWhole : Bool)
  /-- The number of an option does not fit. -/
  | optionTooWide
  /-- There is no name of a file. -/
  | noFileName
  /-- The name of a file holds the character that ends one. -/
  | endInFileName
  /-- There is no name of a file that options could be added to. -/
  | noFileNameToExtend
  /-- A mode of transactions that there is not. -/
  | unknownIsolation
  /-- A file is not opened. -/
  | unopened (cause : FileFault)
  /-- Bytes that were to be told form no text. -/
  | undecodable (misfit : Text.Misfit)
  /-- Tables cannot be made in a database that is only read. -/
  | readOnly
  /-- The places of a server cannot be told. -/
  | misplacedServer (places : PlacesFault)
  /-- No database address is configured. -/
  | noDatabase
  /-- No server of the database is connected to. -/
  | unreachable (server : ServerFault)
  /-- A database on a server is named under both names that the option has. -/
  | namedTwice
  /-- The text that asks for a connection holds the character that ends one. -/
  | endInConnection
  /-- A value of a type is no text. -/
  | noText (typeName : String)
  /-- A value of a type is no whole number. -/
  | noWhole (typeName : String)
  /-- What is called is no function, or does not take one text. -/
  | uncalled (cause : CallFault)
  /-- The database refuses a statement. -/
  | refused (refusal : Refusal) (statement : RateStatement)
  /-- A watch is named, but not by a module and a function. -/
  | malformedWatch (path : String)
  /-- A module does not exist. -/
  | noModule (name : String)
  /-- A module is named by its place in another one that is not named. -/
  | relativeModule (name : String)
  /-- A module is named as a part of another one that has no parts. -/
  | notAPackage (name whole : String)
  /-- What was named has no such member. -/
  | noMember (owner : Owner) (member : String)
  /-- What was named gave something other than a watch. -/
  | notAWatch (path given : String)
  deriving DecidableEq, Repr

namespace Failure

def signalText : Decimal.Signal → String
  | .invalidOperation => "[<class 'decimal.InvalidOperation'>]"
  | .divisionByZero => "[<class 'decimal.DivisionByZero'>]"
  | .overflow => "[<class 'decimal.Overflow'>]"

def misreadText : Decimal.Misread → String
  | .malformed => "[<class 'decimal.ConversionSyntax'>]"
  | .outOfRange => signalText .invalidOperation

def shownStart (s : String) : String :=
  String.ofList ((Text.quoted s).toList.take 200)

def misreadIntText : Text.Misread → String
  | .malformed text => s!"invalid literal for int() with base 10: {shownStart text}"
  | .tooLong digits =>
    s!"Exceeds the limit ({Text.maxDigits} digits) for integer string conversion: " ++
      s!"value has {digits} digits; use sys.set_int_max_str_digits() to increase the limit"

def unreachableText (fault : ServerFault) : String :=
  if fault.isUnreadable then
    s!"(psycopg2.ProgrammingError) {fault.text}" ++ manualLine programPage
  else s!"(psycopg2.OperationalError) {fault.text}" ++ manualLine operationPage

/-- What is said of a database in memory that cannot be used. -/
def memoryText (text : String) : String :=
  s!"(sqlite3.OperationalError) {text}" ++ manualLine operationPage

/-- What is said of tables that cannot be made in a database that is only read. -/
def readOnlyText : String :=
  memoryText s!"attempt to write a readonly database\n[SQL: {Tables.createInvestors}]"

def misfitText (misfit : Text.Misfit) : String :=
  let last := misfit.position + misfit.bytes.length - 1
  let shown := match misfit.bytes with
    | [byte] =>
      s!"byte 0x{String.ofList (Text.hexDigits 2 byte)} in position {misfit.position}"
    | _ => s!"bytes in position {misfit.position}-{last}"
  let reason :=
    if misfit.isCut then "unexpected end of data"
    else if (misfit.bytes.head?.map Text.isBeginning).getD true then "invalid continuation byte"
    else "invalid start byte"
  s!"'utf-8' codec can't decode {shown}: {reason}"

def noMemberText (member : String) : Owner → String
  | .module path => s!"module '{path}' has no attribute '{member}'"
  | .type name => s!"type object '{name}' has no attribute '{member}'"
  | .value typeName => s!"'{typeName}' object has no attribute '{member}'"
  | .enumeration => member

def addressStart (scheme : String) : String :=
  scheme ++ "://"

def placedMemoryText (address : String) : String :=
  let start := addressStart "sqlite"
  s!"Invalid SQLite URL: {address}\nValid SQLite URL forms are:\n" ++
    s!" {start}/:memory: (or, {start})\n {start}/relative/path/to/file.db\n" ++
    s!" {start}//absolute/path/to/file.db"

def message : Failure → String
  | .fault .key text => Text.quoted text
  | .fault _ text => text
  | .arithmetic signal => signalText signal
  | .unreadableDecimal misread => misreadText misread
  | .unreadableInt misread => misreadIntText misread
  | .unknownConfidence text => s!"{Text.quoted text} is not a valid ConfidenceType"
  | .endInVariable | .endInFileName => "embedded null byte"
  | .negativeCredit usd output => s!"Refusing negative credit {usd.text} for {output.text}"
  | .duplicateCredit output => s!"Output {output.text} has already been credited"
  | .noRate height => s!"No exchange rate for block height {height}"
  | .rateQuery height cause => s!"Exchange rate query failed for block height {height}: {cause}"
  | .heightTooWide => "Python int too large to convert to SQLite INTEGER"
  | .timeNotANumber => "cannot convert float NaN to integer"
  | .timeInfinite => "cannot convert float infinity to integer"
  | .alreadyRunning name => s!"Listener '{name}' is already running"
  | .noActions => "At least one channel action is required"
  | .negativeLimit => "timeout value must be positive"
  | .limitNotANumber => "Invalid value NaN (not a number)"
  | .limitTooLong => "timestamp too large to convert to C _PyTime_t"
  | .openFailed cause => s!"Could not open notification connection: {cause}"
  | .subscribeFailed cause => s!"LISTEN failed: {cause}"
  | .connectionLost cause => s!"Notification connection lost: {cause}"
  | .notOpen => "Notification connection is not open"
  | .misplacedBrackets => "Invalid IPv6 URL"
  | .malformedVersion => "IPvFuture address is invalid"
  | .bracketedOctets => "An IPv4 address cannot be in brackets"
  | .noHostNumber host =>
    s!"{Text.quoted host} does not appear to be an IPv4 or IPv6 address"
  | .deceptiveHost host =>
    s!"netloc '{host}' contains invalid characters under NFKC normalization"
  | .unreadableAddress => "Could not parse SQLAlchemy URL from given URL string"
  | .noAddress => "Expected string or URL object, got None"
  | .noPlugin group name => s!"Can't load plugin: sqlalchemy.{group}:{name}"
  | .manyParts => "too many values to unpack (expected 2)"
  | .placedMemory address => placedMemoryText address
  | .noTruth text => s!"String is not true/false: {Text.quoted text}"
  | .unreadableDouble text => s!"could not convert string to float: {Text.quoted text}"
  | .repeatedOption true =>
    "int() argument must be a string, a bytes-like object or a real number, not 'tuple'"
  | .repeatedOption false => "float() argument must be a string or a real number, not 'tuple'"
  | .optionTooWide => "Python int too large to convert to C int"
  | .noFileName => "expected str, bytes or os.PathLike object, not NoneType"
  | .noFileNameToExtend => "unsupported operand type(s) for +=: 'NoneType' and 'str'"
  | .unknownIsolation =>
    "isolation_level string must be '', 'DEFERRED', 'IMMEDIATE', or 'EXCLUSIVE'"
  | .unopened cause => memoryText (String.ofList (Text.decodeUtf8 cause.bytes))
  | .undecodable misfit => misfitText misfit
  | .readOnly => readOnlyText
  | .misplacedServer places => places.text
  | .noDatabase => "DATABASE_URL environment variable is required"
  | .unreachable server => unreachableText server
  | .namedTwice => "you can't specify both 'database' and 'dbname' arguments"
  | .endInConnection => "embedded null character"
  | .noText typeName => s!"Expected bytes or unicode string, got {typeName} instead"
  | .noWhole typeName => s!"'{typeName}' object cannot be interpreted as an integer"
  | .uncalled cause => cause.text
  | .refused refusal statement => refusal.text statement
  | .malformedWatch path =>
    s!"BLOCKCHAIN_WATCH_FACTORY must look like 'module:callable', got {Text.quoted path}"
  | .noModule name => s!"No module named {Text.quoted name}"
  | .relativeModule name =>
    "the 'package' argument is required to perform a relative import for " ++ Text.quoted name
  | .notAPackage name whole =>
    s!"No module named {Text.quoted name}; {Text.quoted whole} is not a package"
  | .noMember owner member => noMemberText member owner
  | .notAWatch path given => s!"{path} returned {given}, expected a BlockchainWatch"

/-- No rate could be had for a height; the credit waits for one. -/
def isRateFailure : Failure → Bool
  | .noRate _ | .rateQuery .. | .fault .rate _ => true
  | _ => false

def isConnectionLoss : Failure → Bool
  | .openFailed _ | .subscribeFailed _ | .connectionLost _ | .notOpen | .fault .connection _ =>
    true
  | _ => false

def isStorageFault : Failure → Bool
  | .fault .storage _ | .unreachable _ | .refused .. | .unreadableAddress | .noPlugin ..
  | .placedMemory _ | .misplacedServer _ | .unopened _ | .readOnly => true
  | _ => false

def isDriverFault : Failure → Bool
  | .fault kind _ =>
    match kind with
    | .driver | .driverDatabase | .driverInterface | .driverOperational | .driverProgramming =>
      true
    | _ => false
  | _ => false

/-- The driver reported that it cannot work on. -/
def stopsDriver : Failure → Bool
  | .fault .driverOperational _ | .fault .driverInterface _ => true
  | _ => false

/-- Polling cannot go on after the failure: the driver or the system gave up. -/
def breaksPoll : Failure → Bool
  | .fault .driverOperational _ | .fault .driverInterface _ => true
  | .fault .system _ | .fault .value _ => true
  | _ => false

end Failure

def ofArithmetic {α : Type} : Except Decimal.Signal α → Except Failure α
  | .ok value => .ok value
  | .error signal => .error (.arithmetic signal)

end Paywatch
