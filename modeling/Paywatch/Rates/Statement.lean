import Paywatch.Decimal.Text
import Paywatch.Double.Text

/-!
# Statements on the table of rates

One statement records the rate of a block, another looks for the latest rate at
or below a block.  A rate is bound as a double precision number.  When the
database refuses a statement, the refusal is shown with the statement, with what
was bound to it, and with the page of the manual that explains it.
-/

namespace Paywatch

def Decimal.toDouble : Decimal → Double
  | .nan .. => .nan
  | .infinite negative => .infinite negative
  | .finite negative coefficient exponent => .ofScientific negative coefficient exponent

inductive RateStatement where
  | record (block : Int) (usdPerBitcoin : Decimal)
  | latest (height : Int)
  deriving DecidableEq, Repr

inductive Refusal where
  /-- The table has not been made. -/
  | noTable
  /-- What is not a number is stored as no rate at all, and a record needs one. -/
  | noRate
  /-- A signaling diagnostic cannot be bound. -/
  | unbindable
  deriving DecidableEq, Repr

namespace RateStatement

/-- The statement in the language of the database. -/
def sql : RateStatement → String
  | record .. =>
    "INSERT INTO exchange_rate (block_nr_btc, usd_per_btc) VALUES (?, ?) " ++
      "RETURNING id, created_at"
  | latest _ =>
    "SELECT exchange_rate.block_nr_btc, exchange_rate.usd_per_btc \n" ++
      "FROM exchange_rate \nWHERE exchange_rate.block_nr_btc <= ? " ++
      "ORDER BY exchange_rate.block_nr_btc DESC, exchange_rate.id DESC\n LIMIT ? OFFSET ?"

def bound : RateStatement → List String
  | record block usdPerBitcoin => [toString block, usdPerBitcoin.toDouble.text]
  | latest height => [toString height, "1", "0"]

def unbound : RateStatement → String
  | record block usdPerBitcoin =>
    s!"\x7b'usd_per_btc': Decimal('{usdPerBitcoin.text}'), 'block_nr_btc': {block}\x7d"
  | latest height => s!"\x7b'block_nr_btc_1': {height}\x7d"

/-- The greatest length in which parameters are shown whole. -/
def wholeLength : Nat :=
  300

/-- Parameters as they are shown: of a long text only its two ends. -/
def shownParameter (text : String) : String :=
  let cs := text.toList
  if cs.length ≤ wholeLength then text
  else
    let half := wholeLength / 2
    String.ofList (cs.take half) ++
      s!" ... ({cs.length - wholeLength} characters truncated) ... " ++
      String.ofList (cs.drop (cs.length - half))

def boundText (statement : RateStatement) : String :=
  let shown := ", ".intercalate (statement.bound.map shownParameter)
  s!"({shown})"

def unboundText (statement : RateStatement) : String :=
  s!"[{shownParameter statement.unbound}]"

end RateStatement

/-- Where the pages of the manual are found: scheme, host and path. -/
def manual : String :=
  "https" ++ "://" ++ "sqlalche.me" ++ "/e/21/"

def manualLine (page : String) : String :=
  s!"\n(Background on this error at: {manual}{page})"

/-- The page of the manual on a database that cannot be used. -/
def operationPage : String :=
  "e3q8"

/-- The page of the manual on what was asked in a wrong way. -/
def programPage : String :=
  "f405"

/-- The page of the manual on a record that breaks a rule of its table. -/
def integrityPage : String :=
  "gkpj"

namespace Refusal

def reason : Refusal → String
  | noTable => "(sqlite3.OperationalError) no such table: exchange_rate"
  | noRate => "(sqlite3.IntegrityError) NOT NULL constraint failed: exchange_rate.usd_per_btc"
  | unbindable => "(builtins.ValueError) cannot convert signaling NaN to float"

def pageLine : Refusal → String
  | noTable => manualLine operationPage
  | noRate => manualLine integrityPage
  | unbindable => ""

def parameters (refusal : Refusal) (statement : RateStatement) : String :=
  if refusal = unbindable then statement.unboundText else statement.boundText

def text (refusal : Refusal) (statement : RateStatement) : String :=
  s!"{refusal.reason}\n[SQL: {statement.sql}]\n[parameters: {refusal.parameters statement}]" ++
    refusal.pageLine

end Refusal

end Paywatch
