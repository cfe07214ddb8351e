import Paywatch.Currency
import Paywatch.Database.Statement
import Paywatch.Log

/-!
# The trigger on the investors

A trigger of the database announces the pay-in addresses of an investor, each on
the channel of its currency, whenever one of them is updated.  Function and
trigger are replaced in a single transaction, so that every concurrent update
sees a trigger and installing them again does no harm.
-/

namespace Paywatch

namespace Trigger

def name : String :=
  "notify_new_payin_address"

def column : Currency → String
  | .bitcoin => "pay_in_bitcoin_address"
  | .ether => "pay_in_ether_address"

def announcement (currency : Currency) : String :=
  s!"  PERFORM pg_notify(CAST('{currency.text}' AS TEXT), NEW.{column currency});\n"

def createFunction : String :=
  s!"\nCREATE OR REPLACE FUNCTION {name}()\nRETURNS TRIGGER AS $$\nBEGIN\n" ++
    String.join (Currency.all.map announcement) ++
    "  RETURN NEW;\nEND;\n$$ LANGUAGE plpgsql;\n"

def dropTrigger : String :=
  s!"DROP TRIGGER IF EXISTS {name} ON investor;"

def createTrigger : String :=
  s!"\nCREATE TRIGGER {name}\n" ++
    s!"  AFTER UPDATE OF {column .ether}, {column .bitcoin} ON investor\n" ++
    s!"  FOR EACH ROW\n  EXECUTE PROCEDURE {name}();\n"

def statements : List String :=
  [createFunction, dropTrigger, createTrigger]

def installedRecord : LogRecord :=
  ⟨.info, s!"✅ DATABASE_WATCHER: Trigger '{name}' installed on investor", none⟩

def install (fault : Option StatementFault) :
    List TransactionEvent × Except Failure LogRecord :=
  let (events, result) := TransactionEvent.transaction fault statements
  (events, result.map fun _ => installedRecord)

end Trigger

end Paywatch
