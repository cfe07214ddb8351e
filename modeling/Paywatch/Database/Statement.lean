import Paywatch.Failure

/-!
# Statements on the database

Statements are executed one after the other until one of them fails.  A
transaction is committed when all of its statements have been executed, and
rolled back otherwise.
-/

namespace Paywatch

/-- A failure of the statement before which so many others have been executed. -/
structure StatementFault where
  after : Nat
  failure : Failure
  deriving DecidableEq, Repr

/-- The failure as it is when some statements have been executed, unless it lies behind them. -/
def StatementFault.beyond (fault : StatementFault) (executed : Nat) : Option StatementFault :=
  if executed ≤ fault.after then some { fault with after := fault.after - executed } else none

inductive TransactionEvent where
  | began
  | executed (statement : String)
  | committed
  | rolledBack
  deriving DecidableEq, Repr

namespace TransactionEvent

/-- The statements of a transaction that are executed, and the failure of the one after them. -/
def execute (fault : Option StatementFault) (statements : List String) :
    List String × Option Failure :=
  match fault with
  | none => (statements, none)
  | some ⟨after, failure⟩ =>
    if after < statements.length then (statements.take after, some failure)
    else (statements, none)

def transaction (fault : Option StatementFault) (statements : List String) :
    List TransactionEvent × Except Failure Unit :=
  match execute fault statements with
  | (done, none) => (began :: done.map executed ++ [committed], .ok ())
  | (done, some failure) => (began :: done.map executed ++ [rolledBack], .error failure)

end TransactionEvent

end Paywatch
