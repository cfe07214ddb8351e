/-!
# Currencies

An investor can be assigned a pay-in address in either currency.  The name of a
currency is also the channel on which its new addresses are announced.
-/

namespace Paywatch

inductive Currency where
  | bitcoin
  | ether
  deriving DecidableEq, Repr

namespace Currency

/-- Both currencies, in the order in which their channels are bound. -/
def all : List Currency :=
  [bitcoin, ether]

def text : Currency → String
  | bitcoin => "bitcoin"
  | ether => "ether"

def ofText? (text : String) : Option Currency :=
  all.find? (·.text == text)

theorem ofText?_text (currency : Currency) : ofText? currency.text = some currency := by
  cases currency <;> decide

end Currency

end Paywatch
