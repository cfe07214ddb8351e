/-!
# The tables of the database

Two tables are kept: the investors with their pay-in addresses, and the rates of
the blocks.  They are made in this order, so that a database that takes no
tables refuses the first one.
-/

namespace Paywatch

namespace Tables

/-- The names of the tables, in the order in which they are made. -/
def names : List String :=
  ["investor", "exchange_rate"]

def investorLines : List String :=
  ["id INTEGER NOT NULL", "email VARCHAR(255) NOT NULL", "pay_in_bitcoin_address VARCHAR(64)",
    "pay_in_ether_address VARCHAR(64)", "created_at DATETIME DEFAULT CURRENT_TIMESTAMP NOT NULL",
    "PRIMARY KEY (id)", "UNIQUE (email)"]

def createInvestors : String :=
  "\nCREATE TABLE investor (" ++
    ", ".intercalate (investorLines.map ("\n\t" ++ ·)) ++ "\n)\n\n"

end Tables

end Paywatch
