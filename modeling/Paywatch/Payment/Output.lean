/-!
# Payment outputs

A payment reaches an address as one output of a transaction.  The output is
known by its outpoint, the transaction and its place in it, and the network's
confidence in the transaction changes over time.
-/

namespace Paywatch

/-- A transaction and the place of an output in it. -/
structure Outpoint where
  txid : String
  index : Int
  deriving DecidableEq, Repr, Inhabited

def Outpoint.text (o : Outpoint) : String :=
  o.txid ++ ":" ++ toString o.index

/-- How far the network has accepted a transaction. -/
inductive Confidence where
  | unknown
  | pending
  | building
  | dead
  | inConflict
  deriving DecidableEq, Repr, Inhabited

namespace Confidence

def text : Confidence → String
  | unknown => "unknown"
  | pending => "pending"
  | building => "building"
  | dead => "dead"
  | inConflict => "in_conflict"

def all : List Confidence :=
  [unknown, pending, building, dead, inConflict]

def ofText? (s : String) : Option Confidence :=
  all.find? fun c => c.text == s

def isWaiting : Confidence → Bool
  | unknown | pending => true
  | _ => false

/-- The transaction has lost to another one, or is about to. -/
def isTerminal : Confidence → Bool
  | dead | inConflict => true
  | _ => false

end Confidence

/-- An output as it was reported: whom it pays, how much, and its confidence then. -/
structure Output where
  outpoint : Outpoint
  address : String
  satoshi : Int
  confidence : Confidence
  height : Option Int
  deriving DecidableEq, Repr, Inhabited

end Paywatch
