import Paywatch.Payment.Tracking

/-!
# Answers of a scenario

What the single steps of a scenario give back.
-/

namespace Paywatch

namespace Scenario

/-- What a step of a scenario gives back. -/
inductive Answer where
  | nothing
  | flag (value : Bool)
  | count (value : Nat)
  | decimal (value : Decimal)
  | addresses (entries : List Watched)
  | outputs (delivered : List Output)
  | handle (id : Nat) (output : Outpoint)
  | standing (state : Option Standing) (processed : Bool)
  | names (channels : List String)
  deriving DecidableEq, Repr

end Scenario

end Paywatch
