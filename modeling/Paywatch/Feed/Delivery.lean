import Paywatch.Feed.Basic
import Paywatch.Run

/-!
# Delivery

Outputs and changes of confidence are delivered to the callbacks that are
registered when a delivery begins.  A callback may do anything to the state that
holds the feed, and so register and remove callbacks; that does not change the
delivery under way.  A callback that fails ends it.
-/

namespace Paywatch

namespace Feed

variable {σ κ : Type}

/-- Deliver outputs, unless none of them pays a watched address; what was delivered. -/
def deliver (feedOf : σ → Feed κ) (call : κ → Output → Run σ Unit) (outputs : List Output) :
    Run σ (List Output) := do
  let feed := feedOf (← get)
  if feed.concerns outputs then
    (feed.deliveries outputs).forM fun (callback, output) => call callback output
    return outputs
  else return []

/-- Tell every subscription on a transaction of a change; how many were told. -/
def announce (feedOf : σ → Feed κ) (call : Subscription κ → Run σ Unit) (txid : String) :
    Run σ Nat := do
  let concerned := (feedOf (← get)).concernedBy txid
  concerned.forM call
  return concerned.length

end Feed

end Paywatch
