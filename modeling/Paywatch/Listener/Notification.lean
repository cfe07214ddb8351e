import Paywatch.Double.Basic
import Paywatch.Failure

/-!
# Notifications

A notification arrives on a channel with a payload and a time.  Actions are
given the time in whole seconds, which an infinite time or one that is not a
number does not have.
-/

namespace Paywatch

/-- What arrived on a channel, when, and from which process of the database. -/
structure Notification where
  channel : String
  payload : Option String
  receivedAt : Double
  pid : Option Int := none
  deriving DecidableEq, Repr

/-- A time in whole seconds, cut off toward zero. -/
def wholeSeconds : Double → Except Failure Int
  | .nan => .error .timeNotANumber
  | .infinite _ => .error .timeInfinite
  | .finite negative mantissa exponent => .ok (Double.truncate negative mantissa exponent)

end Paywatch
