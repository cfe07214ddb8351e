import Paywatch.Currency
import Paywatch.Listener.State
import Paywatch.Payment.Tracker

/-!
# The monitor

The monitor watches every bitcoin address that is announced to it and tells the
log of every other.  From time to time it tries again to credit what waits for
its credit, and tells the log what has been raised.
-/

namespace Paywatch

namespace Monitor

variable {ω : Type}

/-- The options of the monitor's listener, which listens for all currencies. -/
def listenerOptions (settings : Settings) (poll initial greatest : Option Double) :
    ListenerOptions :=
  Listener.optionsFrom settings "payin-address-listener" (Currency.all.map (·.text))
    poll initial greatest

/-! ## Announced addresses -/

/-- A new address to watch; an announcement may come without one. -/
def bitcoinAnnounced (payload : Option String) (since : Int) : Run (Tracking ω) Unit :=
  match payload.filter (!·.isEmpty) with
  | none => Tracking.log .debug "PAYIN_MONITOR: Empty bitcoin address notified, skipping"
  | some address => Tracking.addAddress address since

/-- A new address that is not watched. -/
def etherAnnounced (payload : Option String) : Run (Tracking ω) Unit :=
  match payload.filter (!·.isEmpty) with
  | none => return
  | some address =>
    Tracking.log .info <|
      s!"PAYIN_MONITOR: New ether pay-in address {address} " ++
        "(ether payments are not tracked here)"

def act (due : DueAction) : Run (Tracking ω) Unit :=
  match Currency.ofText? due.notification.channel with
  | some .bitcoin => bitcoinAnnounced due.notification.payload due.seconds
  | some .ether => etherAnnounced due.notification.payload
  | none => return

/-! ## While it runs -/

/-- The seconds between two looks at the state of affairs. -/
def statusInterval : Nat :=
  60

def signalRecord (number : Int) : LogRecord :=
  ⟨.info, s!"🛑 Received signal {number}, initiating shutdown...", none⟩

/-- Try once more to credit what waits, and tell the log what has been raised. -/
def status (ask : Int → Run (Tracking ω) Decimal) : Run (Tracking ω) Unit := do
  discard (Tracking.retry ask)
  let t ← get
  let raised ← Run.ofExcept (ofArithmetic t.ledger.raisedUsd)
  Tracking.log .info <|
    s!"📊 PAYIN_MONITOR: Total raised {raised} USD, " ++
      s!"{t.pendingCount} payments pending confirmation"

end Monitor

end Paywatch
