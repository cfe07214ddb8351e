import Paywatch.Listener.Notification
import Paywatch.Log
import Paywatch.Settings.Basic

/-!
# The state of a listener

A listener keeps one subscription open and calls the action bound to the channel
of each notification.  Between two calls to the outside it is in one of a few
stages, which decides what it asks for next.  A stop can be requested at any
time.
-/

namespace Paywatch

structure ListenerOptions where
  name : String := "address-registration-listener"
  channels : List String
  pollTimeout : Double
  initialDelay : Double
  maxDelay : Double
  deriving DecidableEq, Repr

/-- An action that is due: the channel it is bound to, and what it is called with. -/
structure DueAction where
  notification : Notification
  seconds : Int
  deriving DecidableEq, Repr

/-- Where a listener is between two calls to the outside. -/
inductive Stage where
  /-- It is not running. -/
  | ended
  /-- It is about to open the connection. -/
  | opening
  /-- It is about to subscribe to its channels. -/
  | subscribing
  /-- It is about to wait for notifications. -/
  | polling
  /-- It is about to call an action, before the rest of the batch. -/
  | acting (due : DueAction) (rest : List Notification)
  /-- It is about to close a connection that failed. -/
  | closing
  /-- It is about to wait before it tries again, for no more than 9223372036 seconds. -/
  | waiting
  /-- It is about to close the connection for good. -/
  | leaving
  deriving DecidableEq, Repr

/-- A listener: its options, its stage, the next delay and its counters. -/
structure Listener where
  options : ListenerOptions
  stage : Stage := .ended
  stopRequested : Bool := false
  delay : Double
  dispatched : Nat := 0
  failed : Nat := 0
  reconnects : Nat := 0
  deriving DecidableEq, Repr

inductive Request where
  | openConnection
  | subscribe (channels : List String)
  | poll (timeout : Double)
  | close
  | wait (delay : Double)
  | act (due : DueAction)
  deriving DecidableEq, Repr

namespace Listener

/-- The options that are not given are taken from the settings. -/
def optionsFrom (settings : Settings) (name : String) (channels : List String)
    (poll initial greatest : Option Double) : ListenerOptions where
  name := name
  channels := channels
  pollTimeout := poll.getD settings.pollTimeout
  initialDelay := initial.getD settings.initialDelay
  maxDelay := greatest.getD settings.maxDelay

/-- A listener that has not been started; it has to be bound to a channel. -/
def create (options : ListenerOptions) : Except Failure Listener :=
  if options.channels.isEmpty then .error .noActions
  else .ok { options := options, delay := options.initialDelay }

def isRunning (l : Listener) : Bool :=
  l.stage ≠ .ended

def request? (l : Listener) : Option Request :=
  match l.stage with
  | .ended => none
  | .opening => some .openConnection
  | .subscribing => some (.subscribe l.options.channels)
  | .polling => some (.poll l.options.pollTimeout)
  | .acting due _ => some (.act due)
  | .closing | .leaving => some .close
  | .waiting => some (.wait l.delay)

/-! ## From outside -/

def channelNames (l : Listener) : String :=
  ", ".intercalate l.options.channels

/-- Start the listener, which has to have ended. -/
def start (l : Listener) : Except Failure (Listener × LogRecord) :=
  if l.isRunning then .error (.alreadyRunning l.options.name)
  else .ok
    ({ l with stage := .opening, stopRequested := false, delay := l.options.initialDelay },
      ⟨.info, s!"🚀 LISTENER: '{l.options.name}' started for channels {l.channelNames}", none⟩)

def requestStop (l : Listener) : Listener :=
  { l with stopRequested := true }

def stoppedRecord (l : Listener) : LogRecord :=
  ⟨.info,
    s!"✅ LISTENER: '{l.options.name}' stopped (dispatched={l.dispatched}, " ++
      s!"failed={l.failed}, reconnects={l.reconnects})", none⟩

/-- What the log is told when an action outlasts the time limit of a stop. -/
def stillActingRecord (l : Listener) (limit : Double) : LogRecord :=
  ⟨.warning,
    s!"⚠️ LISTENER: '{l.options.name}' dispatch still running after {limit.text}s", none⟩

/-- What the log is told when anything else does. -/
def stillRunningRecord (l : Listener) (limit : Double) : LogRecord :=
  ⟨.warning,
    s!"⚠️ LISTENER: '{l.options.name}' thread did not exit within {limit.text}s", none⟩

/-- The number of nanoseconds of a second. -/
def second : Nat :=
  1000000000

/-- A time limit in whole nanoseconds, away from zero; too long a one has no number. -/
def nanoseconds? : Double → Option Int
  | .finite negative mantissa exponent =>
    let units := mantissa * second * Nat.pow 2 exponent.toNat
    match Double.nearest negative units (Nat.pow 2 (-exponent).toNat) with
    | .finite _ m e =>
      let whole := Rounding.up.quotient (m * Nat.pow 2 e.toNat) (Nat.pow 2 (-e).toNat)
      some (Double.signed negative whole)
    | _ => none
  | _ => none

/-- Does the clock, which has 64 bits with a sign, take the number? The bounds are let pass. -/
def fitsClock (nanoseconds : Int) : Bool :=
  -0x8000000000000000 ≤ nanoseconds && nanoseconds ≤ 0x8000000000000000

/-- The number as the clock holds it; the upper bound itself turns into the lower one. -/
def onClock (nanoseconds : Int) : Int :=
  nanoseconds.bmod 0x10000000000000000

/-- A time limit has to be a time, save that minus one second stands for no limit. -/
def checkLimit (limit : Double) : Except Failure Unit :=
  if limit.isNan then .error .limitNotANumber
  else match ((nanoseconds? limit).filter fitsClock).map onClock with
    | none => .error .limitTooLong
    | some n => if n < 0 ∧ n ≠ -(second : Int) then .error .negativeLimit else .ok ()

end Listener

end Paywatch
