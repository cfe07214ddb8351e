import Paywatch.Feed.Basic
import Paywatch.Log
import Paywatch.Payment.Ledger
import Paywatch.Payment.Sighting

/-!
# The state of tracking

The tracker holds a register of all sightings in their order, the ledger of
credits, and the feed that reports to it.  What can be asked of it, such as the
standing of an output or the number of open sightings, is read off the register
and the ledger; a tracker that keeps a map of the open ones and a count of the
discarded ones tells the same (`Book.Evolves.tells`).  The journal is the history
of a run.

The state is parametric in `ω`, the state of whatever tells the rates.
-/

namespace Paywatch

/-- Whom the feed calls: the tracker about outputs, or about the confidence of one. -/
inductive Callback where
  | received
  | confidence (output : Outpoint)
  deriving DecidableEq, Repr

/-- How an output stands for the tracker, as far as anyone can ask. -/
inductive Standing where
  | observed
  | confirmed
  deriving DecidableEq, Repr

/--
How a feed treats subscriptions: what it announces about a transaction while a
subscription to it is being made, and whether it keeps one that is given up.
-/
structure FeedManner where
  announcedAtOnce : List (String × List (Confidence × Option Int)) := []
  keepsCancelled : Bool := false
  deriving Repr

/--
What happens in a run; sightings are named by their numbers.  A question that
failed is answered without a rate.
-/
inductive TrackingEvent where
  | logged (record : LogRecord)
  | sighted (number : Nat) (output : Output)
  | reported (number : Nat) (confidence : Confidence) (height : Option Int)
  | asked (number : Nat) (height : Int)
  | answered (number : Nat) (height : Int) (rate : Option Decimal)
  | credited (number : Nat) (output : Output) (height : Int) (rate usd : Decimal)
  | cancelled (subscription : Nat)
  deriving DecidableEq, Repr

/-- The state of tracking, beside the state of whatever tells the rates. -/
structure Tracking (ω : Type) where
  feed : Feed Callback := { receivers := [.received] }
  manner : FeedManner := {}
  sightings : List Sighting := []
  ledger : Ledger := {}
  journal : List TrackingEvent := []
  outside : ω

namespace Tracking

variable {ω : Type}

/-! ## What can be asked -/

def open? (t : Tracking ω) (output : Outpoint) : Option Nat :=
  t.sightings.findIdx? fun s => s.phase.isOpen && s.outpoint == output

def openSightings (t : Tracking ω) : List Sighting :=
  t.sightings.filter (·.phase.isOpen)

/-- The number of sightings that are neither credited nor discarded. -/
def trackedCount (t : Tracking ω) : Nat :=
  t.sightings.countP (·.phase.isOpen)

/-- The number of sightings that the network has not decided. -/
def pendingCount (t : Tracking ω) : Nat :=
  t.sightings.countP (·.phase == .observed)

def discardedCount (t : Tracking ω) : Nat :=
  t.sightings.countP (·.phase == .discarded)

def isProcessed (t : Tracking ω) (output : Outpoint) : Bool :=
  t.ledger.contains output

/-- How an output stands; nothing is said of one that was discarded or never seen. -/
def standing? (t : Tracking ω) (output : Outpoint) : Option Standing :=
  match t.sightings.find? fun s => s.phase.isOpen && s.outpoint == output with
  | some s => some (if s.phase = .observed then .observed else .confirmed)
  | none => if t.isProcessed output then some .confirmed else none

/-- The numbers of the sightings that wait for their credit, in their order. -/
def awaitingCredit (t : Tracking ω) : List Nat :=
  (t.sightings.zipIdx.filter (·.1.phase.isConfirmed)).map (·.2)

/-- The number of subscriptions given up so far. -/
def cancelledCount (t : Tracking ω) : Nat :=
  t.journal.countP fun
    | .cancelled _ => true
    | _ => false

/-! ## Small steps -/

def note (event : TrackingEvent) : Run (Tracking ω) Unit :=
  modify fun t => { t with journal := t.journal ++ [event] }

def log (level : Level) (text : String) (cause : Option Failure := none) :
    Run (Tracking ω) Unit :=
  note (.logged ⟨level, text, cause⟩)

def change (number : Nat) (f : Sighting → Sighting) : Run (Tracking ω) Unit :=
  modify fun t => { t with sightings := t.sightings.modify number f }

/-- Give the subscription of a sighting up, if it holds one. -/
def release (number : Nat) : Run (Tracking ω) Unit := do
  match (← get).sightings[number]?.bind (·.subscription) with
  | none => return
  | some id =>
    change number fun s => { s with subscription := none }
    note (.cancelled id)
    modify fun t =>
      if t.manner.keepsCancelled then t else { t with feed := t.feed.unsubscribe id }

end Tracking

end Paywatch
