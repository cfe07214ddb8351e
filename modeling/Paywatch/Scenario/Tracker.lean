import Paywatch.Scenario.Script

/-!
# Scenarios on the tracker

Steps of a scenario report to a tracker and change the rates behind its back.
-/

namespace Paywatch

namespace Scenario

inductive TrackerOp where
  | add (address : String) (since : Int)
  | receive (txid : String) (payments : List (String × Int)) (confidence : Confidence)
      (height : Option Int)
  | report (txid : String) (confidence : Confidence) (height : Option Int)
  | output (reported : Output)
  | retry
  | standing (outpoint : Outpoint)
  | addresses
  | recordRate (height : Int) (rate : Decimal)
  | eraseRate (height : Int)
  | fault (planned : Option QueryFault)
  /-- A step that cannot be read. -/
  | unreadable (failure : Failure)

/-- Perform one step; `ask` tells the rate of a block. -/
def TrackerOp.perform {α τ : Type} (ask : Int → Run (ScriptedTracking α τ) Decimal) :
    TrackerOp → Run (ScriptedTracking α τ) Answer
  | .add address since => do
    Tracking.addAddress address since
    return .nothing
  | .receive txid payments confidence height => do
    return .outputs (← Tracking.receive ask (Feed.outputsOf txid payments confidence height))
  | .report txid confidence height => do
    return .count (← Tracking.announce ask txid confidence height)
  | .output reported => do
    Tracking.outputReceived ask reported
    return .nothing
  | .retry => do
    return .count (← Tracking.retry ask)
  | .standing outpoint => do
    return .standing ((← get).standing? outpoint) ((← get).isProcessed outpoint)
  | .addresses => do
    return .addresses (← get).feed.watched
  | .recordRate height rate => do
    let source ← Run.ofExcept ((← get).outside.source.record height rate)
    ScriptedTracking.changeScript fun script => { script with source := source }
    return .nothing
  | .eraseRate height => do
    let source ← Run.ofExcept ((← get).outside.source.erase height)
    ScriptedTracking.changeScript fun script => { script with source := source }
    return .nothing
  | .fault planned => do
    ScriptedTracking.changeScript fun script =>
      { script with source := script.source.withFault planned }
    return .nothing
  | .unreadable failure => throw failure

abbrev TrackerWorld : Type :=
  ScriptedTracking TrackerOp Unit

structure TrackerStep where
  result : Except Failure Answer
  before : TrackerWorld
  after : TrackerWorld

/-- Go through the steps of a scenario, in which questions are nested `depth` deep at most. -/
def runTrackerFrom (depth : Nat) (w : TrackerWorld) : List (Hooked TrackerOp) → List TrackerStep
  | [] => []
  | op :: ops =>
    let (result, after) := ScriptedTracking.perform TrackerOp.perform depth op w
    ⟨result, w, after⟩ :: runTrackerFrom depth after ops

def runTracker (source : RateSource) (manner : FeedManner) (ops : List (Hooked TrackerOp)) :
    List TrackerStep :=
  runTrackerFrom (countWaits ops)
    { manner := manner, outside := { source := source, beside := () } } ops

end Scenario

end Paywatch
