import Paywatch.Feed.Delivery
import Paywatch.Scenario.Answer

/-!
# Scenarios on a feed alone

A scenario is a list of steps on a feed whose callbacks are scripted: each time
one is called it notes what it was told; the first time it then goes through
steps of its own, noting the answer of each; and it fails at the end if it is
meant to.
-/

namespace Paywatch

namespace Scenario

inductive WatchOp where
  | watch (address : String) (since : Int) (currency : String)
  | isWatched (address : String)
  | addresses
  | listen (label : String) (own : List WatchOp) (failure : Option Failure)
  | subscribe (output : Outpoint) (label : String) (own : List WatchOp)
      (failure : Option Failure)
  | unsubscribe (id : Int)
  | receive (txid : String) (payments : List (String × Int)) (confidence : Confidence)
      (height : Option Int)
  | report (txid : String) (confidence : Confidence) (height : Option Int)
  /-- A step that cannot be read. -/
  | unreadable (failure : Failure)

/-- A registered callback; its own steps are taken away when they begin. -/
structure ScriptedCallback where
  label : String
  own : List WatchOp
  failure : Option Failure

/-- What happens in a scenario on a feed. -/
inductive WatchEvent where
  | logged (record : LogRecord)
  | received (label : String) (output : Output)
  | changed (label : String) (output : Outpoint) (confidence : Confidence) (height : Option Int)
  | nested (answer : Answer)

/-- A feed whose callbacks are the positions of scripted ones, and what has happened. -/
structure WatchWorld where
  feed : Feed Nat := {}
  callbacks : List ScriptedCallback := []
  events : List WatchEvent := []

namespace WatchWorld

def note (event : WatchEvent) : Run WatchWorld Unit :=
  modify fun w => { w with events := w.events ++ [event] }

def script (callback : ScriptedCallback) : Run WatchWorld Nat := do
  let position := (← get).callbacks.length
  modify fun w => { w with callbacks := w.callbacks ++ [callback] }
  return position

/-- Take the own steps of a callback, which leaves it without. -/
def takeOwn (position : Nat) : Run WatchWorld (List WatchOp) := do
  let own := ((← get).callbacks[position]?.map (·.own)).getD []
  modify fun w =>
    { w with callbacks := w.callbacks.modify position fun c => { c with own := [] } }
  return own

/-- Call a scripted callback, which notes an event under its label. -/
def call (runOwn : List WatchOp → Run WatchWorld Unit) (event : String → WatchEvent)
    (position : Nat) : Run WatchWorld Unit := do
  match (← get).callbacks[position]? with
  | none => return
  | some callback =>
    note (event callback.label)
    runOwn (← takeOwn position)
    match callback.failure with
    | some failure => throw failure
    | none => return

/-- Perform one step; `runOwn` performs the own steps of a callback. -/
def perform (runOwn : List WatchOp → Run WatchWorld Unit) : WatchOp → Run WatchWorld Answer
  | .watch address since currency => do
    let (feed, record) := (← get).feed.watch ⟨address, since, currency⟩
    modify fun w => { w with feed := feed }
    note (.logged record)
    return .nothing
  | .isWatched address => return .flag ((← get).feed.isWatched address)
  | .addresses => return .addresses (← get).feed.watched
  | .listen label own failure => do
    let position ← script ⟨label, own, failure⟩
    modify fun w => { w with feed := w.feed.addReceiver position }
    return .nothing
  | .subscribe output label own failure => do
    let position ← script ⟨label, own, failure⟩
    let (id, feed) := (← get).feed.subscribe output position
    modify fun w => { w with feed := feed }
    return .handle id output
  | .unsubscribe id => do
    modify fun w => { w with feed := w.feed.unsubscribe id.toNat }
    return .nothing
  | .receive txid payments confidence height => do
    let outputs := Feed.outputsOf txid payments confidence height
    return .outputs (← Feed.deliver (·.feed)
      (fun position output => call runOwn (.received · output) position) outputs)
  | .report txid confidence height => do
    return .count (← Feed.announce (·.feed)
      (fun s => call runOwn (.changed · s.output confidence height) s.callback) txid)
  | .unreadable failure => throw failure

/-- The own steps of a callback, with callbacks called at most `depth` deep inside them. -/
def runOwn : Nat → List WatchOp → Run WatchWorld Unit
  | 0, _ => return
  | depth + 1, ops => ops.forM fun op => do
    note (.nested (← perform (runOwn depth) op))

end WatchWorld

mutual

/-- The number of callbacks that a step registers, those of its callbacks included. -/
def WatchOp.callbacks : WatchOp → Nat
  | .listen _ own _ => countCallbacks own + 1
  | .subscribe _ _ own _ => countCallbacks own + 1
  | _ => 0

def countCallbacks : List WatchOp → Nat
  | [] => 0
  | op :: ops => op.callbacks + countCallbacks ops

end

/-- A step with its outcome, what happened in it, and how many subscriptions stood after it. -/
structure WatchStep where
  result : Except Failure Answer
  events : List WatchEvent
  subscriptions : Nat

/--
Go through the steps of a scenario.  A callback goes through its own steps once,
so that callbacks are never called deeper inside each other than there are any.
-/
def runWatchFrom (depth : Nat) (w : WatchWorld) : List WatchOp → List WatchStep
  | [] => []
  | op :: ops =>
    let (result, after) := WatchWorld.perform (WatchWorld.runOwn depth) op w
    ⟨result, after.events.drop w.events.length, after.feed.subscriptions.length⟩ ::
      runWatchFrom depth after ops

def runWatch (ops : List WatchOp) : List WatchStep :=
  runWatchFrom (countCallbacks ops) {} ops

end Scenario

end Paywatch
