import Paywatch.Database.Trigger
import Paywatch.Monitor.Basic
import Paywatch.Scenario.Listener
import Paywatch.Scenario.Tracker

/-!
# Scenarios on the monitor

A scenario on the monitor has the steps of one on its tracker and of one on its
listener, whose actions are the monitor's own.  Starting the monitor installs
the trigger first.  The journal of the tracker also holds what the listener and
the trigger tell the log, so that all of it comes in one sequence.
-/

namespace Paywatch

namespace Scenario

inductive MonitorOp where
  | tracker (op : TrackerOp)
  | listener (op : ListenerOp)
  | trigger

/--
What a monitor has beside its tracker: the listener, the transactions so far, the
planned failure of a statement, and how many statements had been executed when
the step began.
-/
structure MonitorRest where
  planned : PlannedListener
  transactions : List TransactionEvent := []
  triggerFault : Option StatementFault := none
  executedBefore : Nat := 0

abbrev MonitorWorld : Type :=
  ScriptedTracking MonitorOp MonitorRest

namespace MonitorWorld

def rest (w : MonitorWorld) : MonitorRest :=
  w.outside.beside

def withRest (w : MonitorWorld) (rest : MonitorRest) : MonitorWorld :=
  { w with outside := { w.outside with beside := rest } }

def tell (w : MonitorWorld) (records : List LogRecord) : MonitorWorld :=
  { w with journal := w.journal ++ records.map .logged }

/-- The outside of the monitor's listener: the monitor's actions, and its log. -/
def surrounding : Outside MonitorWorld where
  act due w :=
    let (result, after) := Monitor.act due w
    match result with
    | .ok () => (.returns, after)
    | .error failure => (.fails failure, after)
  tell records w := tell w records

def listenerWorld (w : MonitorWorld) : ListenerWorld MonitorWorld :=
  { rest w |>.planned with outside := w }

def onListener {α : Type}
    (step : ListenerWorld MonitorWorld → Except Failure α × ListenerWorld MonitorWorld) :
    Run MonitorWorld α := fun w =>
  let (result, after) := step (listenerWorld w)
  (result,
    withRest after.outside { rest after.outside with planned := after.toPlannedListener })

/-! ## Steps -/

def executed (w : MonitorWorld) : Nat :=
  (rest w).transactions.countP fun
    | .executed _ => true
    | _ => false

def faultLeft (w : MonitorWorld) : Option StatementFault :=
  (rest w).triggerFault.bind (·.beyond (executed w - (rest w).executedBefore))

def trigger : Run MonitorWorld Unit := do
  let (events, result) := Trigger.install (faultLeft (← get))
  modify fun w =>
    withRest w { rest w with transactions := (rest w).transactions ++ events }
  Tracking.note (.logged (← Run.ofExcept result))

def start : Run MonitorWorld Unit := do
  trigger
  onListener (·.start surrounding)

def stop (limit : Double) : Run MonitorWorld Bool :=
  onListener (·.stop surrounding limit)

end MonitorWorld

/-- Perform one step; `limit` is the time limit of a stop that has none of its own. -/
def MonitorOp.perform (limit : Double) (ask : Int → Run MonitorWorld Decimal) :
    MonitorOp → Run MonitorWorld Answer
  | .tracker op => op.perform ask
  | .trigger => do
    MonitorWorld.trigger
    return .nothing
  | .listener .start => do
    MonitorWorld.start
    return .nothing
  | .listener op => MonitorWorld.onListener (·.perform MonitorWorld.surrounding limit op)

namespace MonitorWorld

def beginStep (w : MonitorWorld) : MonitorWorld :=
  withRest w { rest w with executedBefore := executed w }

def eventsSince (w earlier : MonitorWorld) : List ListenerEvent :=
  (rest w).planned.events.drop (rest earlier).planned.events.length

def transactionsSince (w earlier : MonitorWorld) : List TransactionEvent :=
  (rest w).transactions.drop (rest earlier).transactions.length

def logSince (w earlier : MonitorWorld) : List LogRecord :=
  loggedIn (ScriptedTracking.journalSince w earlier)

end MonitorWorld

def monitorOf (settings : Settings) (poll initial greatest : Option Double)
    (source : RateSource) (manner : FeedManner) (triggerFault : Option StatementFault) :
    Except Failure MonitorWorld := do
  let listener ← Listener.create (Monitor.listenerOptions settings poll initial greatest)
  let rest : MonitorRest := { planned := { listener := listener }, triggerFault := triggerFault }
  return { manner := manner, outside := { source := source, beside := rest } }

structure MonitorStep where
  result : Except Failure Answer
  before : MonitorWorld
  after : MonitorWorld

/-- Go through the steps of a scenario, in which questions are nested `depth` deep at most. -/
def runMonitorFrom (depth : Nat) (limit : Double) (w : MonitorWorld) :
    List (Hooked MonitorOp) → List MonitorStep
  | [] => []
  | op :: ops =>
    let (result, after) :=
      ScriptedTracking.perform (MonitorOp.perform limit) depth op (MonitorWorld.beginStep w)
    ⟨result, w, after⟩ :: runMonitorFrom depth limit after ops

def runMonitor (settings : Settings) (w : MonitorWorld) (ops : List (Hooked MonitorOp)) :
    List MonitorStep :=
  runMonitorFrom (countWaits ops) settings.stopTimeout w ops

end Scenario

end Paywatch
