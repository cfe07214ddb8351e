import Paywatch.Monitor.Startup
import Paywatch.Scenario.Monitor

/-!
# A session from start to shutdown

In a session the program starts, waits again and again until a shutdown is
requested, looks at the state of affairs after every other wait, and stops.
During each wait planned steps take place.  When none are planned any more a
signal arrives, so that every session ends.
-/

namespace Paywatch

namespace Scenario

inductive SessionOp where
  | signal (number : Int)
  | monitor (op : Hooked MonitorOp)

/--
The monitor, whether a shutdown is requested, and the monitor as it was when the
last step ended and when the log was last looked at.
-/
structure Session where
  monitor : MonitorWorld
  shutdown : Bool := false
  stepped : MonitorWorld
  looked : MonitorWorld

/--
A step: what the log was told in it, what happened since the step before it, and
the monitor after it.
-/
structure SessionStep where
  result : Except Failure Answer
  log : List LogRecord
  events : List ListenerEvent
  transactions : List TransactionEvent
  after : MonitorWorld

structure SessionWait where
  before : List LogRecord
  steps : List SessionStep

/--
The end of a session: its outcome, the waits, what happened after the last of
them, whether the database was given up, and the monitor, if there was one, with
what happened since the last step.
-/
structure SessionEnd where
  outcome : Except Failure Nat
  waits : List SessionWait := []
  log : List LogRecord
  transactions : List TransactionEvent := []
  disposed : Bool := false
  final : Option (List ListenerEvent × MonitorWorld) := none

namespace Session

/-- The rate of a block; no steps wait for the question. -/
def ask (limit : Double) : Int → Run MonitorWorld Decimal :=
  ScriptedTracking.ask (MonitorOp.perform limit) 0

def perform (limit : Double) (s : Session) : SessionOp → Except Failure Answer × Session
  | .signal number =>
    (.ok .nothing,
      { s with
        monitor := MonitorWorld.tell s.monitor [Monitor.signalRecord number]
        shutdown := true })
  | .monitor op =>
    let (result, after) := ScriptedTracking.perform (MonitorOp.perform limit) 0 op s.monitor
    (result, { s with monitor := after })

def step (limit : Double) (s : Session) (op : SessionOp) : SessionStep × Session :=
  let (result, after) := { s with monitor := MonitorWorld.beginStep s.monitor }.perform limit op
  let monitor := after.monitor
  (⟨result, MonitorWorld.logSince monitor s.monitor, MonitorWorld.eventsSince monitor s.stepped,
      MonitorWorld.transactionsSince monitor s.stepped, monitor⟩,
    { after with monitor := monitor, stepped := monitor, looked := monitor })

def steps (limit : Double) (s : Session) : List SessionOp → List SessionStep × Session
  | [] => ([], s)
  | op :: ops =>
    let (first, s) := s.step limit op
    let (later, s) := s.steps limit ops
    (first :: later, s)

def wait (limit : Double) (s : Session) (ops : List SessionOp) : SessionWait × Session :=
  let before := MonitorWorld.logSince s.monitor s.looked
  let (done, s) := { s with looked := s.monitor }.steps limit ops
  (⟨before, done⟩, s)

def status (limit : Double) (s : Session) : Except Failure Unit × Session :=
  let (result, after) := Monitor.status (ask limit) s.monitor
  (result, { s with monitor := after })

/-- Wait until a shutdown is requested or the state of affairs cannot be told. -/
def loop (limit : Double) (s : Session) :
    List (List SessionOp) → List SessionWait × Except Failure Unit × Session
  | [] => ([], .ok (), s)
  | ops :: later =>
    let (first, s) := s.wait limit ops
    if s.shutdown then ([first], .ok (), s)
    else match s.status limit with
      | (.error failure, s) => ([first], .error failure, s)
      | (.ok (), s) =>
        let (waits, result, s) := s.loop limit later
        (first :: waits, result, s)

def finish (s : Session) (outcome : Except Failure Nat) (waits : List SessionWait)
    (disposed : Bool) : SessionEnd where
  outcome := outcome
  waits := waits
  log := MonitorWorld.logSince s.monitor s.looked
  transactions := MonitorWorld.transactionsSince s.monitor s.stepped
  disposed := disposed
  final := some (MonitorWorld.eventsSince s.monitor s.stepped, s.monitor)

/-- Stop the monitor and give the database up, unless stopping fails. -/
def close (limit : Double) (s : Session) (result : Except Failure Unit)
    (waits : List SessionWait) : SessionEnd :=
  match MonitorWorld.stop limit s.monitor with
  | (.error failure, after) => { s with monitor := after }.finish (.error failure) waits false
  | (.ok _, after) =>
    { s with monitor := MonitorWorld.tell after [Database.disposedRecord] }.finish
      (result.map fun _ => 0) waits true

end Session

def lastSignal : SessionOp :=
  .signal 15

def runMonitored (limit : Double) (s : Session) (waits : List (List SessionOp)) : SessionEnd :=
  match MonitorWorld.start s.monitor with
  | (.error failure, after) => { s with monitor := after }.finish (.error failure) [] false
  | (.ok (), after) =>
    let (done, result, s) := { s with monitor := after }.loop limit (waits ++ [[lastSignal]])
    s.close limit result done

def runSession (settings : Settings) (outside : Surroundings)
    (triggerFault : Option StatementFault) (rates : RateService)
    (waits : List (List SessionOp)) : SessionEnd :=
  match Startup.prepare settings outside [] with
  | (.error failure, log) => { outcome := .error failure, log := log }
  | (.ok false, log) => { outcome := .ok 1, log := log }
  | (.ok true, log) =>
    match monitorOf settings none none none (.recorded rates) {} triggerFault with
    | .error failure => { outcome := .error failure, log := log }
    | .ok monitor =>
      runMonitored settings.stopTimeout
        { monitor := MonitorWorld.tell monitor log, stepped := monitor, looked := monitor } waits

end Scenario

end Paywatch
