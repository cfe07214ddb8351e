import Paywatch.Scenario.Answer
import Paywatch.Scenario.Channel

/-!
# Scenarios on a listener

Steps start and stop a listener on a planned channel, plan outcomes, and release
what is blocked.  After each step the listener runs until it rests, is blocked
or has ended, save after a stop that does not wait: then it goes on in the next
step that does.
-/

namespace Paywatch

namespace Scenario

inductive ListenerOp where
  | start
  | plan (more : ChannelPlan)
  | release
  | stop (limit : Option Double)
  | channels
  /-- A step that cannot be read. -/
  | unreadable (failure : Failure)

namespace ListenerWorld

variable {σ : Type}

def unpark (w : ListenerWorld σ) : ListenerWorld σ :=
  { w with parked := none }

def start (o : Outside σ) (w : ListenerWorld σ) : Except Failure Unit × ListenerWorld σ :=
  match w.listener.start with
  | .error failure => (.error failure, w)
  | .ok (listener, record) => (.ok (), run o { w.tell o [record] with listener := listener })

/-- Let a listener go on whose rest a stop has ended; whatever is planned since, that poll gives
nothing. -/
def endRest (o : Outside σ) (w : ListenerWorld σ) : ListenerWorld σ :=
  run o ((w.unpark.note [.pollStopped w.listener.options.pollTimeout]).resume o (.ok []))

/-- Plan outcomes, which a listener at rest goes on with if it can poll. -/
def extendPlan (o : Outside σ) (w : ListenerWorld σ) (more : ChannelPlan) : ListenerWorld σ :=
  let w := { w with plan := w.plan.extend more }
  match w.parked, more.polls with
  | some .idle, _ :: _ => run o w.unpark
  | some .woken, _ => w.endRest o
  | _, _ => w

/-- Release a blocked call, or wait for a listener that was only told to stop. -/
def release (o : Outside σ) (w : ListenerWorld σ) : ListenerWorld σ :=
  match w.parked with
  | some (.blocked outcome) => run o (w.unpark.resume o outcome)
  | some .woken => w.endRest o
  | _ => w

def isActing (w : ListenerWorld σ) : Bool :=
  match w.listener.stage with
  | .acting .. => true
  | _ => false

def stopOutcome (limit : Double) (w : ListenerWorld σ) : Bool × LogRecord :=
  if !w.listener.isRunning then (true, w.listener.stoppedRecord)
  else if w.isActing then (false, w.listener.stillActingRecord limit)
  else (false, w.listener.stillRunningRecord limit)

/-- The shortest time limit that a listener can end within, in nanoseconds. -/
def leastWait : Int :=
  1000

def isWait (limit : Double) : Bool :=
  match Listener.nanoseconds? limit with
  | some nanoseconds => (Listener.checkLimit limit).isOk && leastWait ≤ nanoseconds
  | none => false

/-- The end of a listener's rest, which it notices only when it is waited for. -/
def wake (o : Outside σ) (limit : Double) (w : ListenerWorld σ) : ListenerWorld σ :=
  match w.parked with
  | some (.blocked _) | none => w
  | some .idle | some .woken => if isWait limit then w.endRest o else w.park .woken

/-- Stop the listener; did it end within the limit? What is blocked never does. -/
def stop (o : Outside σ) (limit : Double) (w : ListenerWorld σ) :
    Except Failure Bool × ListenerWorld σ :=
  let w := { w with listener := w.listener.requestStop }.wake o limit
  match Listener.checkLimit limit with
  | .error failure => (.error failure, w)
  | .ok () =>
    let (ended, record) := w.stopOutcome limit
    (.ok ended, w.tell o [record])

/-- Perform one step; `limit` is the time limit of a stop that has none of its own. -/
def perform (o : Outside σ) (limit : Double) (w : ListenerWorld σ) :
    ListenerOp → Except Failure Answer × ListenerWorld σ
  | .start =>
    let (result, w) := w.start o
    (result.map fun _ => .nothing, w)
  | .plan more => (.ok .nothing, w.extendPlan o more)
  | .release => (.ok .nothing, w.release o)
  | .stop own =>
    let (result, w) := w.stop o (own.getD limit)
    (result.map .flag, w)
  | .channels => (.ok (.names w.listener.options.channels), w)
  | .unreadable failure => (.error failure, w)

end ListenerWorld

/-! ## Scripted actions -/

structure ActionScript where
  channel : String
  courses : List ActionCourse
  deriving DecidableEq, Repr

structure ScriptedActions where
  scripts : List ActionScript
  log : List LogRecord := []
  deriving DecidableEq, Repr

/-- The next course of a channel's action, which returns when nothing else is planned. -/
def ScriptedActions.take (actions : ScriptedActions) (channel : String) :
    ActionCourse × ScriptedActions :=
  let course := (actions.scripts.find? (·.channel == channel)).bind (·.courses.head?)
  (course.getD .returns,
    { actions with
      scripts := actions.scripts.map fun s =>
        if s.channel == channel then { s with courses := s.courses.drop 1 } else s })

def scripted : Outside ScriptedActions where
  act due actions := actions.take due.notification.channel
  tell records actions := { actions with log := actions.log ++ records }

/-- Bind a channel to an action; a channel that is bound again keeps its place. -/
def bindAction (scripts : List ActionScript) (script : ActionScript) : List ActionScript :=
  if scripts.any (·.channel == script.channel) then
    scripts.map fun s => if s.channel == script.channel then script else s
  else scripts ++ [script]

structure ListenerStep where
  result : Except Failure Answer
  events : List ListenerEvent
  log : List LogRecord
  after : ListenerWorld ScriptedActions

def runListenerFrom (limit : Double) (w : ListenerWorld ScriptedActions) :
    List ListenerOp → List ListenerStep
  | [] => []
  | op :: ops =>
    let (result, after) := w.perform scripted limit op
    ⟨result, after.events.drop w.events.length, after.outside.log.drop w.outside.log.length,
      after⟩ :: runListenerFrom limit after ops

def runListener (settings : Settings) (name : Option String)
    (poll initial greatest : Option Double) (scripts : List ActionScript)
    (ops : List ListenerOp) : Except Failure (List ListenerStep) := do
  let bound := scripts.foldl bindAction []
  let options := Listener.optionsFrom settings (name.getD "address-registration-listener")
    (bound.map (·.channel)) poll initial greatest
  let listener ← Listener.create options
  return runListenerFrom settings.stopTimeout
    { listener := listener, outside := { scripts := bound } } ops

end Scenario

end Paywatch
