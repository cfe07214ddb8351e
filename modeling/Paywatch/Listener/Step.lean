import Paywatch.Listener.State

/-!
# How a listener goes on

Each call to the outside succeeds or fails, and then the listener goes on to its
next call.  An action that fails is logged and changes nothing else.  Any other
failure closes the connection; the listener waits and opens it again, twice as
long each time up to a greatest delay.  Once a stop is requested no action is
called, and the listener closes its connection and ends.
-/

namespace Paywatch

/-- A listener after a call, what the log is told, and how its run broke, if it did. -/
structure Resumed where
  listener : Listener
  log : List LogRecord := []
  broken : Option Failure := none
  deriving DecidableEq, Repr

namespace Listener

def headStage (stopRequested connected : Bool) : Stage :=
  if stopRequested then .leaving else if connected then .polling else .opening

/-- Go to the head of the loop. -/
def toHead (l : Listener) (connected : Bool) : Listener :=
  { l with stage := headStage l.stopRequested connected }

/-! ## Dispatch -/

def unboundRecord (n : Notification) : LogRecord :=
  ⟨.warning,
    s!"⚠️ LISTENER: No action bound to channel '{n.channel}', " ++
      s!"dropping payload {Text.quoted? n.payload}", none⟩

def pidText : Option Int → String
  | some pid => toString pid
  | none => "None"

def failedRecord (n : Notification) (failure : Failure) : LogRecord :=
  ⟨.error,
    s!"❌ LISTENER: Action for channel '{n.channel}' failed " ++
      s!"(payload={Text.quoted? n.payload}, pid={pidText n.pid})", some failure⟩

def countFailure (l : Listener) : Listener :=
  { l with failed := l.failed + 1 }

def isBound (l : Listener) (n : Notification) : Bool :=
  l.options.channels.contains n.channel

/--
Go through notifications up to the first that an action is to be called for.  A
requested stop leaves all of them.
-/
def dispatch (l : Listener) : List Notification → Resumed
  | [] => { listener := l.toHead true }
  | n :: rest =>
    if l.stopRequested then { listener := l.toHead true }
    else if !l.isBound n then
      let later := l.dispatch rest
      { later with log := unboundRecord n :: later.log }
    else
      match wholeSeconds n.receivedAt with
      | .error failure =>
        let later := l.countFailure.dispatch rest
        { later with log := failedRecord n failure :: later.log }
      | .ok seconds => { listener := { l with stage := .acting ⟨n, seconds⟩ rest } }

def afterAction (l : Listener) (due : DueAction) (rest : List Notification) :
    Except Failure Unit → Resumed
  | .ok () => { l with dispatched := l.dispatched + 1 }.dispatch rest
  | .error failure =>
    let later := l.countFailure.dispatch rest
    { later with log := failedRecord due.notification failure :: later.log }

/-! ## The connection -/

def lostRecord (l : Listener) (failure : Failure) : LogRecord :=
  let rest := s!"retrying in {l.delay.fixedText 1}s, registrations may be missed until then"
  if failure.isConnectionLoss then
    ⟨.error,
      s!"❌ LISTENER: '{l.options.name}' connection lost ({failure.message}); {rest}", none⟩
  else
    ⟨.error,
      s!"❌ LISTENER: '{l.options.name}' subscription failed unexpectedly " ++
        s!"({failure.message}); {rest}", some failure⟩

def reconnectedRecord (l : Listener) : LogRecord :=
  ⟨.warning,
    s!"⚠️ LISTENER: '{l.options.name}' reconnected; address registrations announced " ++
      "during the outage may have been missed", none⟩

/-- What the log is told when a connection that failed cannot be closed. -/
def closeRecord (l : Listener) (failure : Failure) : LogRecord :=
  ⟨.warning,
    s!"⚠️ LISTENER: '{l.options.name}' error closing channel: {failure.message}", none⟩

def exitedRecord (l : Listener) : LogRecord :=
  ⟨.debug, s!"LISTENER: '{l.options.name}' loop exited", none⟩

/-- The connection failed. -/
def lose (l : Listener) (failure : Failure) : Resumed where
  listener := { l with stage := .closing, reconnects := l.reconnects + 1 }
  log := [l.lostRecord failure]

/-- The connection is open and subscribed. -/
def connected (l : Listener) : Resumed where
  listener := { l with stage := .polling, delay := l.options.initialDelay }
  log := if l.reconnects = 0 then [] else [l.reconnectedRecord]

/-- The next delay: twice the last one, as long as the greatest is not below that. -/
def nextDelay (l : Listener) : Double :=
  l.delay.twice.atMost l.options.maxDelay

/-- Go on after a wait, which has ended as all do that are not for centuries. -/
def afterWait (l : Listener) : Listener :=
  if l.stopRequested then { l with stage := .leaving }
  else { l with delay := l.nextDelay, stage := .opening }

/-- Go on after a call to the outside; only polling gives notifications. -/
def resume (l : Listener) (outcome : Except Failure (List Notification)) : Resumed :=
  match l.stage, outcome with
  | .ended, _ => { listener := l }
  | .opening, .ok _ => { listener := { l with stage := .subscribing } }
  | .opening, .error failure => l.lose failure
  | .subscribing, .ok _ => l.connected
  | .subscribing, .error failure => l.lose failure
  | .polling, .ok batch => l.dispatch batch
  | .polling, .error failure => l.lose failure
  | .acting due rest, .ok _ => l.afterAction due rest (.ok ())
  | .acting due rest, .error failure => l.afterAction due rest (.error failure)
  | .closing, .ok _ => { listener := { l with stage := .waiting } }
  | .closing, .error failure =>
    { listener := { l with stage := .waiting }, log := [l.closeRecord failure] }
  | .waiting, _ => { listener := l.afterWait }
  | .leaving, .ok _ => { listener := { l with stage := .ended }, log := [l.exitedRecord] }
  | .leaving, .error failure =>
    { listener := { l with stage := .ended }, broken := some failure }

end Listener

end Paywatch
