import Paywatch.Database.Statement
import Paywatch.Listener.Notification
import Paywatch.Log
import Paywatch.Run

/-!
# The link to the database

A link holds at most one connection to the database, on which notifications
arrive.  It forgets the connection before it closes it, and makes a new one only
after that.  The failures of the driver that mean that the connection is gone
are told apart from all others, which pass unchanged.

How the database and its driver behave in a call is an argument of the call.
-/

namespace Paywatch

/-- A notification as the driver buffers it. -/
structure Arrival where
  pid : Option Int
  channel : String
  payload : Option String
  deriving DecidableEq, Repr

/--
A connection: whether it is closed, which any number but zero says, how often it
was told to close, what has arrived on it, and the failure that closing it meets.
-/
structure Connection where
  closed : Int := 0
  closeCalls : Nat := 0
  buffer : List Arrival := []
  closeFault : Option Failure := none
  deriving DecidableEq, Repr

def Connection.isClosed (c : Connection) : Bool :=
  c.closed ≠ 0

inductive LinkEvent where
  | logged (record : LogRecord)
  | selected (connection : Nat) (timeout : Double)
  | executed (connection : Nat) (channel : String)
  | polled (connection : Nat)
  deriving DecidableEq, Repr

/-- A link: all connections ever made, the number of the one it holds, and its history. -/
structure Link where
  connections : List Connection := []
  held : Option Nat := none
  events : List LinkEvent := []
  deriving DecidableEq, Repr

/-- How the driver behaves while the link polls. -/
structure PollCourse where
  readable : Except Failure Bool
  arriving : Except Failure (List Arrival)
  now : Double

namespace Link

def note (event : LinkEvent) : Run Link Unit :=
  modify fun l => { l with events := l.events ++ [event] }

def change (number : Nat) (f : Connection → Connection) : Run Link Unit :=
  modify fun l => { l with connections := l.connections.modify number f }

/-! ## Closing and opening -/

def closeRecord (failure : Failure) : LogRecord :=
  ⟨.warning, s!"NOTIFICATION_CHANNEL: Error closing connection: {failure.message}", none⟩

/-- Tell a connection to close, unless it is closed. -/
def closeConnection (number : Nat) : Run Link Unit := do
  match (← get).connections[number]? with
  | none => return
  | some c =>
    if c.isClosed then return
    change number fun c => { c with closeCalls := c.closeCalls + 1 }
    match c.closeFault with
    | none => change number fun c => { c with closed := 1 }
    | some failure =>
      if failure.isDriverFault then note (.logged (closeRecord failure)) else throw failure

def close : Run Link Unit := do
  match (← get).held with
  | none => return
  | some number =>
    modify fun l => { l with held := none }
    closeConnection number

/-- Hold a new connection in place of the old one, unless the driver fails to make it. -/
def openWith (refused : Option Failure) : Run Link Unit := do
  close
  match refused with
  | none =>
    modify fun l =>
      { l with connections := l.connections ++ [{}], held := some l.connections.length }
  | some failure =>
    if failure.isDriverFault then throw (.openFailed failure.message) else throw failure

/-! ## Using the connection -/

/-- The number of the connection that is held, as long as that is open. -/
def require : Run Link Nat := do
  let l ← get
  match l.held with
  | none => throw .notOpen
  | some number =>
    match l.connections[number]? with
    | none => throw .notOpen
    | some c => if c.isClosed then throw .notOpen else return number

def listeningRecord (channel : String) : LogRecord :=
  ⟨.info, s!"NOTIFICATION_CHANNEL: Listening on '{channel}'", none⟩

/-- Subscribe to channels when `executed` statements have been executed. -/
def subscribeFrom (number : Nat) (fault : Option StatementFault) (executed : Nat) :
    List String → Run Link Unit
  | [] => return
  | channel :: channels => do
    match fault.filter (·.after = executed) with
    | some found =>
      if found.failure.stopsDriver then throw (.subscribeFailed found.failure.message)
      else throw found.failure
    | none =>
      note (.executed number channel)
      note (.logged (listeningRecord channel))
      subscribeFrom number fault (executed + 1) channels

def subscribe (fault : Option StatementFault) (channels : List String) : Run Link Unit := do
  let number ← require
  subscribeFrom number fault 0 channels

/-- A failure met while polling; some mean that the connection is gone. -/
def pollFailure (failure : Failure) : Failure :=
  if failure.breaksPoll then .connectionLost failure.message else failure

/-- What has arrived, as notifications of a time; the buffer is emptied. -/
def drain (number : Nat) (now : Double) : Run Link (List Notification) := do
  let arrived := ((← get).connections[number]?.map (·.buffer)).getD []
  change number fun c => { c with buffer := [] }
  return arrived.map fun a => ⟨a.channel, a.payload, now, a.pid⟩

/-- Wait for notifications; without any sign of them nothing is looked at. -/
def poll (course : PollCourse) (timeout : Double) : Run Link (List Notification) := do
  let number ← require
  note (.selected number timeout)
  match course.readable with
  | .error failure => throw (pollFailure failure)
  | .ok false => return []
  | .ok true =>
    note (.polled number)
    match course.arriving with
    | .error failure => throw (pollFailure failure)
    | .ok arrivals =>
      change number fun c => { c with buffer := c.buffer ++ arrivals }
      drain number course.now

end Link

end Paywatch
