import Paywatch.Link.Basic

/-!
# Scenarios on a link

Steps on a link, each with the behaviour of the driver in it.  Any step may give
the newest connection a failure to meet when it is closed.
-/

namespace Paywatch

namespace Scenario

inductive LinkOp where
  | openWith (refused : Option Failure)
  | subscribe (channels : List String) (fault : Option StatementFault)
  | poll (timeout : Double) (course : PollCourse)
  | close
  | serverClosed (value : Int)
  /-- A step that cannot be read. -/
  | unreadable (failure : Failure)

def changeNewest (l : Link) (f : Connection → Connection) : Link :=
  { l with connections := l.connections.modify (l.connections.length - 1) f }

def LinkOp.perform : LinkOp → Run Link (Option (List Notification))
  | .openWith refused => do
    Link.openWith refused
    return none
  | .subscribe channels fault => do
    Link.subscribe fault channels
    return none
  | .poll timeout course => do
    return some (← Link.poll course timeout)
  | .close => do
    Link.close
    return none
  | .serverClosed value => do
    modify fun l => changeNewest l fun c => { c with closed := value }
    return none
  | .unreadable failure => throw failure

structure LinkStep where
  result : Except Failure (Option (List Notification))
  events : List LinkEvent
  after : Link

def runLink (l : Link) : List (LinkOp × Option Failure) → List LinkStep
  | [] => []
  | (op, closeFault) :: ops =>
    let l := match closeFault with
      | some failure => changeNewest l fun c => { c with closeFault := some failure }
      | none => l
    let (result, after) := op.perform l
    ⟨result, after.events.drop l.events.length, after⟩ :: runLink after ops

end Scenario

end Paywatch
