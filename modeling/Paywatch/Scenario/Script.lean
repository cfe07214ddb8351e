import Paywatch.Payment.Tracker
import Paywatch.Rates.Source
import Paywatch.Scenario.Answer

/-!
# Scripted rates

What happens while a rate is asked for is part of a scenario.  Steps can be put
in wait for the next question, and are gone through before it is answered; a
question that one of them raises takes what then waits.  Every question uses up
what waits for it, so that questions are never nested deeper than steps are put
in wait.

All of this is parametric in `α`, the steps of a scenario, and in `τ`, what they
change beside the tracker and the rates.
-/

namespace Paywatch

namespace Scenario

/-- A step that is performed at once, or steps that wait for the next question about a rate. -/
inductive Hooked (α : Type) where
  | now (op : α)
  | onLookup (own : List (Hooked α))

variable {α τ : Type}

mutual

/-- The number of times that steps are put in wait, in a step and in all that it holds. -/
def Hooked.waits : Hooked α → Nat
  | .onLookup own => countWaits own + 1
  | .now _ => 0

/-- The number of times that steps are put in wait, in some steps and in all that they hold. -/
def countWaits : List (Hooked α) → Nat
  | [] => 0
  | op :: ops => op.waits + countWaits ops

end

/-- The rates of a scenario, the steps that wait for a question, and what those gave. -/
structure RateScript (α τ : Type) where
  source : RateSource
  waiting : List (List (Hooked α)) := []
  nested : List (Except Failure Answer) := []
  beside : τ

abbrev ScriptedTracking (α τ : Type) : Type :=
  Tracking (RateScript α τ)

def loggedIn (events : List TrackingEvent) : List LogRecord :=
  events.filterMap fun
    | .logged record => some record
    | _ => none

namespace ScriptedTracking

/-- How a step is performed when it is known how a rate is asked for. -/
abbrev Performing (α τ : Type) : Type :=
  (Int → Run (ScriptedTracking α τ) Decimal) → α → Run (ScriptedTracking α τ) Answer

def changeScript (f : RateScript α τ → RateScript α τ) : Run (ScriptedTracking α τ) Unit :=
  modify fun w => { w with outside := f w.outside }

def answer (height : Int) : Run (ScriptedTracking α τ) Decimal := do
  let (result, records, source) := (← get).outside.source.rateAt height
  changeScript fun script => { script with source := source }
  records.forM fun record => Tracking.note (.logged record)
  Run.ofExcept result

def takeWaiting : Run (ScriptedTracking α τ) (List (Hooked α)) := do
  match (← get).outside.waiting with
  | [] => return []
  | own :: later =>
    changeScript fun script => { script with waiting := later }
    return own

def performWith (ask : Int → Run (ScriptedTracking α τ) Decimal) (how : Performing α τ) :
    Hooked α → Run (ScriptedTracking α τ) Answer
  | .now op => how ask op
  | .onLookup own => do
    changeScript fun script => { script with waiting := script.waiting ++ [own] }
    return .nothing

/-- The rate of a block, after the steps that wait for the question, nested `depth` deep at most. -/
def ask (how : Performing α τ) : Nat → Int → Run (ScriptedTracking α τ) Decimal
  | 0, height => answer height
  | depth + 1, height => do
    (← takeWaiting).forM fun op => do
      let result ← Run.attempt (performWith (ask how depth) how op)
      changeScript fun script => { script with nested := script.nested ++ [result] }
    answer height

/-- Perform a step in which questions are nested `depth` deep at most. -/
def perform (how : Performing α τ) (depth : Nat) (op : Hooked α) :
    Run (ScriptedTracking α τ) Answer :=
  performWith (ask how depth) how op

def journalSince (w earlier : ScriptedTracking α τ) : List TrackingEvent :=
  w.journal.drop earlier.journal.length

/-- The answers of the steps that waited for a question since another time. -/
def nestedSince (w earlier : ScriptedTracking α τ) : List (Except Failure Answer) :=
  w.outside.nested.drop earlier.outside.nested.length

end ScriptedTracking

end Scenario

end Paywatch
