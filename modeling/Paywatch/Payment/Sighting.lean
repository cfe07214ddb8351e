import Paywatch.Payment.Output

/-!
# Sightings

A sighting is one stay of an output with the tracker, from the report that first
shows it to its credit or its end.  It is observed until the network decides: a
block confirms it, a conflict discards it.  A confirmed one waits for its credit
and never goes back.
-/

namespace Paywatch

/-- Where a sighting stands; a confirmed one knows its block once that is reported. -/
inductive Phase where
  | observed
  | confirmed (height : Option Int)
  | credited
  | discarded
  deriving DecidableEq, Repr

namespace Phase

/-- Is the sighting still to be decided or credited? -/
def isOpen : Phase → Bool
  | observed | confirmed _ => true
  | credited | discarded => false

/-- Does the sighting wait for its credit? -/
def isConfirmed : Phase → Bool
  | confirmed _ => true
  | _ => false

/-- The block at which a credit is priced. -/
def height? : Phase → Option Int
  | confirmed height => height
  | _ => none

/-- The phase after a report; the first block that is reported stays. -/
def advance (confidence : Confidence) (height : Option Int) : Phase → Phase
  | observed =>
    if confidence = .building then confirmed height
    else if confidence.isTerminal then discarded
    else observed
  | confirmed none => if confidence = .building then confirmed height else confirmed none
  | phase => phase

/-- The phase in which a first report with a confidence leaves a sighting. -/
def atFirst (confidence : Confidence) (height : Option Int) : Phase :=
  advance confidence height observed

end Phase

/-- A stay of an output: the report that began it, its phase, and its subscription. -/
structure Sighting where
  output : Output
  phase : Phase
  subscription : Option Nat := none
  deriving DecidableEq, Repr

namespace Sighting

def outpoint (s : Sighting) : Outpoint :=
  s.output.outpoint

end Sighting

end Paywatch
