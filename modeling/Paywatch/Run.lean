import Paywatch.Failure

/-!
# Steps that may fail

A step reads and changes a state and then gives a result or fails.  The state
that a failing step has reached stays.
-/

namespace Paywatch

/-- A step on a state of type `σ`. -/
abbrev Run (σ α : Type) : Type :=
  ExceptT Failure (StateM σ) α

namespace Run

variable {σ τ α : Type}

/-- A result that is already known. -/
def ofExcept : Except Failure α → Run σ α
  | .ok value => pure value
  | .error failure => throw failure

/-- The result or the failure of a step, as a value. -/
def attempt (step : Run σ α) : Run σ (Except Failure α) := fun s =>
  let (result, s) := step s
  (.ok result, s)

/-- A step on one part of a larger state. -/
def within (part : σ → τ) (replace : τ → σ → σ) (step : Run τ α) : Run σ α := fun s =>
  let (result, t) := step (part s)
  (result, replace t s)

end Run

end Paywatch
