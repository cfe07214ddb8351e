import Paywatch.Payment.Tracking

/-!
# What the journal tells

The journal holds every event of a run in its order.  Read from it are the
credits, the output with which a sighting began, and the first block that was
reported for it.  A rule for events is kept by a history when every event of it
stands where the rule allows it, given the events before.
-/

namespace Paywatch

/-- A credit as the journal tells it. -/
structure Credit where
  number : Nat
  output : Output
  height : Int
  rate : Decimal
  usd : Decimal
  deriving DecidableEq, Repr

namespace TrackingEvent

def credit? : TrackingEvent → Option Credit
  | .credited number output height rate usd => some ⟨number, output, height, rate, usd⟩
  | _ => none

def opening? (number : Nat) : TrackingEvent → Option Output
  | .sighted m output => if m = number then some output else none
  | _ => none

def block? (number : Nat) : TrackingEvent → Option Int
  | .reported m .building height => if m = number then height else none
  | _ => none

end TrackingEvent

namespace History

def credits (events : List TrackingEvent) : List Credit :=
  events.filterMap (·.credit?)

def opening? (number : Nat) (events : List TrackingEvent) : Option Output :=
  events.findSome? (·.opening? number)

/-- The first block that was reported for a sighting. -/
def firstBlock? (number : Nat) (events : List TrackingEvent) : Option Int :=
  events.findSome? (·.block? number)

/-- Events that tell of no credit. -/
def Quiet (events : List TrackingEvent) : Prop :=
  ∀ event ∈ events, event.credit? = none

/-- Every event stands where a rule allows it after the events before. -/
def Keeps (rule : List TrackingEvent → TrackingEvent → Prop) (events : List TrackingEvent) : Prop :=
  ∀ before event after, events = before ++ event :: after → rule before event

@[simp]
theorem credits_append (before after : List TrackingEvent) :
    credits (before ++ after) = credits before ++ credits after :=
  List.filterMap_append

theorem Quiet.credits {events : List TrackingEvent} (quiet : Quiet events) : credits events = [] :=
  List.filterMap_eq_nil_iff.mpr quiet

theorem quiet_nil : Quiet [] :=
  fun _ inside => by cases inside

theorem quiet_singleton {event : TrackingEvent} (quiet : event.credit? = none) : Quiet [event] := by
  intro other inside
  rw [List.mem_singleton.mp inside]
  exact quiet

theorem Quiet.append {first second : List TrackingEvent} (left : Quiet first)
    (right : Quiet second) : Quiet (first ++ second) := by
  intro event inside
  rcases List.mem_append.mp inside with before | after
  · exact left event before
  · exact right event after

theorem opening?_append (number : Nat) (before after : List TrackingEvent) :
    opening? number (before ++ after) = (opening? number before).or (opening? number after) :=
  List.findSome?_append

theorem firstBlock?_append (number : Nat) (before after : List TrackingEvent) :
    firstBlock? number (before ++ after) =
      (firstBlock? number before).or (firstBlock? number after) :=
  List.findSome?_append

variable {rule : List TrackingEvent → TrackingEvent → Prop} {events : List TrackingEvent}

theorem keeps_nil : Keeps rule [] := by
  intro before event after eq
  cases before <;> cases eq

/-- A history keeps a rule when it does so up to its last event and that one is allowed. -/
theorem Keeps.concat (keeps : Keeps rule events) {event : TrackingEvent}
    (allowed : rule events event) : Keeps rule (events ++ [event]) := by
  intro before e after eq
  rcases List.eq_nil_or_concat after with rfl | ⟨after, last, rfl⟩
  · obtain ⟨rfl, rfl⟩ : events = before ∧ event = e := by
      simpa using List.append_inj' eq rfl
    exact allowed
  · apply keeps before e after
    have split : events ++ [event] = (before ++ e :: after) ++ [last] := by
      rw [eq, List.concat_eq_append, List.append_assoc, List.cons_append]
    exact (List.append_inj' split rfl).1

end History

namespace Tracking

variable {ω : Type}

def credits (t : Tracking ω) : List Credit :=
  History.credits t.journal

end Tracking

end Paywatch
