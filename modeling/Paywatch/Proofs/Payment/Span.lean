import Paywatch.Proofs.Payment.Equations

/-!
# Spans of moves

The moves of a tracker come in spans.  A sighting that comes to its end gives its
subscription up at once.  An undecided output is followed in a span of its own,
which begins with the subscription and ends when that is kept with the sighting;
what the feed announces meanwhile lies inside.  Only an operation that fails
leaves such a span without its end.

A scope restricts what may happen in a run.
-/

namespace Paywatch

/--
What may happen in a run: which outputs are delivered, what the feed announces
while it is subscribed to, and whether operations may fail.
-/
structure Scope where
  delivered : Output → Prop := fun _ => True
  announced : Confidence → Prop := fun _ => True
  failing : Prop := True

/-- All that the feed announces at once is in the scope. -/
def Scope.Admits (scope : Scope) (announced : List (String × List (Confidence × Option Int))) :
    Prop :=
  ∀ entry ∈ announced, ∀ report ∈ entry.2, scope.announced report.1

namespace Tracking

variable {ω : Type} {t u v : Tracking ω} {scope : Scope}

/-! ## What does not concern subscriptions -/

def held? (t : Tracking ω) (number : Nat) : Option Nat :=
  t.sightings[number]?.bind (·.subscription)

/-- A sighting has been credited or discarded. -/
def Closed (t : Tracking ω) (number : Nat) : Prop :=
  ∃ s, t.sightings[number]? = some s ∧ s.phase.isOpen = false

theorem Closed.isOpen_eq {number : Nat} {s : Sighting} (closed : t.Closed number)
    (found : t.sightings[number]? = some s) : s.phase.isOpen = false := by
  obtain ⟨s', found', ended⟩ := closed
  rw [found] at found'
  cases found'
  exact ended

/-- Moves that begin no sighting and leave subscriptions and the manner of the feed as they are. -/
structure Plain (t u : Tracking ω) : Prop where
  moves : Moves t u
  subscriptions : u.feed.subscriptions = t.feed.subscriptions
  nextId : u.feed.nextId = t.feed.nextId
  held : u.sightings.map (·.subscription) = t.sightings.map (·.subscription)
  manner : u.manner = t.manner

namespace Plain

theorem of_same (moves : Moves t u) (feed : u.feed = t.feed) (sightings : u.sightings = t.sightings)
    (manner : u.manner = t.manner) : Plain t u where
  moves := moves
  subscriptions := by rw [feed]
  nextId := by rw [feed]
  held := by rw [sightings]
  manner := manner

theorem trans (first : Plain t u) (second : Plain u v) : Plain t v where
  moves := first.moves.trans second.moves
  subscriptions := second.subscriptions.trans first.subscriptions
  nextId := second.nextId.trans first.nextId
  held := second.held.trans first.held
  manner := second.manner.trans first.manner

/-- A sighting that comes into another phase keeps its subscription. -/
theorem phased {number : Nat} {phase : Phase} (moves : Moves t (u.phased number phase))
    (feed : u.feed = t.feed) (sightings : u.sightings = t.sightings)
    (manner : u.manner = t.manner) : Plain t (u.phased number phase) where
  moves := moves
  subscriptions := by rw [← feed]; rfl
  nextId := by rw [← feed]; rfl
  held := by
    rw [← sightings]
    apply List.ext_getElem?
    intro m
    rw [List.getElem?_map, List.getElem?_map, phased_getElem?, Option.map_map]
    congr 1
    funext s
    simp only [Function.comp]
    split <;> rfl
  manner := manner

theorem length_eq (plain : Plain t u) : u.sightings.length = t.sightings.length := by
  simpa using congrArg List.length plain.held

theorem held?_eq (plain : Plain t u) (number : Nat) : u.held? number = t.held? number := by
  have same := congrArg (·[number]?) plain.held
  simp only [List.getElem?_map] at same
  unfold held?
  cases found : t.sightings[number]? with
  | none =>
    rw [found] at same
    rw [Option.map_eq_none_iff.mp same]
  | some s =>
    rw [found] at same
    obtain ⟨s', found', subscription⟩ := Option.map_eq_some_iff.mp same
    rw [found', Option.bind_some, Option.bind_some, subscription]

/-- A sighting after the moves is the one that had its number before. -/
theorem found (plain : Plain t u) {number : Nat} {s' : Sighting}
    (found : u.sightings[number]? = some s') :
    ∃ s, t.sightings[number]? = some s ∧ s'.output = s.output ∧ s.phase.Precedes s'.phase := by
  obtain ⟨known, -⟩ := List.getElem?_eq_some_iff.mp found
  rw [plain.length_eq] at known
  obtain ⟨s, before, output, precedes, -⟩ := Moves.earlier plain.moves found known
  exact ⟨s, before, output, precedes⟩

end Plain

/-! ## Spans -/

/-- Giving up the subscription of a sighting that has come to its end. -/
theorem moves_release {t : Tracking ω} {number : Nat}
    (closed : ∀ s, t.sightings[number]? = some s → s.phase.isOpen = false) :
    Moves t (Run.after (release number) t) := by
  cases held : t.sightings[number]?.bind (·.subscription) with
  | none =>
    rw [after_release_none held]
  | some id =>
    obtain ⟨s, found, subscribed⟩ := Option.bind_eq_some_iff.mp held
    rw [after_release_some held]
    exact .single (.cancelled t number id s found (closed s found) subscribed)

/-- Keeping a subscription with its sighting, or giving it up. -/
theorem moves_keep {t : Tracking ω} {number : Nat} (known : number < t.sightings.length)
    (id : Nat) : Moves t (Run.after (keep number id) t) := by
  have held := Move.held t number id known
  rw [after_keep]
  split
  · rename_i ended
    refine (moves_release fun s found => ?_).head held
    rw [found, Option.map_some, Option.some.injEq] at ended
    rw [ended]
    rfl
  · exact .single held

/--
What becomes of a tracker in a scope, with all that lies between what is begun and
its end.  Where operations may fail a span may also stop in between, so that the
spans of a scope without restrictions lead to every state that a run passes.
-/
inductive Span (scope : Scope) : Tracking ω → Tracking ω → Prop where
  | refl (t : Tracking ω) : Span scope t t
  /-- No sighting comes to its end. -/
  | moved {t u v : Tracking ω} (before : Span scope t u) (plain : Plain u v)
      (lasting : ∀ number, v.Closed number → u.Closed number) : Span scope t v
  /-- A sighting comes to its end, and its subscription is given up. -/
  | ended {t u v : Tracking ω} (before : Span scope t u) (plain : Plain u v) (number : Nat)
      (closed : v.Closed number)
      (lasting : ∀ other, other ≠ number → v.Closed other → u.Closed other) :
      Span scope t (Run.after (release number) v)
  | outside {t u : Tracking ω} (before : Span scope t u)
      (announced : List (String × List (Confidence × Option Int))) (outside : ω)
      (admitted : scope.Admits announced) :
      Span scope t { u with
        manner := { u.manner with announcedAtOnce := announced }
        outside := outside }
  /-- A sighting begins that is decided, or one that an operation which fails does not follow. -/
  | sighted {t u : Tracking ω} (before : Span scope t u) (output : Output)
      (new : u.isProcessed output.outpoint = false)
      (watched : u.feed.isWatched output.address = true)
      (unknown : u.open? output.outpoint = none) (delivered : scope.delivered output)
      (decided : Phase.atFirst output.confidence output.height ≠ .observed ∨ scope.failing) :
      Span scope t (u.sighting output)
  /-- An output is subscribed to, and the subscription kept after what is announced meanwhile. -/
  | followed {t u v : Tracking ω} (before : Span scope t u) (output : Output)
      (new : u.isProcessed output.outpoint = false)
      (watched : u.feed.isWatched output.address = true)
      (unknown : u.open? output.outpoint = none) (delivered : scope.delivered output)
      (undecided : Phase.atFirst output.confidence output.height = .observed)
      (inner : Span scope (u.sighting output) v)
      (uncredited : ¬ scope.announced .building → v.ledger = u.ledger) :
      Span scope t (Run.after (keep u.sightings.length u.feed.nextId) v)

namespace Span

theorem trans (first : Span scope t u) (second : Span scope u v) : Span scope t v := by
  induction second with
  | refl => exact first
  | moved _ plain lasting ih => exact (ih first).moved plain lasting
  | ended _ plain number closed lasting ih => exact (ih first).ended plain number closed lasting
  | outside _ announced outside admitted ih => exact (ih first).outside announced outside admitted
  | sighted _ output new watched unknown delivered decided ih =>
    exact (ih first).sighted output new watched unknown delivered decided
  | followed _ output new watched unknown delivered undecided inner uncredited ih _ =>
    exact (ih first).followed output new watched unknown delivered undecided inner uncredited

/-- What becomes of a tracker in a scope may become of it without a restriction. -/
theorem widen (span : Span scope t u) : Span {} t u := by
  induction span with
  | refl t => exact .refl t
  | moved _ plain lasting ih => exact ih.moved plain lasting
  | ended _ plain number closed lasting ih => exact ih.ended plain number closed lasting
  | outside _ announced outside _ ih => exact ih.outside announced outside fun _ _ _ _ => trivial
  | sighted _ output new watched unknown _ _ ih =>
    exact ih.sighted output new watched unknown trivial (.inr trivial)
  | followed _ output new watched unknown _ undecided _ _ ih innerIh =>
    exact ih.followed output new watched unknown trivial undecided innerIh fun quiet =>
      absurd trivial quiet

theorem moves (span : Span scope t u) : Moves t u := by
  induction span with
  | refl => exact .refl
  | moved _ plain _ ih => exact ih.trans plain.moves
  | ended _ plain number closed _ ih =>
    exact (ih.trans plain.moves).trans (moves_release fun _ => closed.isOpen_eq)
  | outside _ announced outside _ ih => exact ih.tail (.outside _ announced outside)
  | sighted _ output new watched unknown _ _ ih =>
    exact ih.tail (.sighted _ output new watched unknown)
  | @followed _ u v _ output new watched unknown _ _ _ _ ih inner =>
    have sighted : Moves u v := inner.head (.sighted _ output new watched unknown)
    have begun : u.sightings.length < (u.sighting output).sightings.length := by simp
    exact (ih.trans sighted).trans (moves_keep (Moves.known inner begun) _)

/-- A sighting that is being followed is known. -/
theorem known_sighting {output : Output} (inner : Span scope (t.sighting output) u) :
    t.sightings.length < u.sightings.length :=
  Moves.known inner.moves (by simp)

/-- An event that is noted concerns neither sightings nor subscriptions. -/
theorem noted (before : Span scope t u) {events : List TrackingEvent}
    (move : Move u (u.noted events)) : Span scope t (u.noted events) :=
  before.moved (.of_same (.single move) rfl rfl rfl) fun _ closed => closed

end Span

/-! ## The manner of the feed -/

theorem release_manner (t : Tracking ω) (number : Nat) :
    (Run.after (release number) t).manner = t.manner := by
  cases held : t.sightings[number]?.bind (·.subscription) with
  | none => rw [after_release_none held]
  | some id =>
    rw [after_release_some held, cancelling]
    split <;> rfl

theorem keep_manner (t : Tracking ω) (number id : Nat) :
    (Run.after (keep number id) t).manner = t.manner := by
  rw [after_keep]
  split
  · exact release_manner _ number
  · rfl

theorem sighting_manner (t : Tracking ω) (output : Output) :
    (t.sighting output).manner = t.manner := by
  unfold sighting
  split <;> rfl

/-- What the feed announces at once stays in the scope. -/
theorem Span.admits (span : Span scope t u) (admits : scope.Admits t.manner.announcedAtOnce) :
    scope.Admits u.manner.announcedAtOnce := by
  induction span with
  | refl => exact admits
  | moved _ plain _ ih =>
    rw [plain.manner]
    exact ih admits
  | ended _ plain number _ _ ih =>
    rw [release_manner, plain.manner]
    exact ih admits
  | outside _ _ _ admitted => exact admitted
  | sighted _ output _ _ _ _ _ ih =>
    rw [sighting_manner]
    exact ih admits
  | followed _ output _ _ _ _ _ _ _ ih inner =>
    rw [keep_manner]
    exact inner (by rw [sighting_manner]; exact ih admits)

/-- Whether the feed keeps cancelled subscriptions does not change. -/
theorem Span.keepsCancelled (span : Span scope t u) :
    u.manner.keepsCancelled = t.manner.keepsCancelled := by
  induction span with
  | refl => rfl
  | moved _ plain _ ih => rw [plain.manner, ih]
  | ended _ plain number _ _ ih => rw [release_manner, plain.manner, ih]
  | outside _ _ _ _ ih => exact ih
  | sighted _ output _ _ _ _ _ ih => rw [sighting_manner, ih]
  | followed _ output _ _ _ _ _ _ _ ih inner => rw [keep_manner, inner, sighting_manner, ih]

end Tracking

end Paywatch
