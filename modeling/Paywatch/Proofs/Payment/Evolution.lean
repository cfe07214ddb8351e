import Paywatch.Proofs.Payment.Spanning

/-!
# What becomes of a tracker

Operations are performed on a tracker one after another.  While one of them asks
for a rate, others may be performed from the start to the end, and while those
ask, others again.  Nothing is assumed of the answers, nor of what the feed
announces while it is subscribed to.
-/

namespace Paywatch

namespace Tracking

variable {ω : Type}

/-- What is done to a tracker from outside. -/
inductive Operation where
  | addAddress (address : String) (since : Int)
  | receive (outputs : List Output)
  | output (reported : Output)
  | announce (txid : String) (confidence : Confidence) (height : Option Int)
  /-- A callback on one output, whether or not anyone is still subscribed to it. -/
  | callback (outpoint : Outpoint) (confidence : Confidence) (height : Option Int)
  | retry
  deriving DecidableEq, Repr

/-- Perform an operation; `ask` tells the rate of a block. -/
def Operation.perform (ask : Int → Run (Tracking ω) Decimal) : Operation → Run (Tracking ω) Unit
  | .addAddress address since => Tracking.addAddress address since
  | .receive outputs => discard (Tracking.receive ask outputs)
  | .output reported => outputReceived ask reported
  | .announce txid confidence height => discard (Tracking.announce ask txid confidence height)
  | .callback outpoint confidence height => confidenceChanged ask outpoint confidence height
  | .retry => discard (Tracking.retry ask)

/-- A tracker to which nothing has happened. -/
def start (manner : FeedManner) (outside : ω) : Tracking ω :=
  { manner, outside }

/--
What becomes of a tracker when operations are performed one after another and
what lies outside changes between them.  While a rate is asked for, from any
state, the same may happen before the answer is given, to any depth.
-/
inductive Evolves : Tracking ω → Tracking ω → Prop where
  | refl (t : Tracking ω) : Evolves t t
  | outside {t u : Tracking ω} (before : Evolves t u)
      (announced : List (String × List (Confidence × Option Int))) (outside : ω) :
      Evolves t { u with
        manner := { u.manner with announcedAtOnce := announced }
        outside := outside }
  | logged {t u : Tracking ω} (before : Evolves t u) (record : LogRecord) :
      Evolves t (u.noted [.logged record])
  | perform {t u : Tracking ω} (before : Evolves t u) (ask : Int → Run (Tracking ω) Decimal)
      (reentrant : ∀ height s, Evolves s (Run.after (ask height) s)) (operation : Operation) :
      Evolves t (Run.after (operation.perform ask) u)

/-! ## In a scope -/

def Operation.outputs : Operation → List Output
  | .receive outputs => outputs
  | .output reported => [reported]
  | _ => []

/--
What becomes of a tracker when no more happens than a scope allows, also in
operations that are performed while a rate is asked for.  This is asked of all
states and not only of those in which a question is put, which excludes no run: what
a question does may depend on the state.
-/
inductive EvolvesWithin (scope : Scope) : Tracking ω → Tracking ω → Prop where
  | refl (t : Tracking ω) : EvolvesWithin scope t t
  | outside {t u : Tracking ω} (before : EvolvesWithin scope t u)
      (announced : List (String × List (Confidence × Option Int))) (outside : ω)
      (admitted : scope.Admits announced) :
      EvolvesWithin scope t { u with
        manner := { u.manner with announcedAtOnce := announced }
        outside := outside }
  | logged {t u : Tracking ω} (before : EvolvesWithin scope t u) (record : LogRecord) :
      EvolvesWithin scope t (u.noted [.logged record])
  | perform {t u : Tracking ω} (before : EvolvesWithin scope t u)
      (ask : Int → Run (Tracking ω) Decimal)
      (reentrant : ∀ height s, EvolvesWithin scope s (Run.after (ask height) s))
      (operation : Operation) (delivered : ∀ output ∈ operation.outputs, scope.delivered output)
      (ends : scope.failing ∨ Run.Succeeds (operation.perform ask) u) :
      EvolvesWithin scope t (Run.after (operation.perform ask) u)

theorem Operation.spanning_perform {scope : Scope} {ask : Int → Run (Tracking ω) Decimal}
    (asking : ∀ height, Spanning scope (Run.attempt (ask height))) (operation : Operation)
    (delivered : ∀ output ∈ operation.outputs, scope.delivered output) :
    Spanning scope (operation.perform ask) := by
  cases operation with
  | addAddress address since => exact spanning_addAddress address since
  | receive outputs => exact (spanning_receive asking outputs delivered).discard
  | output reported => exact spanning_outputReceived asking reported (delivered reported (.head _))
  | announce txid confidence height =>
    exact (spanning_announce asking txid confidence height).discard
  | callback outpoint confidence height =>
    exact spanning_confidenceChanged asking outpoint confidence height
  | retry => exact (spanning_retry asking).discard

/-- Whatever becomes of a tracker in a scope becomes of it by spans. -/
theorem EvolvesWithin.span {scope : Scope} {t u : Tracking ω} (evolves : EvolvesWithin scope t u)
    (admits : scope.Admits t.manner.announcedAtOnce) : Span scope t u := by
  induction evolves with
  | refl t => exact .refl t
  | outside _ announced outside admitted ih => exact (ih admits).outside announced outside admitted
  | logged _ record ih => exact (ih admits).noted (.logged _ record)
  | perform _ ask _ operation delivered ends ih asking =>
    have before := ih admits
    exact before.trans (operation.spanning_perform (fun height s admits _ => asking height s admits)
      delivered _ (before.admits admits) ends)

/-- Everything may happen in the scope that is not restricted. -/
theorem Evolves.within {t u : Tracking ω} (evolves : Evolves t u) : EvolvesWithin {} t u := by
  induction evolves with
  | refl t => exact .refl t
  | outside _ announced outside ih => exact ih.outside announced outside fun _ _ _ _ => trivial
  | logged _ record ih => exact ih.logged record
  | perform _ ask _ operation ih asking =>
    exact ih.perform ask asking operation (fun _ _ => trivial) (.inl trivial)

theorem Evolves.span {t u : Tracking ω} (evolves : Evolves t u) : Span {} t u :=
  evolves.within.span fun _ _ _ _ => trivial

/-- Whatever becomes of a tracker becomes of it by moves. -/
theorem Evolves.moves {t u : Tracking ω} (evolves : Evolves t u) : Moves t u :=
  evolves.span.moves

/-! ## One evolution after another -/

theorem Evolves.trans {t u v : Tracking ω} (first : Evolves t u) (second : Evolves u v) :
    Evolves t v := by
  induction second with
  | refl => exact first
  | outside _ announced outside ih => exact (ih first).outside announced outside
  | logged _ record ih => exact (ih first).logged record
  | perform _ ask reentrant operation ih _ => exact (ih first).perform ask reentrant operation

/-- What becomes of a tracker in a question during which one operation is performed. -/
theorem Evolves.question (ask : Int → Run (Tracking ω) Decimal)
    (reentrant : ∀ height s, Evolves s (Run.after (ask height) s)) (operation : Operation)
    (rate : Decimal) (t : Tracking ω) :
    Evolves t (Run.after (do operation.perform ask; return rate) t) := by
  have performed := Evolves.perform (.refl t) ask reentrant operation
  rw [Run.after_bind]
  cases Run.outcome (operation.perform ask) t with
  | error failure => exact performed
  | ok _ => exact performed

end Tracking

end Paywatch
