import Paywatch.Proofs.Feed.Earliest
import Paywatch.Proofs.Payment.Chronicle
import Paywatch.Proofs.Payment.Handles

/-!
# A consistent tracker

After every operation, be it one that fails or one that is performed during
another one, the open sightings are what they should be: none of an output in the
ledger, one at most for an output, each undecided one within reach of the feed,
and all for addresses that are watched.
-/

namespace Paywatch

namespace Tracking

variable {ω : Type} {t u : Tracking ω}

/-- No move makes the feed forget an address. -/
theorem Move.isWatched (move : Move t u) {address : String}
    (watched : t.feed.isWatched address = true) : u.feed.isWatched address = true := by
  cases move with
  | logged | outside | held | reported | asked | answered | credited | unsummed => exact watched
  | watched new => exact Feed.isWatched_watch t.feed new watched
  | cancelled number id =>
    rw [cancelling_feed]
    split <;> exact watched
  | sighted output =>
    rcases sighting_feed t output with same | more
    · rw [same]
      exact watched
    · rw [more]
      exact watched

/-- The addresses of all sightings are watched. -/
def Attended (t : Tracking ω) : Prop :=
  ∀ (number : Nat) (s : Sighting), t.sightings[number]? = some s →
    t.feed.isWatched s.output.address = true

theorem Move.attended (move : Move t u) (attended : t.Attended) : u.Attended := by
  intro number s' found
  rcases move.sightings_length with length | ⟨output, rfl, -, watched, -⟩
  · obtain ⟨known, -⟩ := List.getElem?_eq_some_iff.mp found
    rw [length] at known
    obtain ⟨s, before, same, -⟩ := Moves.earlier (.single move) found known
    rw [same]
    exact move.isWatched (attended number s before)
  · rcases sighting_found found with before | ⟨-, rfl⟩
    · exact move.isWatched (attended number s' before)
    · exact move.isWatched watched

theorem Moves.attended (moves : Moves t u) (attended : t.Attended) : u.Attended := by
  induction moves with
  | refl => exact attended
  | tail _ move ih => exact move.attended ih

theorem attended_start (manner : FeedManner) (outside : ω) : (start manner outside).Attended :=
  fun _ _ found => by cases found

/-! ## All invariants together -/

/-- All that is known of the ledger, the register and the journal together. -/
structure Coherent (t : Tracking ω) : Prop where
  balanced : t.Balanced
  orderly : t.Orderly
  settled : t.Settled
  chronicle : t.Chronicle
  attended : t.Attended

theorem coherent_start (manner : FeedManner) (outside : ω) : (start manner outside).Coherent :=
  ⟨balanced_start manner outside, orderly_start manner outside, settled_start manner outside,
    chronicle_start manner outside, attended_start manner outside⟩

theorem Moves.coherent (moves : Moves t u) (coherent : t.Coherent) : u.Coherent :=
  ⟨Moves.balanced moves coherent.balanced, Moves.orderly moves coherent.orderly,
    Moves.settled moves coherent.settled, Moves.chronicle moves coherent.chronicle coherent.orderly,
    Moves.attended moves coherent.attended⟩

/-! ## What is true of the sightings that are open -/

/-- The report to a subscription on an output reaches the sighting with a number. -/
structure Reaches (t : Tracking ω) (sub : Subscription Callback) (number : Nat)
    (output : Outpoint) : Prop where
  on : sub.output = output
  callback : sub.callback = .confidence output
  told : ∀ (ask : Int → Run (Tracking ω) Decimal) (confidence : Confidence) (height : Option Int),
    Run.Alike (confidenceChanged ask output confidence height) t
      (react ask number confidence height) t

/-- An open sighting, as the tracker should have it. -/
structure Tracked (t : Tracking ω) (number : Nat) (s : Sighting) : Prop where
  /-- It is found under its own output only. -/
  own : ∀ output, t.open? output = some number ↔ output = s.outpoint
  /-- No block has been reported, or it is confirmed in the first one that was. -/
  phase : s.phase = .observed ∧ History.firstBlock? number t.journal = none ∨
    s.phase = .confirmed (History.firstBlock? number t.journal)
  unprocessed : t.isProcessed s.outpoint = false
  uncredited : ∀ c ∈ t.credits, c.number ≠ number ∧ c.output.outpoint ≠ s.outpoint
  subscribed : s.phase = .observed → ∃ sub ∈ t.feed.subscriptions, t.Reaches sub number s.outpoint
  watched : t.feed.isWatched s.output.address = true

/-- Every open sighting is as it should be, and so is every output in the ledger. -/
structure Consistent (t : Tracking ω) : Prop where
  tracked : ∀ (number : Nat) (s : Sighting), t.sightings[number]? = some s →
    s.phase.isOpen = true → t.Tracked number s
  known : ∀ (output : Outpoint) (number : Nat), t.open? output = some number →
    ∃ s, t.sightings[number]? = some s ∧ s.phase.isOpen = true ∧ s.outpoint = output
  processed : ∀ output, t.isProcessed output = true → t.open? output = none ∧
    ∃ c ∈ t.credits, c.output.outpoint = output ∧ t.feed.isWatched c.output.address = true

namespace Coherent

variable {number : Nat} {s : Sighting}

theorem unprocessed (coherent : t.Coherent) (found : t.sightings[number]? = some s)
    (isOpen : s.phase.isOpen = true) : t.isProcessed s.outpoint = false :=
  coherent.settled.unprocessed coherent.balanced coherent.orderly found isOpen

theorem own (coherent : t.Coherent) (found : t.sightings[number]? = some s)
    (isOpen : s.phase.isOpen = true) (output : Outpoint) :
    t.open? output = some number ↔ output = s.outpoint := by
  constructor
  · intro known
    obtain ⟨s', found', -, same⟩ := open?_found known
    rw [found] at found'
    cases found'
    exact same.symm
  · rintro rfl
    exact coherent.orderly.open?_eq found isOpen

theorem phase (coherent : t.Coherent) (found : t.sightings[number]? = some s)
    (isOpen : s.phase.isOpen = true) :
    s.phase = .observed ∧ History.firstBlock? number t.journal = none ∨
      s.phase = .confirmed (History.firstBlock? number t.journal) := by
  have knows := coherent.chronicle.blocks number s found
  generalize s.phase = phase at isOpen knows
  cases phase with
  | observed => exact .inl ⟨rfl, knows⟩
  | confirmed height => exact .inr (congrArg Phase.confirmed (Eq.symm knows))
  | credited | discarded => cases isOpen

theorem uncredited (coherent : t.Coherent) (found : t.sightings[number]? = some s)
    (isOpen : s.phase.isOpen = true) {c : Credit} (made : c ∈ t.credits) :
    c.number ≠ number ∧ c.output.outpoint ≠ s.outpoint := by
  constructor
  · rintro rfl
    obtain ⟨s', found', -, credited⟩ := coherent.settled.credit c made
    rw [found] at found'
    cases found'
    exact Phase.ne_credited isOpen credited
  · intro same
    have processed := (coherent.balanced.isProcessed_iff _).mpr ⟨c, made, same⟩
    rw [coherent.unprocessed found isOpen] at processed
    cases processed

/-- An undecided sighting is told of what is reported to its subscription. -/
theorem subscribed (coherent : t.Coherent) (numbered : t.Numbered)
    (found : t.sightings[number]? = some s) (observed : s.phase = .observed) :
    ∃ sub ∈ t.feed.subscriptions, t.Reaches sub number s.outpoint := by
  obtain ⟨sub, inside, issued⟩ := numbered.observed number s found observed
  obtain ⟨output, known, -, rfl⟩ := issued?_eq_some.mp issued
  rw [outputs_getElem?, found] at known
  cases known
  have own := coherent.orderly.open?_eq found (by rw [observed]; rfl)
  exact ⟨_, inside, rfl, rfl, fun ask => confidenceChanged_some ask own⟩

theorem processed (coherent : t.Coherent) {output : Outpoint}
    (processed : t.isProcessed output = true) :
    t.open? output = none ∧ ∃ c ∈ t.credits, c.output.outpoint = output ∧
      t.feed.isWatched c.output.address = true := by
  constructor
  · cases known : t.open? output with
    | none => rfl
    | some number =>
      obtain ⟨s, found, isOpen, rfl⟩ := open?_found known
      rw [coherent.unprocessed found isOpen] at processed
      cases processed
  · obtain ⟨c, made, same⟩ := (coherent.balanced.isProcessed_iff output).mp processed
    obtain ⟨s, found, reported, -⟩ := coherent.settled.credit c made
    refine ⟨c, made, same, ?_⟩
    rw [← reported]
    exact coherent.attended c.number s found

theorem consistent (coherent : t.Coherent) (numbered : t.Numbered) : t.Consistent where
  tracked := fun _ _ found isOpen =>
    ⟨coherent.own found isOpen, coherent.phase found isOpen, coherent.unprocessed found isOpen,
      fun _ => coherent.uncredited found isOpen, coherent.subscribed numbered found,
      coherent.attended _ _ found⟩
  known := fun _ _ => open?_found
  processed := fun _ => coherent.processed

end Coherent

theorem Span.consistent {scope : Scope} {manner : FeedManner} {outside : ω}
    (span : Span scope (start manner outside) t) : t.Consistent :=
  (span.moves.coherent (coherent_start manner outside)).consistent
    (span.numbered (numbered_start manner outside))

/--
Whatever becomes of a tracker, it is consistent.  It is so after every operation
that is performed from a state in which others are still under way, because they
ask for a rate or because they subscribe to an output; and it makes no difference
whether operations fail.
-/
theorem consistent_throughout (manner : FeedManner) (outside : ω) {t : Tracking ω}
    (evolves : Evolves (start manner outside) t) :
    t.Consistent ∧
    ∀ s u : Tracking ω, Span {} (start manner outside) s → Evolves s u → u.Consistent :=
  ⟨evolves.span.consistent, fun _ _ passed later => (passed.trans later.span).consistent⟩

/-- Rates of which only the one of block 7 can be converted at. -/
def boundless (height : Int) : Run (Tracking Unit) Decimal :=
  return if height = 7 then Decimal.ofInt 20000 else .infinite false

def part (index : Int) (confidence : Confidence) (height : Option Int) : Operation :=
  .output ⟨⟨"tx", index⟩, "address", 100000000, confidence, height⟩

/-- The first output has been credited, and the second one is not worth anything. -/
def stranded : Tracking Unit :=
  Run.after ((part 1 .building (some 8)).perform boundless)
    (Run.after ((part 0 .building (some 7)).perform boundless)
      (Run.after ((Operation.addAddress "address" 0).perform boundless)
        (start { keepsCancelled := true } ())))

/-- The third output is reported before it is in a block. -/
def mixed : Tracking Unit :=
  Run.after ((part 2 .pending none).perform boundless) stranded

theorem consistent_throughout_mixed :
    mixed.Consistent ∧ mixed.isProcessed ⟨"tx", 0⟩ = true ∧ mixed.open? ⟨"tx", 1⟩ = some 1 ∧
      mixed.open? ⟨"tx", 2⟩ = some 2 ∧
      ∃ failure, Run.outcome ((part 1 .building (some 8)).perform boundless) stranded =
        .error failure := by
  have reentrant : ∀ height s, Evolves s (Run.after (boundless height) s) := fun _ s => .refl s
  have evolves : Evolves (start { keepsCancelled := true } ()) mixed :=
    .perform (.perform (.perform (.perform (.refl _) _ reentrant _) _ reentrant _) _ reentrant _)
      _ reentrant _
  obtain ⟨consistent, -⟩ := consistent_throughout _ () evolves
  refine ⟨consistent, by decide +kernel, by decide +kernel, by decide +kernel, ?_⟩
  exact ⟨.arithmetic .invalidOperation, by decide +kernel⟩

end Tracking

end Paywatch
