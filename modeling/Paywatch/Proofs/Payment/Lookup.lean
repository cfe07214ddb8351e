import Paywatch.Proofs.Payment.Wiring
import Paywatch.Rates.Source

/-!
# Rates by exact height

A list of rates answers at once and changes nothing, so that no other operation
comes between a question and its answer.  What a try to credit does is then known
from the state in which it begins.
-/

namespace Paywatch

namespace Tracking

def lookup (height : Int) : Run (Tracking RateList) Decimal := do
  Run.ofExcept ((← get).outside.rateAt height)

@[simp]
theorem outcome_lookup (height : Int) (t : Tracking RateList) :
    Run.outcome (lookup height) t = t.outside.rateAt height := by
  simp [lookup]

@[simp]
theorem after_lookup (height : Int) (t : Tracking RateList) :
    Run.after (lookup height) t = t := by
  simp [lookup]

theorem spanning_lookup (height : Int) : Spanning {} (Run.attempt (lookup height)) := by
  intro t _ _
  rw [Run.after_attempt, after_lookup]
  exact .refl t

/-! ## Invariants of a run -/

/-- All that is known of a tracker whose questions change nothing. -/
structure Regular {ω : Type} (rates : ω) (t : Tracking ω) : Prop where
  outside : t.outside = rates
  balanced : t.Balanced
  orderly : t.Orderly
  settled : t.Settled
  wired : t.Wired

theorem regular_start {ω : Type} (manner : FeedManner) (outside : ω) :
    (start manner outside).Regular outside :=
  ⟨rfl, balanced_start manner outside, orderly_start manner outside, settled_start manner outside,
    wired_start manner outside⟩

namespace Regular

variable {ω : Type} {rates : ω} {t u : Tracking ω}

/-- What remains to be shown after moves is that the subscriptions are wired. -/
theorem moves (regular : t.Regular rates) (moves : Moves t u) (wired : u.Wired)
    (outside : u.outside = t.outside) : u.Regular rates :=
  ⟨outside.trans regular.outside, Moves.balanced moves regular.balanced,
    Moves.orderly moves regular.orderly, Moves.settled moves regular.settled, wired⟩

theorem move (regular : t.Regular rates) (move : Move t u) (wired : u.Wired)
    (outside : u.outside = t.outside) : u.Regular rates :=
  regular.moves (.single move) wired outside

theorem unprocessed (regular : t.Regular rates) {number : Nat} {s : Sighting}
    (found : t.sightings[number]? = some s) (isOpen : s.phase.isOpen = true) :
    t.isProcessed s.outpoint = false :=
  regular.settled.unprocessed regular.balanced regular.orderly found isOpen

theorem processed_of_credit (regular : t.Regular rates) {c : Credit} (made : c ∈ t.credits) :
    t.isProcessed c.output.outpoint = true :=
  (regular.balanced.isProcessed_iff _).mpr ⟨c, made, rfl⟩

theorem credit_of_processed (regular : t.Regular rates) {output : Outpoint}
    (processed : t.isProcessed output = true) : ∃ c ∈ t.credits, c.output.outpoint = output :=
  (regular.balanced.isProcessed_iff output).mp processed

/-- The credits of one sighting are one credit. -/
theorem credit_unique (regular : t.Regular rates) {c c' : Credit} (made : c ∈ t.credits)
    (made' : c' ∈ t.credits) (same : c.number = c'.number) : c = c' := by
  obtain ⟨s, found, output, -⟩ := regular.settled.credit c made
  obtain ⟨s', found', output', -⟩ := regular.settled.credit c' made'
  rw [same, found'] at found
  cases found
  have distinct : (t.credits.map (·.output.outpoint)).Nodup := by
    rw [← regular.balanced.processed]
    exact regular.balanced.nodup
  exact List.inj_on_of_nodup_map distinct made made' (by rw [← output, ← output'])

end Regular

/-! ## Credits at once -/

theorem noted_noted {ω : Type} (t : Tracking ω) (first second : List TrackingEvent) :
    (t.noted first).noted second = t.noted (first ++ second) := by
  simp [noted, List.append_assoc]

def quoted {ω : Type} (t : Tracking ω) (c : Credit) : Tracking ω :=
  t.noted [.asked c.number c.height, .answered c.number c.height (some c.rate)]

/-- The tracker after a sighting has been credited and its subscription given up. -/
def closing {ω : Type} (t : Tracking ω) (c : Credit) (total : Decimal) : Tracking ω :=
  Run.after (release c.number) (t.crediting c.number c.output c.height c.rate c.usd total)

theorem closing_getElem? {ω : Type} (t : Tracking ω) (c : Credit) (total : Decimal) (m : Nat) :
    (t.closing c total).sightings[m]? = t.sightings[m]?.map fun s =>
      if c.number = m then { s with phase := .credited, subscription := none } else s := by
  rw [closing, release_getElem?, crediting, phased_getElem?, Option.map_map]
  congr 1
  funext s
  by_cases here : c.number = m
  · simp only [Function.comp, if_pos here]
  · simp only [Function.comp, if_neg here]

theorem crediting_found {ω : Type} {t : Tracking ω} {number : Nat} {s : Sighting}
    (found : t.sightings[number]? = some s) (output : Output) (height : Int)
    (rate usd total : Decimal) :
    (t.crediting number output height rate usd total).sightings[number]? =
      some { s with phase := .credited } := by
  rw [crediting, phased_getElem?, noted_sightings, entering_sightings, found, Option.map_some,
    if_pos rfl]

theorem quiet_told (number : Nat) (height : Int) (rate : Decimal) :
    History.Quiet [.asked number height, .answered number height (some rate)] :=
  (History.quiet_singleton rfl).append (History.quiet_singleton rfl)

theorem getLast?_quoted {ω : Type} (t : Tracking ω) (c : Credit) :
    (t.quoted c).journal.getLast? = some (.answered c.number c.height (some c.rate)) := by
  rw [quoted, noted_journal, List.getLast?_append]
  rfl

/-- What comes of a try to credit that is answered at once. -/
inductive Looks (rates : RateList) (t : Tracking RateList) (number : Nat) :
    Except Failure Bool → Tracking RateList → Prop where
  /-- The credit is not due, or there is no rate. -/
  | quiet (events : List TrackingEvent) (quiet : History.Quiet events)
      (unrated : ∀ s height rate, t.Due number s height → rates.rateAt height ≠ .ok rate) :
      Looks rates t number (.ok false) (t.noted events)
  /-- The conversion fails, or the ledger refuses the amount. -/
  | refused (s : Sighting) (height : Int) (rate : Decimal) (failure : Failure)
      (due : t.Due number s height) (rated : rates.rateAt height = .ok rate)
      (refused : ∀ usd, convertToUsd s.output.satoshi rate = .ok usd → usd.isNegative ≠ .ok false) :
      Looks rates t number (.error failure)
        (t.noted [.asked number height, .answered number height (some rate)])
  | credited (s : Sighting) (c : Credit) (total : Decimal) (record : LogRecord)
      (number_eq : c.number = number) (output_eq : c.output = s.output)
      (due : t.Due number s c.height) (rated : rates.rateAt c.height = .ok c.rate)
      (converted : convertToUsd c.output.satoshi c.rate = .ok c.usd)
      (nonneg : c.usd.isNegative = .ok false) (added : t.ledger.total.add c.usd = .ok total) :
      Looks rates t number (.ok true) (((t.quoted c).closing c total).noted [.logged record])

theorem looks {rates : RateList} {t : Tracking RateList} (regular : t.Regular rates)
    (number : Nat) :
    Looks rates t number (Run.outcome (credit lookup number) t)
      (Run.after (credit lookup number) t) := by
  have tried := tries lookup t number
  generalize Run.outcome (credit lookup number) t = result at tried
  generalize Run.after (credit lookup number) t = u at tried
  cases tried with
  | idle undue =>
    have same : t = t.noted [] := by simp [noted]
    nth_rewrite 2 [same]
    exact .quiet [] History.quiet_nil fun s height _ due => absurd due (undue s height)
  | deferred record undue =>
    exact .quiet _ (History.quiet_singleton rfl) fun s height _ due => absurd due (undue s height)
  | unanswered s height due failure record failed =>
    rw [outcome_lookup, noted_outside, regular.outside] at failed
    rw [after_lookup, noted_noted, noted_noted]
    refine .quiet _ (fun event inside => ?_) fun s' height' rate due' rated => ?_
    · simp only [List.cons_append, List.nil_append, List.mem_cons, List.not_mem_nil,
        or_false] at inside
      rcases inside with rfl | rfl | rfl <;> rfl
    · obtain ⟨rfl, rfl⟩ := due.unique due'
      rw [rated] at failed
      cases failed
  | answered s height due rate told settles =>
    rw [outcome_lookup, noted_outside, regular.outside] at told
    rw [after_lookup, noted_noted] at settles
    cases settles with
    | failed failure other refused => exact .refused s height rate failure due told refused
    | concurrent record processed =>
      have before : t.isProcessed s.outpoint = true := processed
      rw [due.new] at before
      cases before
    | unsummed usd signal new converted nonneg refused =>
      exact absurd refused (regular.balanced.not_refused converted nonneg)
    | credited usd total record new converted nonneg added =>
      exact .credited s ⟨number, s.output, height, rate, usd⟩ total record rfl rfl due told
        converted nonneg added

end Tracking

end Paywatch
