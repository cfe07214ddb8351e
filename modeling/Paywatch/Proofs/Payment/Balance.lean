import Paywatch.Proofs.Payment.Conversion
import Paywatch.Proofs.Payment.Evolution
import Paywatch.Proofs.Payment.History

/-!
# The ledger balances

The ledger is at all times what the credits in the journal make of it: it holds
their outputs in their order, none of them twice, and the total is their sum.  No
credit is entered without its sum, because a sum of cents is never refused.
-/

namespace Paywatch

open Decimal

namespace Tracking

variable {ω : Type} {t u : Tracking ω}

/-! ## Moves without credits -/

theorem credits_noted (t : Tracking ω) {events : List TrackingEvent}
    (quiet : History.Quiet events) : (t.noted events).credits = t.credits := by
  rw [credits, noted_journal, History.credits_append, quiet.credits, List.append_nil]
  rfl

theorem credits_sighting (t : Tracking ω) (output : Output) :
    (t.sighting output).credits = t.credits := by
  rw [credits, sighting_journal, History.credits_append]
  exact List.append_nil _

theorem credits_cancelling (t : Tracking ω) (id : Nat) : (t.cancelling id).credits = t.credits := by
  rw [credits, cancelling_journal]
  rfl

theorem credits_crediting (t : Tracking ω) (number : Nat) (output : Output) (height : Int)
    (rate usd total : Decimal) :
    (t.crediting number output height rate usd total).credits =
      t.credits ++ [⟨number, output, height, rate, usd⟩] :=
  History.credits_append t.journal _

theorem credits_release (number : Nat) (t : Tracking ω) :
    (Run.after (release number) t).credits = t.credits := by
  cases held : t.sightings[number]?.bind (·.subscription) with
  | none => rw [after_release_none held]
  | some id =>
    rw [after_release_some held, credits_cancelling, credits_noted _ (History.quiet_singleton rfl)]
    rfl

/-! ## The balance -/

/-- The ledger is what the credits in the journal make of it. -/
structure Balanced (t : Tracking ω) : Prop where
  processed : t.ledger.processed = t.credits.map (·.output.outpoint)
  nodup : t.ledger.processed.Nodup
  converted : ∀ c ∈ t.credits, convertToUsd c.output.satoshi c.rate = .ok c.usd ∧
    c.usd.isNegative = .ok false
  summed : zero.sumFrom (t.credits.map (·.usd)) = .ok t.ledger.total

theorem balanced_start (manner : FeedManner) (outside : ω) : (start manner outside).Balanced where
  processed := rfl
  nodup := .nil
  converted := fun c inside => by cases inside
  summed := rfl

namespace Balanced

/-- What does not concern the credits and the ledger leaves them balanced. -/
theorem of_same (balanced : t.Balanced) (ledger : u.ledger = t.ledger)
    (credits : u.credits = t.credits) : u.Balanced where
  processed := by rw [ledger, credits]; exact balanced.processed
  nodup := by rw [ledger]; exact balanced.nodup
  converted := by rw [credits]; exact balanced.converted
  summed := by rw [ledger, credits]; exact balanced.summed

/-- The outputs in the ledger are those that have a credit. -/
theorem isProcessed_iff (balanced : t.Balanced) (output : Outpoint) :
    t.isProcessed output = true ↔ ∃ c ∈ t.credits, c.output.outpoint = output := by
  rw [isProcessed, Ledger.contains, List.contains_iff_mem, balanced.processed]
  exact List.mem_map

theorem isCents (balanced : t.Balanced) {usd : Decimal} (inside : usd ∈ t.credits.map (·.usd)) :
    IsCents usd := by
  obtain ⟨c, known, rfl⟩ := List.mem_map.mp inside
  obtain ⟨converted, nonneg⟩ := balanced.converted c known
  exact isCents_of_convertToUsd converted nonneg

theorem isTotal (balanced : t.Balanced) : IsTotal t.ledger.total := by
  obtain ⟨sum, summed, isTotal⟩ := isTotal_zero.sumFrom fun _ => balanced.isCents
  rw [balanced.summed] at summed
  cases summed
  exact isTotal

/-- The sum of a total and a converted amount can be formed. -/
theorem not_refused (balanced : t.Balanced) {satoshi : Int} {rate usd : Decimal} {signal : Signal}
    (converted : convertToUsd satoshi rate = .ok usd) (nonneg : usd.isNegative = .ok false) :
    t.ledger.total.add usd ≠ .error signal := by
  intro refused
  obtain ⟨sum, added, -⟩ := balanced.isTotal.add (isCents_of_convertToUsd converted nonneg)
  rw [refused] at added
  cases added

theorem credited (balanced : t.Balanced) {number : Nat} {output : Output} {height : Int}
    {rate usd total : Decimal} (new : t.isProcessed output.outpoint = false)
    (converted : convertToUsd output.satoshi rate = .ok usd) (nonneg : usd.isNegative = .ok false)
    (added : t.ledger.total.add usd = .ok total) :
    (t.crediting number output height rate usd total).Balanced := by
  have credits := credits_crediting t number output height rate usd total
  refine ⟨?_, ?_, ?_, ?_⟩
  · rw [credits, List.map_append, ← balanced.processed]
    rfl
  · refine List.Nodup.append balanced.nodup (List.nodup_singleton output.outpoint) ?_
    intro other inside same
    rw [List.mem_singleton.mp same, ← List.contains_iff_mem] at inside
    rw [isProcessed, Ledger.contains, inside] at new
    cases new
  · intro c inside
    rw [credits] at inside
    rcases List.mem_append.mp inside with old | here
    · exact balanced.converted c old
    · rw [List.mem_singleton.mp here]
      exact ⟨converted, nonneg⟩
  · rw [credits, List.map_append]
    exact (sumFrom_concat usd balanced.summed).trans added

end Balanced

theorem Move.balanced (move : Move t u) (balanced : t.Balanced) : u.Balanced := by
  cases move with
  | outside | watched | held => exact balanced.of_same rfl rfl
  | logged | asked | answered | reported =>
    exact balanced.of_same rfl (credits_noted t (History.quiet_singleton rfl))
  | sighted output => exact balanced.of_same (sighting_ledger t output) (credits_sighting t output)
  | cancelled number id =>
    refine balanced.of_same (cancelling_ledger _ id) ?_
    rw [credits_cancelling, credits_noted _ (History.quiet_singleton rfl)]
    rfl
  | credited number s height rate usd total due told converted nonneg added =>
    exact balanced.credited due.new converted nonneg added
  | unsummed number s height rate usd signal due converted nonneg refused =>
    exact absurd refused (balanced.not_refused converted nonneg)

theorem Moves.balanced (moves : Moves t u) (balanced : t.Balanced) : u.Balanced := by
  induction moves with
  | refl => exact balanced
  | tail _ move ih => exact move.balanced ih

end Tracking

end Paywatch
