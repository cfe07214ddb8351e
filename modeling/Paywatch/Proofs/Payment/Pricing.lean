import Paywatch.Proofs.Payment.Chronicle
import Paywatch.Proofs.Payment.Credits

/-!
# Credits are priced at the first block

A sighting is priced at the first block that is reported for it, whatever is
reported later, and its amount is the one with which it began.  The rate is the
answer to the question of the try that makes the credit.
-/

namespace Paywatch

namespace Tracking

variable {ω : Type}

/-- A try that credits adds a credit at its own question's answer to those that are there then. -/
theorem Tries.credit {ask : Int → Run (Tracking ω) Decimal} {t u : Tracking ω} {number : Nat}
    (tries : Tries ask t number (.ok true) u) :
    ∃ s height rate usd, t.Due number s height ∧
      Run.outcome (ask height) (t.noted [.asked number height]) = .ok rate ∧
      convertToUsd s.output.satoshi rate = .ok usd ∧
      u.credits = (Run.after (ask height) (t.noted [.asked number height])).credits ++
        [⟨number, s.output, height, rate, usd⟩] := by
  cases tries with
  | answered s height due rate told settles =>
    cases settles with
    | credited usd total record new converted =>
      refine ⟨s, height, rate, usd, due, told, converted, ?_⟩
      rw [credits_noted _ (History.quiet_singleton rfl), credits_release, credits_crediting,
        credits_noted _ (History.quiet_singleton rfl)]

/--
Every credit in the journal is one of the amount with which its sighting began,
at the first block that had been reported for the sighting and at the rate that
was told for this block just before.  All questions about a sighting are about its
first block, and no other sighting of the output knows another one.  The ledger is
the sum of these credits.  Every try that credits does so at the answer to its own
question, asked for the block that its sighting then knows.
-/
theorem priced_at_first_block (manner : FeedManner) (outside : ω) {t : Tracking ω}
    (evolves : Evolves (start manner outside) t) :
    (∀ before number output height rate usd after,
      t.journal = before ++ .credited number output height rate usd :: after →
      History.opening? number before = some output ∧
      History.firstBlock? number before = some height ∧
      before.getLast? = some (.answered number height (some rate)) ∧
      convertToUsd output.satoshi rate = .ok usd) ∧
    (∀ before number height after, t.journal = before ++ .asked number height :: after →
      History.firstBlock? number before = some height ∧
      ∀ (m : Nat) (output output' : Output) (height' : Int),
        History.opening? number before = some output → History.opening? m before = some output' →
        output'.outpoint = output.outpoint → History.firstBlock? m before = some height' →
        height' = height) ∧
    t.ledger.processed = t.credits.map (·.output.outpoint) ∧
    Decimal.zero.sumFrom (t.credits.map (·.usd)) = .ok t.ledger.total ∧
    (∀ (ask : Int → Run (Tracking ω) Decimal) (number : Nat) (s : Tracking ω),
      Run.outcome (credit ask number) s = .ok true →
      ∃ sighting height rate usd, s.sightings[number]? = some sighting ∧
        sighting.phase = .confirmed (some height) ∧
        Run.outcome (ask height) (s.noted [.asked number height]) = .ok rate ∧
        convertToUsd sighting.output.satoshi rate = .ok usd ∧
        (Run.after (credit ask number) s).credits =
          (Run.after (ask height) (s.noted [.asked number height])).credits ++
            [⟨number, sighting.output, height, rate, usd⟩]) := by
  have moves := evolves.moves
  have balanced : t.Balanced := moves.balanced (balanced_start manner outside)
  have chronicle : t.Chronicle :=
    moves.chronicle (chronicle_start manner outside) (orderly_start manner outside)
  refine ⟨?_, ?_, balanced.processed, balanced.summed, ?_⟩
  · intro before number output height rate usd after split
    exact chronicle.priced before _ after split
  · intro before number height after split
    exact chronicle.priced before _ after split
  · intro ask number s credited
    have tries := tries ask s number
    rw [credited] at tries
    obtain ⟨sighting, height, rate, usd, due, told, converted, credits⟩ := tries.credit
    exact ⟨sighting, height, rate, usd, due.found, due.block, told, converted, credits⟩

/-- A rate that is told after the transaction has moved to the next block. -/
def reorganizing (height : Int) : Run (Tracking Unit) Decimal := do
  (Operation.callback payment.outpoint .building (some (height + 1))).perform
    (fun height => return Decimal.ofInt (30000 + height))
  return Decimal.ofInt 20000

/-- The payment is in a block, then in a known block, and in another one while its rate is asked. -/
def reorganized : Tracking Unit :=
  let callback (height : Option Int) : Operation := .callback payment.outpoint .building height
  let seen : Operation := .output { payment with height := none }
  Run.after ((callback (some 7)).perform reorganizing)
    (Run.after (seen.perform reorganizing)
      (Run.after ((Operation.addAddress "address" 0).perform reorganizing) (start {} ())))

theorem priced_at_first_block_reorganized :
    ∃ before after usd, reorganized.journal = before ++
        .credited 0 { payment with height := none } 7 (Decimal.ofInt 30007) usd :: after ∧
      History.firstBlock? 0 before = some 7 ∧
      convertToUsd payment.satoshi (Decimal.ofInt 30007) = .ok usd := by
  have reentrant : ∀ height s, Evolves s (Run.after (reorganizing height) s) :=
    fun height s => .question (fun height => return Decimal.ofInt (30000 + height))
      (fun _ s => .refl s) _ _ s
  have evolves : Evolves (start {} ()) reorganized :=
    .perform (.perform (.perform (.refl _) _ reentrant _) _ reentrant _) _ reentrant _
  obtain ⟨credits, -⟩ := priced_at_first_block {} () evolves
  have split : reorganized.journal = reorganized.journal.take 10 ++
      .credited 0 { payment with height := none } 7 (Decimal.ofInt 30007)
        (.finite false 3000700 (-2)) :: reorganized.journal.drop 11 := by
    decide +kernel
  obtain ⟨-, block, -, converted⟩ := credits _ _ _ _ _ _ _ split
  exact ⟨_, _, _, split, block, converted⟩

end Tracking

end Paywatch
