import Mathlib.Algebra.BigOperators.Group.Finset.Basic
import Paywatch.Proofs.Payment.Chronicle

/-!
# The exact sum

The total of the ledger is the exact sum of what its outputs are worth, each of
them counted once and cut to the cent, as long as no product has more digits than
the precision and the sum stays below `10 ^ 26`.
-/

namespace Paywatch

open Decimal

/-- A credit of an amount, at a rate, whose product can be represented. -/
structure Credit.Plain (c : Credit) : Prop where
  amount : 0 ≤ c.output.satoshi
  finite : c.rate.isFinite = true
  rate : 0 ≤ c.rate.value
  representable : Representable (c.output.satoshi * c.rate.value)

namespace Tracking

variable {ω : Type} {t : Tracking ω}

def creditFor? (t : Tracking ω) (output : Outpoint) : Option Credit :=
  t.credits.find? (·.output.outpoint = output)

/-- What an output was worth at the rate of its credit, with whole cents only. -/
def worthOf (t : Tracking ω) (output : Outpoint) : ℚ :=
  match t.creditFor? output with
  | some c => worth c.output.satoshi c.rate.value
  | none => 0

/-- What the outputs in the ledger are worth together, each of them counted once. -/
def exactSum (t : Tracking ω) : ℚ :=
  ∑ output ∈ t.ledger.processed.toFinset, t.worthOf output

namespace Balanced

theorem creditFor?_eq (balanced : t.Balanced) {c : Credit} (made : c ∈ t.credits) :
    t.creditFor? c.output.outpoint = some c := by
  have distinct : (t.credits.map (·.output.outpoint)).Nodup := by
    rw [← balanced.processed]
    exact balanced.nodup
  cases found : t.creditFor? c.output.outpoint with
  | none =>
    have other := List.find?_eq_none.mp found c made
    exact absurd (decide_eq_true rfl) other
  | some c' =>
    have same : c'.output.outpoint = c.output.outpoint := by
      simpa using List.find?_some found
    rw [List.inj_on_of_nodup_map distinct (List.mem_of_find?_eq_some found) made same]

/-- The exact sum goes over the credits in the order in which they were made. -/
theorem exactSum_eq (balanced : t.Balanced) :
    t.exactSum = (t.credits.map fun c => worth c.output.satoshi c.rate.value).sum := by
  rw [exactSum, List.sum_toFinset _ balanced.nodup, balanced.processed, List.map_map]
  congr 1
  apply List.map_congr_left
  intro c made
  simp only [Function.comp, worthOf, balanced.creditFor?_eq made]

theorem value_eq_worth (balanced : t.Balanced) {c : Credit} (made : c ∈ t.credits)
    (plain : c.Plain) : c.usd.value = worth c.output.satoshi c.rate.value := by
  obtain ⟨converted, -⟩ := balanced.converted c made
  obtain ⟨amount, finite, nonneg, representable⟩ := plain
  generalize c.rate = rate at *
  cases rate with
  | finite s d e => exact value_of_convertToUsd amount nonneg representable converted
  | infinite | nan => cases finite

/-- Every output in the ledger has a credit. -/
theorem exists_credit (balanced : t.Balanced) {output : Outpoint}
    (inside : output ∈ t.ledger.processed) : ∃ c ∈ t.credits, c.output.outpoint = output := by
  rw [← List.contains_iff_mem] at inside
  exact (balanced.isProcessed_iff output).mp inside

end Balanced

/-- Every credit was made by an event of the journal, at the rate that was told just before. -/
theorem Chronicle.told (chronicle : t.Chronicle) {c : Credit} (made : c ∈ t.credits) :
    ∃ before after,
      t.journal = before ++ .credited c.number c.output c.height c.rate c.usd :: after ∧
      before.getLast? = some (.answered c.number c.height (some c.rate)) := by
  obtain ⟨event, inside, tells⟩ := List.mem_filterMap.mp made
  obtain ⟨before, after, split⟩ := List.append_of_mem inside
  cases event with
  | credited number output height rate usd =>
    cases tells
    obtain ⟨-, -, told, -⟩ := chronicle.priced before _ after split
    exact ⟨before, after, split, told⟩
  | _ => cases tells

/--
Whatever becomes of a tracker, its total is the exact sum, and the dollars raised
are the least whole number above it.
-/
theorem total_eq_exactSum (manner : FeedManner) (outside : ω) {t : Tracking ω}
    (evolves : Evolves (start manner outside) t) (plain : ∀ c ∈ t.credits, c.Plain)
    (below : t.exactSum < 10 ^ 26) :
    t.ledger.total.isFinite = true ∧ t.ledger.total.value = t.exactSum ∧
    t.ledger.raisedUsd = .ok ⌈t.exactSum⌉ ∧
    ∀ output ∈ t.ledger.processed, ∃ c before after,
      t.creditFor? output = some c ∧ c.output.outpoint = output ∧
      t.journal = before ++ .credited c.number c.output c.height c.rate c.usd :: after ∧
      before.getLast? = some (.answered c.number c.height (some c.rate)) := by
  have moves := evolves.moves
  have balanced : t.Balanced := moves.balanced (balanced_start manner outside)
  have chronicle : t.Chronicle :=
    moves.chronicle (chronicle_start manner outside) (orderly_start manner outside)
  have amounts : ((t.credits.map (·.usd)).map value).sum = t.exactSum := by
    rw [balanced.exactSum_eq, List.map_map]
    congr 1
    apply List.map_congr_left
    intro c made
    exact balanced.value_eq_worth made (plain c made)
  have total : t.ledger.total.value = t.exactSum := by
    obtain ⟨sum, summed, exact, -⟩ := sumFrom_zero (fun _ => balanced.isCents)
      (by rw [amounts]; exact_mod_cast below)
    rw [balanced.summed] at summed
    cases summed
    rw [exact, amounts]
  obtain ⟨c, e, written, -, -⟩ := balanced.isTotal.finite
  refine ⟨by rw [written]; rfl, total, ?_, ?_⟩
  · rw [← total] at below ⊢
    rw [Ledger.raisedUsd, written]
    rw [written, value_finite_false] at below
    exact roundUpWhole_of_lt (by exact_mod_cast below)
  · intro output inside
    obtain ⟨c, made, rfl⟩ := balanced.exists_credit inside
    obtain ⟨before, after, split, told⟩ := chronicle.told made
    exact ⟨c, before, after, balanced.creditFor?_eq made, rfl, split, told⟩

def quoting (_ : Int) : Run (Tracking Unit) Decimal :=
  return .finite false 3000055 (-2)

/-- A quarter and a third of a bitcoin, cut to the satoshi. -/
def shares : List Output :=
  [⟨⟨"tx", 0⟩, "address", 25000000, .building, some 7⟩,
    ⟨⟨"tx", 1⟩, "address", 33333333, .building, some 7⟩]

def sharesPaid : Tracking Unit :=
  Run.after ((Operation.receive shares).perform quoting)
    (Run.after ((Operation.addAddress "address" 0).perform quoting) (start {} ()))

theorem total_eq_exactSum_sharesPaid :
    sharesPaid.exactSum = 17500.31 ∧ sharesPaid.ledger.total.value = sharesPaid.exactSum ∧
      sharesPaid.ledger.raisedUsd = .ok 17501 := by
  have evolves : Evolves (start {} ()) sharesPaid :=
    .perform (.perform (.refl _) quoting (fun _ s => .refl s) _) quoting (fun _ s => .refl s) _
  have credits : sharesPaid.credits =
      [⟨0, shares[0], 7, .finite false 3000055 (-2), .finite false 750013 (-2)⟩,
        ⟨1, shares[1], 7, .finite false 3000055 (-2), .finite false 1000018 (-2)⟩] := by
    decide +kernel
  have sum : sharesPaid.exactSum = 17500.31 := by
    have balanced : sharesPaid.Balanced := evolves.moves.balanced (balanced_start {} ())
    rw [balanced.exactSum_eq, credits]
    norm_num [worth, scaled, shares, satoshiPlaces]
  have plain : ∀ c ∈ sharesPaid.credits, c.Plain := by
    rw [credits]
    have fits (satoshi : Nat) (short : satoshi * 3000055 < 10 ^ precision) :
        Representable (satoshi * value (.finite false 3000055 (-2))) := by
      refine ⟨satoshi * 3000055, -2, short, ?_⟩
      rw [value_finite_false, scaled, scaled]
      push_cast
      ring
    intro c made
    rcases List.mem_cons.mp made with rfl | made
    · exact ⟨by decide, rfl, scaled_nonneg _ _, fits 25000000 (by decide)⟩
    · rw [List.mem_singleton.mp made]
      exact ⟨by decide, rfl, scaled_nonneg _ _, fits 33333333 (by decide)⟩
  obtain ⟨-, total, raised, -⟩ := total_eq_exactSum {} () evolves plain (by rw [sum]; norm_num)
  refine ⟨sum, total, raised.trans ?_⟩
  rw [sum]
  norm_num

end Tracking

end Paywatch
