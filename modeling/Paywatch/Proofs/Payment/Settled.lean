import Paywatch.Proofs.Payment.Balance
import Paywatch.Proofs.Payment.Register

/-!
# Credited sightings

A sighting is credited when the journal has a credit for it.  An output in the
ledger has therefore no open sighting: one of its sightings is credited, and the
others were discarded.
-/

namespace Paywatch

namespace Tracking

variable {ω : Type} {t u : Tracking ω}

/-- The credits in the journal are those of the credited sightings. -/
structure Settled (t : Tracking ω) : Prop where
  credit : ∀ c ∈ t.credits, ∃ s, t.sightings[c.number]? = some s ∧ s.output = c.output ∧
    s.phase = .credited
  credited : ∀ (number : Nat) (s : Sighting), t.sightings[number]? = some s →
    s.phase = .credited → ∃ c ∈ t.credits, c.number = number

theorem settled_start (manner : FeedManner) (outside : ω) : (start manner outside).Settled where
  credit := fun _ made => by cases made
  credited := fun _ _ found => by cases found

namespace Settled

/-- Sightings that are credited when they were before, and no other credits. -/
theorem of_same (settled : t.Settled) (credits : u.credits = t.credits)
    (forth : ∀ (number : Nat) (s : Sighting), t.sightings[number]? = some s →
      s.phase = .credited →
      ∃ s', u.sightings[number]? = some s' ∧ s'.output = s.output ∧ s'.phase = .credited)
    (back : ∀ (number : Nat) (s' : Sighting), u.sightings[number]? = some s' →
      s'.phase = .credited → ∃ s, t.sightings[number]? = some s ∧ s.phase = .credited) :
    u.Settled := by
  refine ⟨?_, ?_⟩
  · intro c made
    rw [credits] at made
    obtain ⟨s, found, output, credited⟩ := settled.credit c made
    obtain ⟨s', found', output', credited'⟩ := forth c.number s found credited
    exact ⟨s', found', output'.trans output, credited'⟩
  · intro number s' found' credited'
    obtain ⟨s, found, credited⟩ := back number s' found' credited'
    rw [credits]
    exact settled.credited number s found credited

theorem of_sightings (settled : t.Settled) (credits : u.credits = t.credits)
    (sightings : u.sightings = t.sightings) : u.Settled := by
  refine settled.of_same credits ?_ ?_
  · intro number s found credited
    exact ⟨s, by rw [sightings]; exact found, rfl, credited⟩
  · intro number s found credited
    rw [sightings] at found
    exact ⟨s, found, credited⟩

theorem holding (settled : t.Settled) (number : Nat) (subscription : Option Nat) :
    (t.holding number subscription).Settled := by
  refine settled.of_same rfl ?_ ?_
  · intro m s found credited
    rw [holding_getElem?, found]
    refine ⟨_, rfl, ?_⟩
    split <;> exact ⟨rfl, credited⟩
  · intro m s' found' credited
    rw [holding_getElem?] at found'
    obtain ⟨s, found, rfl⟩ := Option.map_eq_some_iff.mp found'
    refine ⟨s, found, ?_⟩
    split at credited <;> exact credited

theorem sighting (settled : t.Settled) (output : Output) : (t.sighting output).Settled := by
  refine settled.of_same (credits_sighting t output) ?_ ?_
  · intro number s found credited
    exact ⟨s, t.sighting_getElem? output found, rfl, credited⟩
  · intro number s found credited
    rcases sighting_found found with old | ⟨-, rfl⟩
    · exact ⟨s, old, credited⟩
    · exact absurd credited (Phase.atFirst_ne_credited _ _)

theorem crediting (settled : t.Settled) {number : Nat} {s : Sighting} {height : Int}
    (due : t.Due number s height) (rate usd total : Decimal) :
    (t.crediting number s.output height rate usd total).Settled := by
  have credits := credits_crediting t number s.output height rate usd total
  have sightings (m : Nat) :
      (t.crediting number s.output height rate usd total).sightings[m]? =
        t.sightings[m]?.map fun s => if number = m then { s with phase := .credited } else s :=
    phased_getElem? _ number m .credited
  refine ⟨?_, ?_⟩
  · intro c made
    rw [credits] at made
    rw [sightings]
    rcases List.mem_append.mp made with old | new
    · obtain ⟨s', found, output, credited⟩ := settled.credit c old
      rw [found]
      refine ⟨_, rfl, ?_⟩
      split
      · exact ⟨output, rfl⟩
      · exact ⟨output, credited⟩
    · rw [List.mem_singleton.mp new, due.found]
      exact ⟨_, rfl, by simp⟩
  · intro m s' found' credited
    rw [sightings] at found'
    obtain ⟨s'', found, rfl⟩ := Option.map_eq_some_iff.mp found'
    rw [credits]
    split at credited
    · rename_i here
      exact ⟨_, List.mem_append_right _ (.head _), here⟩
    · obtain ⟨c, made, here⟩ := settled.credited m s'' found credited
      exact ⟨c, List.mem_append_left _ made, here⟩

end Settled

theorem Move.settled (move : Move t u) (settled : t.Settled) : u.Settled := by
  cases move with
  | outside | watched | unsummed => exact settled.of_sightings rfl rfl
  | logged | asked | answered =>
    exact settled.of_sightings (credits_noted t (History.quiet_singleton rfl)) rfl
  | held number id => exact settled.holding number (some id)
  | sighted output => exact settled.sighting output
  | cancelled number id =>
    refine (settled.holding number none).of_sightings ?_ (cancelling_sightings _ id)
    rw [credits_cancelling, credits_noted _ (History.quiet_singleton rfl)]
  | reported number s confidence height found isOpen =>
    refine settled.of_same (credits_noted t (History.quiet_singleton rfl)) ?_ ?_
    · intro m s' found' credited
      rw [phased_getElem?, noted_sightings, found']
      refine ⟨_, rfl, ?_⟩
      split
      · rename_i here
        rw [here, found'] at found
        cases found
        rw [credited] at isOpen
        cases isOpen
      · exact ⟨rfl, credited⟩
    · intro m s' found' credited
      rw [phased_getElem?, noted_sightings] at found'
      obtain ⟨s'', found'', rfl⟩ := Option.map_eq_some_iff.mp found'
      refine ⟨s'', found'', ?_⟩
      split at credited
      · rename_i here
        rw [here, found''] at found
        cases found
        exact Phase.advance_eq_credited credited
      · exact credited
  | credited number s height rate usd total due => exact settled.crediting due rate usd total

theorem Moves.settled (moves : Moves t u) (settled : t.Settled) : u.Settled := by
  induction moves with
  | refl => exact settled
  | tail _ move ih => exact move.settled ih

/-- An output in the ledger is followed no more. -/
theorem Settled.unprocessed (settled : t.Settled) (balanced : t.Balanced) (orderly : t.Orderly)
    {number : Nat} {s : Sighting} (found : t.sightings[number]? = some s)
    (isOpen : s.phase.isOpen = true) : t.isProcessed s.outpoint = false := by
  rw [Bool.eq_false_iff]
  intro processed
  obtain ⟨c, made, same⟩ := (balanced.isProcessed_iff _).mp processed
  obtain ⟨s', found', output, credited⟩ := settled.credit c made
  by_cases here : c.number = number
  · rw [here, found] at found'
    cases found'
    rw [credited] at isOpen
    cases isOpen
  · rw [← output] at same
    rcases orderly.single c.number number s' s here found' found same with discarded | discarded
    · rw [discarded] at credited
      cases credited
    · rw [discarded] at isOpen
      cases isOpen

end Tracking

end Paywatch
