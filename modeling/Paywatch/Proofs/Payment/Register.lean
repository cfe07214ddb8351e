import Paywatch.Proofs.Payment.Evolution

/-!
# The register of sightings

An output has many sightings only if all but one of them were discarded, and a
credited sighting is one of an output in the ledger.
-/

namespace Paywatch

/-- Nothing follows on the end of a sighting. -/
theorem Phase.Precedes.eq_of_closed {first second : Phase} (precedes : Precedes first second)
    (closed : first.isOpen = false) : second = first := by
  cases precedes with
  | refl => rfl
  | observed | block | credited => cases closed

namespace Tracking

variable {ω : Type} {t u : Tracking ω}

/-! ## Sightings of one output -/

/-- A move begins a sighting, or there are as many as before. -/
theorem Move.sightings_length (move : Move t u) :
    u.sightings.length = t.sightings.length ∨ ∃ output, u = t.sighting output ∧
      t.isProcessed output.outpoint = false ∧ t.feed.isWatched output.address = true ∧
      t.open? output.outpoint = none := by
  cases move with
  | sighted output new watched unknown => exact .inr ⟨output, rfl, new, watched, unknown⟩
  | logged | outside | watched | asked | answered | unsummed => exact .inl rfl
  | held number id => exact .inl (List.length_modify _ _ _)
  | reported number => exact .inl (List.length_modify _ _ _)
  | credited number => exact .inl (List.length_modify _ _ _)
  | cancelled number id =>
    rw [cancelling_sightings]
    exact .inl (List.length_modify _ _ _)

/-- An output has at most one sighting that was not discarded. -/
structure Orderly (t : Tracking ω) : Prop where
  processed : ∀ (number : Nat) (s : Sighting), t.sightings[number]? = some s →
    s.phase = .credited → t.isProcessed s.outpoint = true
  single : ∀ (m n : Nat) (s s' : Sighting), m ≠ n → t.sightings[m]? = some s →
    t.sightings[n]? = some s' → s.outpoint = s'.outpoint →
    s.phase = .discarded ∨ s'.phase = .discarded

theorem orderly_start (manner : FeedManner) (outside : ω) : (start manner outside).Orderly where
  processed := fun _ _ found => by cases found
  single := fun _ _ _ _ _ found => by cases found

/-- A sighting of an output that is neither open nor credited was discarded. -/
theorem Orderly.discarded (orderly : t.Orderly) {output : Outpoint}
    (new : t.isProcessed output = false) (unknown : t.open? output = none) {number : Nat}
    {s : Sighting} (found : t.sightings[number]? = some s) (same : s.outpoint = output) :
    s.phase = .discarded := by
  have closed := List.findIdx?_eq_none_iff.mp unknown s (List.mem_of_getElem? found)
  rw [same, beq_self_eq_true, Bool.and_true] at closed
  cases phase : s.phase with
  | discarded => rfl
  | credited =>
    have processed := orderly.processed number s found phase
    rw [same, new] at processed
    cases processed
  | observed | confirmed =>
    rw [phase] at closed
    cases closed

/-- An open sighting is the one that is given for its output. -/
theorem Orderly.open?_eq (orderly : t.Orderly) {number : Nat} {s : Sighting}
    (found : t.sightings[number]? = some s) (isOpen : s.phase.isOpen = true) :
    t.open? s.outpoint = some number := by
  cases known : t.open? s.outpoint with
  | none =>
    have closed := List.findIdx?_eq_none_iff.mp known s (List.mem_of_getElem? found)
    rw [isOpen, beq_self_eq_true] at closed
    cases closed
  | some m =>
    obtain ⟨s', found', isOpen', same⟩ := open?_found known
    by_cases here : m = number
    · rw [here]
    · rcases orderly.single m number s' s here found' found same with discarded | discarded
      · rw [discarded] at isOpen'
        cases isOpen'
      · rw [discarded] at isOpen
        cases isOpen

/-- A new sighting of an output that is neither open nor credited is the only one that counts. -/
theorem Orderly.sighting (orderly : t.Orderly) {output : Output}
    (new : t.isProcessed output.outpoint = false) (unknown : t.open? output.outpoint = none) :
    (t.sighting output).Orderly := by
  refine ⟨?_, ?_⟩
  · intro number s found credited
    rcases sighting_found found with old | ⟨-, rfl⟩
    · rw [isProcessed, sighting_ledger]
      exact orderly.processed number s old credited
    · exact absurd credited (Phase.atFirst_ne_credited _ _)
  · intro m n s s' distinct found found' same
    rcases sighting_found found with old | ⟨last, rfl⟩
    · rcases sighting_found found' with old' | ⟨-, rfl⟩
      · exact orderly.single m n s s' distinct old old' same
      · exact .inl (orderly.discarded new unknown old same)
    · rcases sighting_found found' with old' | ⟨last', -⟩
      · exact .inr (orderly.discarded new unknown old' same.symm)
      · exact absurd (last.trans last'.symm) distinct

theorem Move.orderly (move : Move t u) (orderly : t.Orderly) : u.Orderly := by
  rcases move.sightings_length with length | ⟨output, rfl, new, -, unknown⟩
  · have before {number : Nat} {s' : Sighting} (found : u.sightings[number]? = some s') :
        ∃ s, t.sightings[number]? = some s ∧ s'.outpoint = s.outpoint ∧
          s.phase.Precedes s'.phase ∧
          (s'.phase = .credited → s.phase = .credited ∨ u.isProcessed s.outpoint = true) := by
      obtain ⟨known, -⟩ := List.getElem?_eq_some_iff.mp found
      rw [length] at known
      obtain ⟨s, old, output, kept⟩ := Moves.earlier (.single move) found known
      exact ⟨s, old, congrArg Output.outpoint output, kept⟩
    refine ⟨?_, ?_⟩
    · intro number s' found credited
      obtain ⟨s, old, same, -, reason⟩ := before found
      rw [same]
      rcases reason credited with already | processed
      · exact Moves.isProcessed (.single move) (orderly.processed number s old already)
      · exact processed
    · intro m n s₁ s₂ distinct found₁ found₂ same
      obtain ⟨s₁', old₁, same₁, precedes₁, -⟩ := before found₁
      obtain ⟨s₂', old₂, same₂, precedes₂, -⟩ := before found₂
      rw [same₁, same₂] at same
      rcases orderly.single m n s₁' s₂' distinct old₁ old₂ same with discarded | discarded
      · rw [discarded] at precedes₁
        exact .inl (precedes₁.eq_of_closed rfl)
      · rw [discarded] at precedes₂
        exact .inr (precedes₂.eq_of_closed rfl)
  · exact orderly.sighting new unknown

theorem Moves.orderly (moves : Moves t u) (orderly : t.Orderly) : u.Orderly := by
  induction moves with
  | refl => exact orderly
  | tail _ move ih => exact move.orderly ih

end Tracking

end Paywatch
