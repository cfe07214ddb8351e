import Paywatch.Proofs.Payment.Standing
import Paywatch.Proofs.Payment.Subscriptions

/-!
# Discarded for good

A sighting that has been discarded is never credited.  Its output may be delivered
again, and then another sighting of it begins; as long as it is not delivered with
a confidence that leaves it a chance, nothing credits it.
-/

namespace Paywatch

theorem Phase.atFirst_of_isTerminal {confidence : Confidence}
    (terminal : confidence.isTerminal = true) (height : Option Int) :
    Phase.atFirst confidence height = .discarded := by
  cases confidence with
  | dead | inConflict => rfl
  | unknown | pending | building => cases terminal

namespace Tracking

variable {ω : Type} {t u : Tracking ω} {output : Outpoint}

/-! ## Outputs of which nothing is left -/

/-- All sightings of an output have been discarded. -/
def Gone (t : Tracking ω) (output : Outpoint) : Prop :=
  ∀ (number : Nat) (s : Sighting), t.sightings[number]? = some s → s.outpoint = output →
    s.phase = .discarded

/-- Nothing is said of an output when all of its sightings have been discarded. -/
theorem Coherent.standing?_eq_none (coherent : t.Coherent) :
    t.standing? output = none ↔ t.Gone output := by
  rw [standing?_eq]
  cases known : t.open? output with
  | none =>
    rw [Option.bind_none]
    constructor
    · intro standing number s found same
      have new : t.isProcessed output = false := by
        rw [Bool.eq_false_iff]
        intro processed
        simp [processed] at standing
      exact coherent.orderly.discarded new known found same
    · intro gone
      rw [if_neg]
      intro processed
      obtain ⟨c, made, same⟩ := (coherent.balanced.isProcessed_iff output).mp processed
      obtain ⟨s, found, reported, credited⟩ := coherent.settled.credit c made
      have discarded := gone c.number s found ((congrArg Output.outpoint reported).trans same)
      rw [credited] at discarded
      cases discarded
  | some number =>
    obtain ⟨s, found, isOpen, same⟩ := open?_found known
    rw [Option.bind_some, found]
    constructor
    · intro standing
      cases standing
    · intro gone
      rw [gone number s found same] at isOpen
      cases isOpen

namespace Gone

/-- No sighting begins, and what has been discarded is so for good. -/
theorem of_moves (gone : t.Gone output) (moves : Moves t u) (same : u.outputs = t.outputs) :
    u.Gone output := by
  intro number s' found' outpoint
  obtain ⟨known, -⟩ := List.getElem?_eq_some_iff.mp found'
  rw [← length_outputs, same, length_outputs] at known
  obtain ⟨s, found, reported, precedes, -⟩ := Moves.earlier moves found' known
  rw [gone number s found ((congrArg Output.outpoint reported).symm.trans outpoint)] at precedes
  exact precedes.eq_of_closed rfl

/-- A sighting that begins is of another output, or is discarded at once. -/
theorem sighting (gone : t.Gone output) {other : Output}
    (terminal : other.outpoint = output → other.confidence.isTerminal = true) :
    (t.sighting other).Gone output := by
  intro number s found same
  rcases sighting_found found with old | ⟨-, rfl⟩
  · exact gone number s old same
  · exact Phase.atFirst_of_isTerminal (terminal same) _

end Gone

/-- What is delivered of an output has lost to another transaction, or is about to. -/
def lost (output : Outpoint) : Scope where
  delivered := fun other => other.outpoint = output → other.confidence.isTerminal = true

theorem Span.gone (span : Span (lost output) t u) (gone : t.Gone output) : u.Gone output := by
  induction span with
  | refl => exact gone
  | moved _ plain _ ih => exact (ih gone).of_moves plain.moves plain.outputs_eq
  | ended _ plain number closed _ ih =>
    refine (ih gone).of_moves (plain.moves.trans (moves_release fun _ => closed.isOpen_eq)) ?_
    rw [outputs_release, plain.outputs_eq]
  | outside _ _ _ _ ih => exact ih gone
  | sighted _ other _ _ _ delivered _ ih => exact (ih gone).sighting delivered
  | @followed _ u v before other _ _ _ delivered _ inner _ ih innerIh =>
    have gone' := innerIh ((ih gone).sighting delivered)
    exact gone'.of_moves (moves_keep inner.known_sighting _) (outputs_keep v _ _)

/-! ## Whatever happens later -/

/-- A sighting that was discarded in one state, in a later one. -/
structure Discarded (u : Tracking ω) (number : Nat) (s : Sighting) : Prop where
  phase : ∃ s', u.sightings[number]? = some s' ∧ s'.output = s.output ∧ s'.phase = .discarded
  uncredited : ∀ c ∈ u.credits, c.number ≠ number

theorem Moves.discarded (moves : Moves t u) (coherent : t.Coherent) {s : Sighting}
    (found : t.sightings[number]? = some s) (discarded : s.phase = .discarded) :
    u.Discarded number s := by
  obtain ⟨s', found', reported, precedes, -⟩ := moves.kept found
  rw [discarded] at precedes
  have discarded' := precedes.eq_of_closed rfl
  refine ⟨⟨s', found', reported, discarded'⟩, ?_⟩
  rintro c made rfl
  obtain ⟨s'', found'', -, credited⟩ := (Moves.coherent moves coherent).settled.credit c made
  rw [found'] at found''
  cases found''
  rw [discarded'] at credited
  cases credited

/-- An output of which nothing is left stays unknown until it is delivered with a chance. -/
theorem Span.unknown (span : Span (lost output) t u) (coherent : t.Coherent)
    (unknown : t.standing? output = none) :
    u.standing? output = none ∧ u.isProcessed output = false := by
  have coherent' := span.moves.coherent coherent
  have standing : u.standing? output = none :=
    coherent'.standing?_eq_none.mpr (span.gone (coherent.standing?_eq_none.mp unknown))
  refine ⟨standing, ?_⟩
  rw [Bool.eq_false_iff]
  intro processed
  rw [coherent'.standing?_eq_confirmed.mpr (.inl processed)] at standing
  cases standing

/--
A sighting that has been discarded after some operation stays so and is never
credited, whatever happens later.  As long as nothing is left of its output, only
a delivery of this output as undecided or in a block begins another sighting: all
other operations, callbacks on the output and retries among them, leave it
unknown and uncredited.  The same is true between any two states that a run passes.
-/
theorem discarded_for_good (manner : FeedManner) (outside : ω) {t : Tracking ω}
    (evolves : Evolves (start manner outside) t) :
    (∀ (u : Tracking ω) (number : Nat) (s : Sighting), Evolves t u →
      t.sightings[number]? = some s → s.phase = .discarded → u.Discarded number s) ∧
    (∀ (u : Tracking ω) (output : Outpoint), EvolvesWithin (lost output) t u →
      t.standing? output = none → u.standing? output = none ∧ u.isProcessed output = false) ∧
    ∀ r v : Tracking ω, Span {} (start manner outside) r →
      (∀ (number : Nat) (s : Sighting), Span {} r v → r.sightings[number]? = some s →
        s.phase = .discarded → v.Discarded number s) ∧
      ∀ output, Span (lost output) r v → r.standing? output = none →
        v.standing? output = none ∧ v.isProcessed output = false := by
  have begun := coherent_start manner outside
  have coherent : t.Coherent := evolves.moves.coherent begun
  refine ⟨?_, ?_, ?_⟩
  · intro u number s later found discarded
    exact later.moves.discarded coherent found discarded
  · intro u output within unknown
    exact (within.span fun _ _ _ _ => trivial).unknown coherent unknown
  · intro r v passed
    have coherent' : r.Coherent := passed.moves.coherent begun
    constructor
    · intro number s later found discarded
      exact later.moves.discarded coherent' found discarded
    · intro output later unknown
      exact later.unknown coherent' unknown

/-! ## Delivered once more -/

def dropped : Tracking Unit :=
  Run.after ((Operation.callback payment.outpoint .inConflict none).perform fixedRate) (reported {})

def redelivered : Tracking Unit :=
  Run.after ((Operation.receive [payment]).perform fixedRate) dropped

theorem evolves_fixedRate (operation : Operation) (t : Tracking Unit) :
    Evolves t (Run.after (operation.perform fixedRate) t) :=
  .perform (.refl t) fixedRate (fun _ s => .refl s) operation

theorem evolves_dropped : Evolves (start {} ()) dropped :=
  ((evolves_fixedRate _ _).trans (evolves_fixedRate _ _)).trans (evolves_fixedRate _ _)

theorem discarded_for_good_dropped :
    redelivered.Discarded 0 ⟨unconfirmed, .discarded, none⟩ ∧
      redelivered.credits.map (·.number) = [1] := by
  have later : Evolves dropped redelivered := evolves_fixedRate _ dropped
  have found : dropped.sightings[0]? = some ⟨unconfirmed, .discarded, none⟩ := by decide +kernel
  obtain ⟨discarded, -⟩ := discarded_for_good {} () evolves_dropped
  exact ⟨discarded redelivered 0 _ later found rfl, by decide +kernel⟩

/-- The output of a discarded sighting can be credited, as that of another sighting. -/
theorem not_discarded_redelivered :
    ¬ ∀ (t u : Tracking Unit) (number : Nat) (s : Sighting), Evolves (start {} ()) t →
      t.sightings[number]? = some s → s.phase = .discarded → Evolves t u →
      u.isProcessed s.outpoint = false := by
  intro terminal
  have later : Evolves dropped redelivered := evolves_fixedRate _ dropped
  have found : dropped.sightings[0]? = some ⟨unconfirmed, .discarded, none⟩ := by decide +kernel
  have uncredited := terminal dropped redelivered 0 _ evolves_dropped found rfl later
  have credited : redelivered.isProcessed payment.outpoint = true := by decide +kernel
  exact absurd credited (Bool.eq_false_iff.mp uncredited)

end Tracking

end Paywatch
