import Paywatch.Proofs.Payment.Consistency
import Paywatch.Proofs.Payment.Credits

/-!
# Confirmed for good

An output that has been confirmed stands as confirmed ever after, whatever is
reported of it and however often its credit fails.  It is in the ledger, or it
waits for its credit where the next retry finds it.
-/

namespace Paywatch

namespace Phase

theorem isOpen_of_isConfirmed {phase : Phase} (confirmed : phase.isConfirmed = true) :
    phase.isOpen = true := by
  cases phase with
  | confirmed => rfl
  | observed | credited | discarded => cases confirmed

/-- What follows on a block is a known block or the credit. -/
theorem Precedes.of_isConfirmed {first second : Phase} (precedes : Precedes first second)
    (confirmed : first.isConfirmed = true) : second.isConfirmed = true ∨ second = .credited := by
  cases precedes with
  | refl => exact .inl confirmed
  | observed => cases confirmed
  | block => exact .inl rfl
  | credited => exact .inr rfl

end Phase

namespace Tracking

variable {ω : Type} {t u : Tracking ω} {output : Outpoint}

/-! ## Outputs that stand as confirmed -/

/-- An output is in the ledger, or has a sighting that waits for its credit. -/
def Secured (t : Tracking ω) (output : Outpoint) : Prop :=
  t.isProcessed output = true ∨ ∃ (number : Nat) (s : Sighting), t.sightings[number]? = some s ∧
    s.outpoint = output ∧ s.phase.isConfirmed = true

/-- The standing of an output is that of its open sighting, if there is one. -/
theorem standing?_eq (t : Tracking ω) (output : Outpoint) :
    t.standing? output = match (t.open? output).bind (t.sightings[·]?) with
      | some s => some (if s.phase = .observed then .observed else .confirmed)
      | none => if t.isProcessed output then some .confirmed else none := by
  rw [standing?, List.find?_eq_bind_findIdx?_getElem?]
  rfl

namespace Coherent

/-- An open sighting of a secured output waits for its credit. -/
theorem isConfirmed (coherent : t.Coherent) (secured : t.Secured output) {number : Nat}
    {s : Sighting} (found : t.sightings[number]? = some s) (isOpen : s.phase.isOpen = true)
    (same : s.outpoint = output) : s.phase.isConfirmed = true := by
  subst same
  rcases secured with processed | ⟨m, s', found', same, confirmed⟩
  · rw [coherent.unprocessed found isOpen] at processed
    cases processed
  · have here := coherent.orderly.open?_eq found' (Phase.isOpen_of_isConfirmed confirmed)
    rw [same, coherent.orderly.open?_eq found isOpen] at here
    cases here
    rw [found] at found'
    cases found'
    exact confirmed

theorem standing?_eq_confirmed (coherent : t.Coherent) :
    t.standing? output = some .confirmed ↔ t.Secured output := by
  rw [standing?_eq]
  cases known : t.open? output with
  | none =>
    rw [Option.bind_none]
    constructor
    · intro standing
      by_cases processed : t.isProcessed output = true
      · exact .inl processed
      · simp [processed] at standing
    · rintro (processed | ⟨number, s, found, rfl, confirmed⟩)
      · simp [processed]
      · rw [coherent.orderly.open?_eq found (Phase.isOpen_of_isConfirmed confirmed)] at known
        cases known
  | some number =>
    obtain ⟨s, found, isOpen, same⟩ := open?_found known
    rw [Option.bind_some, found]
    constructor
    · intro standing
      refine .inr ⟨number, s, found, same, ?_⟩
      cases phase : s.phase with
      | confirmed => rfl
      | observed =>
        simp [phase] at standing
      | credited | discarded =>
        rw [phase] at isOpen
        cases isOpen
    · intro secured
      have confirmed := coherent.isConfirmed secured found isOpen same
      have decided : s.phase ≠ .observed := by
        intro observed
        rw [observed] at confirmed
        cases confirmed
      simp [decided]

/-- A secured output that has not been credited is where the next retry finds it. -/
theorem waits (coherent : t.Coherent) (secured : t.Secured output) :
    t.isProcessed output = true ∨ ∃ number ∈ t.awaitingCredit, t.open? output = some number := by
  rcases secured with processed | ⟨number, s, found, rfl, confirmed⟩
  · exact .inl processed
  · have isOpen := Phase.isOpen_of_isConfirmed confirmed
    refine .inr ⟨number, ?_, coherent.orderly.open?_eq found isOpen⟩
    rw [awaitingCredit_eq, List.mem_filter, List.mem_range, found]
    exact ⟨(List.getElem?_eq_some_iff.mp found).1, confirmed⟩

end Coherent

/-- What is secured stays secured. -/
theorem Moves.secured (moves : Moves t u) (coherent : t.Coherent) (secured : t.Secured output) :
    u.Secured output := by
  rcases secured with processed | ⟨number, s, found, rfl, confirmed⟩
  · exact .inl (moves.isProcessed processed)
  · obtain ⟨s', found', same, precedes, -⟩ := moves.kept found
    have same' : s'.outpoint = s.outpoint := congrArg Output.outpoint same
    rcases precedes.of_isConfirmed confirmed with confirmed' | credited
    · exact .inr ⟨number, s', found', same', confirmed'⟩
    · refine .inl ?_
      rw [← same']
      exact (Moves.orderly moves coherent.orderly).processed number s' found' credited

/-! ## No confirmed output is discarded -/

def discardedCountOf (t : Tracking ω) (output : Outpoint) : Nat :=
  t.sightings.countP fun s => s.phase == .discarded && s.outpoint == output

/-- A secured output has no sighting that begins. -/
theorem Secured.ne_sighted (secured : t.Secured output) (coherent : t.Coherent) {other : Output}
    (new : t.isProcessed other.outpoint = false) (unknown : t.open? other.outpoint = none) :
    other.outpoint ≠ output := by
  rintro rfl
  rcases secured with processed | ⟨number, s, found, same, confirmed⟩
  · rw [new] at processed
    cases processed
  · rw [coherent.orderly.discarded new unknown found same] at confirmed
    cases confirmed

/-- A sighting of a secured output has been discarded if it was discarded before. -/
theorem Move.discarded_iff (move : Move t u) (coherent : t.Coherent) (secured : t.Secured output)
    {number : Nat} {s s' : Sighting} (found : t.sightings[number]? = some s)
    (found' : u.sightings[number]? = some s') (same : s.outpoint = output) :
    s'.phase = .discarded ↔ s.phase = .discarded := by
  obtain ⟨s'', found'', -, precedes, -⟩ := move.kept found
  rw [found'] at found''
  cases found''
  constructor
  · intro discarded
    cases phase : s.phase with
    | discarded => rfl
    | observed =>
      have confirmed := coherent.isConfirmed secured found (by rw [phase]; rfl) same
      rw [phase] at confirmed
      cases confirmed
    | confirmed | credited =>
      rw [phase, discarded] at precedes
      cases precedes
  · intro discarded
    rw [discarded] at precedes
    exact precedes.eq_of_closed rfl

theorem Move.discardedCountOf_eq (move : Move t u) (coherent : t.Coherent)
    (secured : t.Secured output) : u.discardedCountOf output = t.discardedCountOf output := by
  rcases move.sightings_length with length | ⟨other, rfl, new, -, unknown⟩
  · have alike : u.sightings.map (fun s => s.phase == .discarded && s.outpoint == output) =
        t.sightings.map fun s => s.phase == .discarded && s.outpoint == output := by
      apply List.ext_getElem?
      intro number
      rw [List.getElem?_map, List.getElem?_map]
      cases found : t.sightings[number]? with
      | none =>
        rw [List.getElem?_eq_none_iff, ← length] at found
        rw [List.getElem?_eq_none found]
      | some s =>
        obtain ⟨s', found', reported, -⟩ := move.kept found
        have outpoint : s'.outpoint = s.outpoint := congrArg Output.outpoint reported
        rw [found', Option.map_some, Option.map_some, outpoint]
        by_cases same : s.outpoint = output
        · have phases := move.discarded_iff coherent secured found found' same
          have alike : (s'.phase == .discarded) = (s.phase == .discarded) := by
            rw [Bool.eq_iff_iff, beq_iff_eq, beq_iff_eq]
            exact phases
          rw [alike]
        · rw [beq_false_of_ne same, Bool.and_false, Bool.and_false]
    have counts := congrArg (List.countP id) alike
    rw [List.countP_map, List.countP_map] at counts
    exact counts
  · have other := secured.ne_sighted coherent new unknown
    rw [discardedCountOf, discardedCountOf, sighting_sightings, List.countP_append,
      List.countP_singleton]
    rw [if_neg]
    · rfl
    · simp [Sighting.outpoint, other]

theorem Moves.discardedCountOf_eq (moves : Moves t u) (coherent : t.Coherent)
    (secured : t.Secured output) : u.discardedCountOf output = t.discardedCountOf output := by
  induction moves with
  | refl => rfl
  | tail moves move ih =>
    have between := Moves.coherent moves coherent
    exact (move.discardedCountOf_eq between (Moves.secured moves coherent secured)).trans ih

/-! ## Whatever happens later -/

/-- An output that stood as confirmed in one state, in a later one. -/
structure Remains (t u : Tracking ω) (output : Outpoint) : Prop where
  standing : u.standing? output = some .confirmed
  waits : u.isProcessed output = true ∨
    ∃ number ∈ u.awaitingCredit, u.open? output = some number
  processed : t.isProcessed output = true → u.isProcessed output = true
  undiscarded : u.discardedCountOf output = t.discardedCountOf output

theorem Moves.remains (moves : Moves t u) (coherent : t.Coherent)
    (confirmed : t.standing? output = some .confirmed) : t.Remains u output := by
  have secured := coherent.standing?_eq_confirmed.mp confirmed
  have coherent' := Moves.coherent moves coherent
  have secured' := Moves.secured moves coherent secured
  exact ⟨coherent'.standing?_eq_confirmed.mpr secured', coherent'.waits secured',
    Moves.isProcessed moves, Moves.discardedCountOf_eq moves coherent secured⟩

/--
An output that stands as confirmed after some operation does so after every later
one.  Until it is in the ledger, which it never leaves, the next retry tries to
credit it, and no sighting of it is discarded any more.  The same is true between
any two states that a run passes, with other operations under way.
-/
theorem confirmed_for_good (manner : FeedManner) (outside : ω) {t : Tracking ω}
    (evolves : Evolves (start manner outside) t) :
    (∀ (u : Tracking ω) (output : Outpoint), Evolves t u →
      t.standing? output = some .confirmed → t.Remains u output) ∧
    ∀ (s v : Tracking ω) (output : Outpoint), Span {} (start manner outside) s → Span {} s v →
      s.standing? output = some .confirmed → s.Remains v output := by
  have coherent := coherent_start manner outside
  constructor
  · intro u output later confirmed
    exact later.moves.remains (evolves.moves.coherent coherent) confirmed
  · intro s v output passed later confirmed
    exact later.moves.remains (passed.moves.coherent coherent) confirmed

def unquoted (height : Int) : Run (Tracking Unit) Decimal :=
  throw (.noRate height)

/-- The payment is in a block for which there is no rate. -/
def awaiting : Tracking Unit :=
  Run.after ((Operation.output payment).perform unquoted)
    (Run.after ((Operation.addAddress "address" 0).perform unquoted) (start {} ()))

def contested : Tracking Unit :=
  Run.after ((Operation.output { payment with confidence := .dead }).perform unquoted)
    (Run.after ((Operation.callback payment.outpoint .inConflict none).perform unquoted) awaiting)

theorem confirmed_for_good_contested :
    awaiting.standing? payment.outpoint = some .confirmed ∧
      contested.standing? payment.outpoint = some .confirmed ∧
      contested.isProcessed payment.outpoint = false ∧ contested.awaitingCredit = [0] := by
  have silent : ∀ height s, Evolves s (Run.after (unquoted height) s) := fun _ s => .refl s
  have evolves : Evolves (start {} ()) awaiting :=
    .perform (.perform (.refl _) unquoted silent _) unquoted silent _
  have later : Evolves awaiting contested :=
    .perform (.perform (.refl _) unquoted silent _) unquoted silent _
  have confirmed : awaiting.standing? payment.outpoint = some .confirmed := by decide +kernel
  obtain ⟨remains, -⟩ := confirmed_for_good {} () evolves
  exact ⟨confirmed, (remains contested payment.outpoint later confirmed).standing,
    by decide +kernel, by decide +kernel⟩

end Tracking

end Paywatch
