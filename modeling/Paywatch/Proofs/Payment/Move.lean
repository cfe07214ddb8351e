import Mathlib.Logic.Relation
import Paywatch.Payment.Tracker

/-!
# Moves of the tracker

Whatever happens to a tracker is a sequence of moves.  A move is what one part
of an operation does at once, with everything that this part has looked at
before; nothing can come between.  Questions about rates are asked between
moves, so that other operations may begin and end there.

An invariant is shown of the single moves.  What a caller may rely on while a
question of its own is open is shown in the same way.
-/

namespace Paywatch

namespace Phase

/-- Reports and a credit lead from one phase to another one. -/
inductive Precedes : Phase → Phase → Prop where
  | refl (phase : Phase) : Precedes phase phase
  | observed (phase : Phase) : Precedes observed phase
  | block (height : Option Int) : Precedes (confirmed none) (confirmed height)
  | credited (height : Option Int) : Precedes (confirmed height) credited

attribute [simp] Precedes.refl Precedes.observed

namespace Precedes

theorem trans {first second third : Phase} (left : Precedes first second)
    (right : Precedes second third) : Precedes first third := by
  cases left with
  | refl => exact right
  | observed => exact .observed _
  | block height =>
    cases right with
    | refl => exact .block height
    | block => exact .block _
    | credited => exact .credited none
  | credited height =>
    cases right with
    | refl => exact .credited height

end Precedes

theorem precedes_advance (confidence : Confidence) (height : Option Int) (phase : Phase) :
    Precedes phase (phase.advance confidence height) := by
  cases phase with
  | observed => exact .observed _
  | confirmed block =>
    cases block with
    | some block => exact .refl _
    | none =>
      simp only [advance]
      split
      · exact .block height
      · exact .refl _
  | credited => exact .refl _
  | discarded => exact .refl _

/-- A report never credits. -/
theorem advance_eq_credited {confidence : Confidence} {height : Option Int} {phase : Phase}
    (credited : phase.advance confidence height = .credited) : phase = .credited := by
  cases phase with
  | observed =>
    simp only [advance] at credited
    split at credited
    · cases credited
    · split at credited <;> cases credited
  | confirmed block =>
    cases block with
    | some block => cases credited
    | none =>
      simp only [advance] at credited
      split at credited <;> cases credited
  | credited => rfl
  | discarded => cases credited

theorem ne_credited {phase : Phase} (isOpen : phase.isOpen = true) : phase ≠ .credited := by
  rintro rfl
  cases isOpen

/-- A report that does not discard leaves a sighting open. -/
theorem isOpen_advance {confidence : Confidence} {height : Option Int} {phase : Phase}
    (isOpen : phase.isOpen = true) (kept : phase.advance confidence height ≠ .discarded) :
    (phase.advance confidence height).isOpen = true := by
  cases result : phase.advance confidence height with
  | observed | confirmed => rfl
  | credited => exact absurd (advance_eq_credited result) (ne_credited isOpen)
  | discarded => exact absurd result kept

theorem atFirst_ne_credited (confidence : Confidence) (height : Option Int) :
    atFirst confidence height ≠ .credited :=
  fun credited => by cases advance_eq_credited credited

theorem eq_confirmed_of_height? {phase : Phase} {height : Int}
    (block : phase.height? = some height) : phase = .confirmed (some height) := by
  cases phase with
  | confirmed h =>
    cases block
    rfl
  | _ => cases block

end Phase

namespace Tracking

variable {ω : Type}

/-! ## What moves do to a tracker -/

def noted (t : Tracking ω) (events : List TrackingEvent) : Tracking ω :=
  { t with journal := t.journal ++ events }

/-- The tracker with another phase of a sighting. -/
def phased (t : Tracking ω) (number : Nat) (phase : Phase) : Tracking ω :=
  { t with sightings := t.sightings.modify number fun s => { s with phase := phase } }

def holding (t : Tracking ω) (number : Nat) (subscription : Option Nat) : Tracking ω :=
  { t with
    sightings := t.sightings.modify number fun s => { s with subscription := subscription } }

def subscribing (t : Tracking ω) (output : Outpoint) : Tracking ω :=
  { t with feed := (t.feed.subscribe output (.confidence output)).2 }

def beginning (t : Tracking ω) (output : Output) : Tracking ω :=
  { t with
    sightings := t.sightings ++
      [⟨output, Phase.atFirst output.confidence output.height, none⟩]
    journal := t.journal ++ [.sighted t.sightings.length output,
      .reported t.sightings.length output.confidence output.height] }

def sighting (t : Tracking ω) (output : Output) : Tracking ω :=
  if Phase.atFirst output.confidence output.height = .observed then
    (t.beginning output).subscribing output.outpoint
  else t.beginning output

/-- The tracker with a subscription given up. -/
def cancelling (t : Tracking ω) (id : Nat) : Tracking ω :=
  if t.manner.keepsCancelled then t else { t with feed := t.feed.unsubscribe id }

/-- The tracker with an output entered into its ledger. -/
def entering (t : Tracking ω) (output : Outpoint) (total : Decimal) : Tracking ω :=
  { t with ledger := ⟨t.ledger.processed ++ [output], total⟩ }

def crediting (t : Tracking ω) (number : Nat) (output : Output) (height : Int)
    (rate usd total : Decimal) : Tracking ω :=
  ((t.entering output.outpoint total).noted [.credited number output height rate usd]).phased
    number .credited

/-! ## The parts of a tracker after a move -/

@[simp]
theorem noted_sightings (t : Tracking ω) (events : List TrackingEvent) :
    (t.noted events).sightings = t.sightings := rfl

@[simp]
theorem noted_ledger (t : Tracking ω) (events : List TrackingEvent) :
    (t.noted events).ledger = t.ledger := rfl

@[simp]
theorem noted_journal (t : Tracking ω) (events : List TrackingEvent) :
    (t.noted events).journal = t.journal ++ events := rfl

@[simp]
theorem noted_outside (t : Tracking ω) (events : List TrackingEvent) :
    (t.noted events).outside = t.outside := rfl

@[simp]
theorem phased_ledger (t : Tracking ω) (number : Nat) (phase : Phase) :
    (t.phased number phase).ledger = t.ledger := rfl

@[simp]
theorem phased_journal (t : Tracking ω) (number : Nat) (phase : Phase) :
    (t.phased number phase).journal = t.journal := rfl

@[simp]
theorem holding_ledger (t : Tracking ω) (number : Nat) (subscription : Option Nat) :
    (t.holding number subscription).ledger = t.ledger := rfl

@[simp]
theorem holding_journal (t : Tracking ω) (number : Nat) (subscription : Option Nat) :
    (t.holding number subscription).journal = t.journal := rfl

@[simp]
theorem sighting_sightings (t : Tracking ω) (output : Output) :
    (t.sighting output).sightings = t.sightings ++
      [⟨output, Phase.atFirst output.confidence output.height, none⟩] := by
  unfold sighting
  split <;> rfl

@[simp]
theorem sighting_ledger (t : Tracking ω) (output : Output) :
    (t.sighting output).ledger = t.ledger := by
  unfold sighting
  split <;> rfl

@[simp]
theorem sighting_journal (t : Tracking ω) (output : Output) :
    (t.sighting output).journal = t.journal ++ [.sighted t.sightings.length output,
      .reported t.sightings.length output.confidence output.height] := by
  unfold sighting
  split <;> rfl

@[simp]
theorem cancelling_sightings (t : Tracking ω) (id : Nat) :
    (t.cancelling id).sightings = t.sightings := by
  unfold cancelling
  split <;> rfl

@[simp]
theorem cancelling_ledger (t : Tracking ω) (id : Nat) : (t.cancelling id).ledger = t.ledger := by
  unfold cancelling
  split <;> rfl

@[simp]
theorem cancelling_journal (t : Tracking ω) (id : Nat) : (t.cancelling id).journal = t.journal := by
  unfold cancelling
  split <;> rfl

@[simp]
theorem entering_sightings (t : Tracking ω) (output : Outpoint) (total : Decimal) :
    (t.entering output total).sightings = t.sightings := rfl

@[simp]
theorem entering_journal (t : Tracking ω) (output : Outpoint) (total : Decimal) :
    (t.entering output total).journal = t.journal := rfl

@[simp]
theorem entering_ledger (t : Tracking ω) (output : Outpoint) (total : Decimal) :
    (t.entering output total).ledger = ⟨t.ledger.processed ++ [output], total⟩ := rfl

theorem phased_getElem? (t : Tracking ω) (number m : Nat) (phase : Phase) :
    (t.phased number phase).sightings[m]? =
      t.sightings[m]?.map fun s => if number = m then { s with phase := phase } else s := by
  rw [phased, List.getElem?_modify]
  rfl

theorem phase_of_phased {t : Tracking ω} {number : Nat} {phase : Phase} {s : Sighting}
    (found : (t.phased number phase).sightings[number]? = some s) : s.phase = phase := by
  rw [phased_getElem?] at found
  obtain ⟨s', -, rfl⟩ := Option.map_eq_some_iff.mp found
  simp

theorem holding_getElem? (t : Tracking ω) (number m : Nat) (subscription : Option Nat) :
    (t.holding number subscription).sightings[m]? =
      t.sightings[m]?.map fun s =>
        if number = m then { s with subscription := subscription } else s := by
  rw [holding, List.getElem?_modify]
  rfl

theorem sighting_getElem? (t : Tracking ω) (output : Output) {m : Nat} {s : Sighting}
    (found : t.sightings[m]? = some s) : (t.sighting output).sightings[m]? = some s := by
  obtain ⟨inside, -⟩ := List.getElem?_eq_some_iff.mp found
  rw [sighting_sightings, List.getElem?_append_left inside]
  exact found

/-- The sighting that begins is the last one. -/
theorem sighting_last (t : Tracking ω) (output : Output) :
    (t.sighting output).sightings[t.sightings.length]? =
      some ⟨output, Phase.atFirst output.confidence output.height, none⟩ := by
  rw [sighting_sightings, List.getElem?_concat_length]

/-- A sighting was there before another one began, or it is that one. -/
theorem sighting_found {t : Tracking ω} {output : Output} {number : Nat} {s : Sighting}
    (found : (t.sighting output).sightings[number]? = some s) :
    t.sightings[number]? = some s ∨ number = t.sightings.length ∧
      s = ⟨output, Phase.atFirst output.confidence output.height, none⟩ := by
  rw [sighting_sightings, List.getElem?_append] at found
  split at found
  · exact .inl found
  · rw [List.getElem?_singleton] at found
    split at found
    · cases found
      exact .inr ⟨by omega, rfl⟩
    · cases found

/-- An output is in the ledger after it has been entered, and no other one is that was not. -/
theorem entering_isProcessed (t : Tracking ω) (output other : Outpoint) (total : Decimal) :
    (t.entering output total).isProcessed other =
      (t.isProcessed other || decide (other = output)) := by
  simp [isProcessed, Ledger.contains, Bool.or_comm]

/-! ## Moves -/

/-- What a try to credit needs to go on after its question: a block, and no other credit. -/
structure Due (t : Tracking ω) (number : Nat) (s : Sighting) (height : Int) : Prop where
  found : t.sightings[number]? = some s
  block : s.phase = .confirmed (some height)
  new : t.isProcessed s.outpoint = false

theorem Due.unique {t : Tracking ω} {number : Nat} {s s' : Sighting} {height height' : Int}
    (due : t.Due number s height) (due' : t.Due number s' height') : s' = s ∧ height' = height := by
  have same : s' = s := Option.some.inj (due'.found.symm.trans due.found)
  subst same
  have block := due'.block.symm.trans due.block
  cases block
  exact ⟨rfl, rfl⟩

/-- What happens to a tracker at once. -/
inductive Move : Tracking ω → Tracking ω → Prop where
  /-- The log is told something. -/
  | logged (t : Tracking ω) (record : LogRecord) : Move t (t.noted [.logged record])
  /-- What lies outside changes, and with it what the feed announces at once. -/
  | outside (t : Tracking ω) (announced : List (String × List (Confidence × Option Int)))
      (outside : ω) :
      Move t { t with
        manner := { t.manner with announcedAtOnce := announced }
        outside := outside }
  /-- An address is watched. -/
  | watched (t : Tracking ω) (new : Watched) : Move t { t with feed := (t.feed.watch new).1 }
  /-- A sighting begins. -/
  | sighted (t : Tracking ω) (output : Output) (new : t.isProcessed output.outpoint = false)
      (watched : t.feed.isWatched output.address = true)
      (unknown : t.open? output.outpoint = none) :
      Move t (t.sighting output)
  /-- The subscription that was made for a sighting is kept with it. -/
  | held (t : Tracking ω) (number id : Nat) (known : number < t.sightings.length) :
      Move t (t.holding number (some id))
  /-- A report reaches an open sighting. -/
  | reported (t : Tracking ω) (number : Nat) (s : Sighting) (confidence : Confidence)
      (height : Option Int) (found : t.sightings[number]? = some s)
      (isOpen : s.phase.isOpen = true) :
      Move t ((t.noted [.reported number confidence height]).phased number
        (s.phase.advance confidence height))
  /-- The subscription of a sighting that has come to its end is given up. -/
  | cancelled (t : Tracking ω) (number id : Nat) (s : Sighting)
      (found : t.sightings[number]? = some s) (closed : s.phase.isOpen = false)
      (subscribed : s.subscription = some id) :
      Move t (((t.holding number none).noted [.cancelled id]).cancelling id)
  /-- The rate of the block of a sighting is asked for. -/
  | asked (t : Tracking ω) (number : Nat) (s : Sighting) (height : Int)
      (due : t.Due number s height) :
      Move t (t.noted [.asked number height])
  /-- A question is answered. -/
  | answered (t : Tracking ω) (number : Nat) (height : Int) (rate : Option Decimal) :
      Move t (t.noted [.answered number height rate])
  /-- A sighting is credited at the rate that has just been told. -/
  | credited (t : Tracking ω) (number : Nat) (s : Sighting) (height : Int)
      (rate usd total : Decimal) (due : t.Due number s height)
      (told : t.journal.getLast? = some (.answered number height (some rate)))
      (converted : convertToUsd s.output.satoshi rate = .ok usd)
      (nonneg : usd.isNegative = .ok false) (added : t.ledger.total.add usd = .ok total) :
      Move t (t.crediting number s.output height rate usd total)
  /-- An output is entered into the ledger, and then no sum can be formed. -/
  | unsummed (t : Tracking ω) (number : Nat) (s : Sighting) (height : Int)
      (rate usd : Decimal) (signal : Decimal.Signal) (due : t.Due number s height)
      (converted : convertToUsd s.output.satoshi rate = .ok usd)
      (nonneg : usd.isNegative = .ok false) (refused : t.ledger.total.add usd = .error signal) :
      Move t (t.entering s.outpoint t.ledger.total)

/-- What happens to a tracker, one move after another. -/
abbrev Moves : Tracking ω → Tracking ω → Prop :=
  Relation.ReflTransGen Move

/-! ## What moves keep -/

/-- No move takes an output out of the ledger. -/
theorem Move.processed_prefix {t u : Tracking ω} (move : Move t u) :
    t.ledger.processed <+: u.ledger.processed := by
  cases move with
  | credited | unsummed => exact List.prefix_append _ _
  | _ => simp

theorem Moves.processed_prefix {t u : Tracking ω} (moves : Moves t u) :
    t.ledger.processed <+: u.ledger.processed := by
  induction moves with
  | refl => exact List.prefix_rfl
  | tail _ move ih => exact ih.trans move.processed_prefix

theorem Moves.isProcessed {t u : Tracking ω} (moves : Moves t u) {output : Outpoint}
    (processed : t.isProcessed output = true) : u.isProcessed output = true := by
  unfold Tracking.isProcessed Ledger.contains at *
  rw [List.contains_iff_mem] at *
  exact moves.processed_prefix.subset processed

theorem Move.journal_prefix {t u : Tracking ω} (move : Move t u) : t.journal <+: u.journal := by
  cases move with
  | outside | watched | held | unsummed => exact List.prefix_rfl
  | sighted output =>
    rw [sighting_journal]
    exact List.prefix_append _ _
  | cancelled number id =>
    rw [cancelling_journal]
    exact List.prefix_append _ _
  | logged | reported | asked | answered | credited => exact List.prefix_append _ _

theorem Moves.journal_prefix {t u : Tracking ω} (moves : Moves t u) : t.journal <+: u.journal := by
  induction moves with
  | refl => exact List.prefix_rfl
  | tail _ move ih => exact ih.trans move.journal_prefix

/-- Every move leaves a sighting its number and its output, and only advances its phase. -/
theorem Move.kept {t u : Tracking ω} (move : Move t u) {number : Nat} {s : Sighting}
    (found : t.sightings[number]? = some s) :
    ∃ s', u.sightings[number]? = some s' ∧ s'.output = s.output ∧ s.phase.Precedes s'.phase ∧
      (s'.phase = .credited → s.phase = .credited ∨ u.isProcessed s.outpoint = true) := by
  have same (unchanged : u.sightings[number]? = some s) : ∃ s', u.sightings[number]? = some s' ∧
      s'.output = s.output ∧ s.phase.Precedes s'.phase ∧
      (s'.phase = .credited → s.phase = .credited ∨ u.isProcessed s.outpoint = true) :=
    ⟨s, unchanged, rfl, .refl _, .inl⟩
  cases move with
  | logged | outside | watched | asked | answered | unsummed => exact same found
  | sighted output => exact same (t.sighting_getElem? output found)
  | held m id =>
    rw [holding_getElem?, found]
    refine ⟨_, rfl, ?_⟩
    split <;> exact ⟨rfl, .refl _, .inl⟩
  | cancelled m id =>
    rw [cancelling_sightings, noted_sightings, holding_getElem?, found]
    refine ⟨_, rfl, ?_⟩
    split <;> exact ⟨rfl, .refl _, .inl⟩
  | reported m s' confidence height found' =>
    rw [phased_getElem?, noted_sightings, found]
    refine ⟨_, rfl, ?_⟩
    split
    · rename_i here
      rw [here, found] at found'
      cases found'
      exact ⟨rfl, Phase.precedes_advance .., fun credited => .inl (Phase.advance_eq_credited credited)⟩
    · exact ⟨rfl, .refl _, .inl⟩
  | credited m s' height rate usd total due =>
    rw [crediting, phased_getElem?, noted_sightings, entering_sightings, found]
    refine ⟨_, rfl, ?_⟩
    split
    · rename_i here
      have found' := due.found
      rw [here, found] at found'
      cases found'
      refine ⟨rfl, ?_, fun _ => .inr ?_⟩
      · rw [due.block]
        exact .credited _
      · change (t.entering s.outpoint total).isProcessed s.outpoint = true
        simp [entering_isProcessed]
    · exact ⟨rfl, .refl _, .inl⟩

theorem Moves.kept {t u : Tracking ω} (moves : Moves t u) {number : Nat} {s : Sighting}
    (found : t.sightings[number]? = some s) :
    ∃ s', u.sightings[number]? = some s' ∧ s'.output = s.output ∧ s.phase.Precedes s'.phase ∧
      (s'.phase = .credited → s.phase = .credited ∨ u.isProcessed s.outpoint = true) := by
  induction moves with
  | refl => exact ⟨s, found, rfl, .refl _, .inl⟩
  | tail moves move ih =>
    obtain ⟨s', found', output', precedes', credited'⟩ := ih
    obtain ⟨s'', found'', output'', precedes'', credited''⟩ := move.kept found'
    refine ⟨s'', found'', output''.trans output', precedes'.trans precedes'', ?_⟩
    intro credited
    rcases credited'' credited with before | processed
    · exact (credited' before).imp id (Moves.isProcessed (.single move))
    · rw [Sighting.outpoint, output'] at processed
      exact .inr processed

/-- What has become of a sighting that was there before. -/
theorem Moves.earlier {t u : Tracking ω} (moves : Moves t u) {number : Nat} {s' : Sighting}
    (found' : u.sightings[number]? = some s') (known : number < t.sightings.length) :
    ∃ s, t.sightings[number]? = some s ∧ s'.output = s.output ∧ s.phase.Precedes s'.phase ∧
      (s'.phase = .credited → s.phase = .credited ∨ u.isProcessed s.outpoint = true) := by
  have found := List.getElem?_eq_getElem known
  obtain ⟨s'', found'', kept⟩ := moves.kept found
  rw [found'] at found''
  cases found''
  exact ⟨_, found, kept⟩

/-- A sighting keeps its number for good. -/
theorem Moves.known {t u : Tracking ω} (moves : Moves t u) {number : Nat}
    (known : number < t.sightings.length) : number < u.sightings.length := by
  obtain ⟨s', found, -⟩ := moves.kept (List.getElem?_eq_getElem known)
  exact (List.getElem?_eq_some_iff.mp found).1

/--
What a try to credit relies on while its question is open: whatever happens then,
its credit is still due unless the output has been entered into the ledger.
-/
theorem Moves.due {t u : Tracking ω} (moves : Moves t u) {number : Nat} {s : Sighting}
    {height : Int} (due : t.Due number s height) (new : u.isProcessed s.outpoint = false) :
    ∃ s', s'.output = s.output ∧ u.Due number s' height := by
  obtain ⟨s', found, output, precedes, credited⟩ := moves.kept due.found
  have block : s'.phase = .confirmed (some height) := by
    rw [due.block] at precedes credited
    generalize s'.phase = phase at *
    cases precedes with
    | refl => rfl
    | credited =>
      rcases credited rfl with before | processed
      · cases before
      · rw [new] at processed
        cases processed
  exact ⟨s', output, found, block, by rw [Sighting.outpoint, output]; exact new⟩

end Tracking

end Paywatch
