import Paywatch.Proofs.Payment.Balance
import Paywatch.Proofs.Payment.Register

/-!
# The journal and the register

The journal has the output with which every sighting began, and the block that a
sighting knows is the first one that was reported for it.  Questions are asked and
credits are made at that block, so that a history allows them only there.
-/

namespace Paywatch

/-- What a phase knows of the first block that was reported. -/
def Phase.Knows : Phase → Option Int → Prop
  | observed, block => block = none
  | confirmed height, block => block = height
  | credited, _ => True
  | discarded, block => block = none

/-- A report is known to the phase after it. -/
theorem Phase.Knows.advance {phase : Phase} {block : Option Int} (knows : phase.Knows block)
    (isOpen : phase.isOpen = true) (number : Nat) (confidence : Confidence) (height : Option Int) :
    (phase.advance confidence height).Knows
      (block.or ((TrackingEvent.reported number confidence height).block? number)) := by
  cases phase with
  | observed =>
    cases knows
    cases confidence <;> simp [Phase.advance, Phase.Knows, TrackingEvent.block?, Confidence.isTerminal]
  | confirmed known =>
    cases knows
    cases block with
    | none =>
      cases confidence <;> simp [Phase.advance, Phase.Knows, TrackingEvent.block?]
    | some first => rfl
  | credited => trivial
  | discarded => cases isOpen

/-- What is asked, and what is credited, after the events before. -/
def Priced (before : List TrackingEvent) : TrackingEvent → Prop
  | .asked number height =>
    History.firstBlock? number before = some height ∧
      ∀ (m : Nat) (output output' : Output) (height' : Int),
        History.opening? number before = some output → History.opening? m before = some output' →
        output'.outpoint = output.outpoint → History.firstBlock? m before = some height' →
        height' = height
  | .credited number output height rate usd =>
    History.opening? number before = some output ∧
      History.firstBlock? number before = some height ∧
      before.getLast? = some (.answered number height (some rate)) ∧
      convertToUsd output.satoshi rate = .ok usd
  | _ => True

namespace Tracking

variable {ω : Type} {t u : Tracking ω}

/-- The journal agrees with the register. -/
structure Chronicle (t : Tracking ω) : Prop where
  opened : ∀ number, History.opening? number t.journal = t.sightings[number]?.map (·.output)
  blocks : ∀ (number : Nat) (s : Sighting), t.sightings[number]? = some s →
    s.phase.Knows (History.firstBlock? number t.journal)
  ahead : ∀ number, t.sightings.length ≤ number → History.firstBlock? number t.journal = none
  priced : History.Keeps Priced t.journal

theorem chronicle_start (manner : FeedManner) (outside : ω) :
    (start manner outside).Chronicle where
  opened := fun _ => rfl
  blocks := fun _ _ found => by cases found
  ahead := fun _ _ => rfl
  priced := History.keeps_nil

namespace Chronicle

/-- What concerns neither the register nor the journal. -/
theorem of_same (chronicle : t.Chronicle) (sightings : u.sightings = t.sightings)
    (journal : u.journal = t.journal) : u.Chronicle where
  opened := by rw [sightings, journal]; exact chronicle.opened
  blocks := by rw [sightings, journal]; exact chronicle.blocks
  ahead := by rw [sightings, journal]; exact chronicle.ahead
  priced := by rw [journal]; exact chronicle.priced

/-- An event that neither begins a sighting nor reports a block. -/
theorem noted (chronicle : t.Chronicle) {event : TrackingEvent}
    (opening : ∀ number, event.opening? number = none)
    (block : ∀ number, event.block? number = none) (allowed : Priced t.journal event) :
    (t.noted [event]).Chronicle := by
  have sameOpening (number : Nat) : History.opening? number (t.noted [event]).journal =
      History.opening? number t.journal := by
    rw [noted_journal, History.opening?_append]
    simp [History.opening?, opening]
  have sameBlock (number : Nat) : History.firstBlock? number (t.noted [event]).journal =
      History.firstBlock? number t.journal := by
    rw [noted_journal, History.firstBlock?_append]
    simp [History.firstBlock?, block]
  refine ⟨?_, ?_, ?_, chronicle.priced.concat allowed⟩
  · intro number
    rw [sameOpening]
    exact chronicle.opened number
  · intro number s found
    rw [sameBlock]
    exact chronicle.blocks number s found
  · intro number beyond
    rw [sameBlock]
    exact chronicle.ahead number beyond

/-- A sighting that holds another subscription. -/
theorem holding (chronicle : t.Chronicle) (number : Nat) (subscription : Option Nat) :
    (t.holding number subscription).Chronicle := by
  refine ⟨?_, ?_, ?_, chronicle.priced⟩
  · intro m
    rw [holding_journal, chronicle.opened, holding_getElem?, Option.map_map]
    cases t.sightings[m]? with
    | none => rfl
    | some s =>
      simp only [Option.map_some, Function.comp]
      split <;> rfl
  · intro m s found
    rw [holding_getElem?] at found
    obtain ⟨s', found', rfl⟩ := Option.map_eq_some_iff.mp found
    have knows := chronicle.blocks m s' found'
    split <;> exact knows
  · intro m beyond
    exact chronicle.ahead m (by simpa [Tracking.holding] using beyond)

/-- A sighting that comes into another phase by an event that concerns no other one. -/
theorem advanced (chronicle : t.Chronicle) {number : Nat} {phase : Phase} {event : TrackingEvent}
    (known : number < t.sightings.length) (opening : ∀ m, event.opening? m = none)
    (block : ∀ m, m ≠ number → event.block? m = none)
    (knows : phase.Knows ((History.firstBlock? number t.journal).or (event.block? number)))
    (allowed : Priced t.journal event) : ((t.noted [event]).phased number phase).Chronicle := by
  have after (m : Nat) : History.firstBlock? m (t.journal ++ [event]) =
      (History.firstBlock? m t.journal).or (event.block? m) := by
    rw [History.firstBlock?_append]
    simp [History.firstBlock?]
  refine ⟨?_, ?_, ?_, chronicle.priced.concat allowed⟩
  · intro m
    rw [phased_journal, noted_journal, History.opening?_append, chronicle.opened, phased_getElem?,
      noted_sightings, Option.map_map]
    have none : History.opening? m [event] = none := by
      simp [History.opening?, opening]
    rw [none, Option.or_none]
    cases t.sightings[m]? with
    | none => rfl
    | some s =>
      simp only [Option.map_some, Function.comp]
      split <;> rfl
  · intro m s found
    rw [phased_getElem?, noted_sightings] at found
    obtain ⟨s', found', rfl⟩ := Option.map_eq_some_iff.mp found
    rw [phased_journal, noted_journal, after]
    split
    · rename_i here
      rw [← here]
      exact knows
    · rename_i elsewhere
      rw [block m fun same => elsewhere same.symm, Option.or_none]
      exact chronicle.blocks m s' found'
  · intro m beyond
    have beyond : t.sightings.length ≤ m := by
      simpa [phased] using beyond
    rw [phased_journal, noted_journal, after, chronicle.ahead m beyond, block m (by omega),
      Option.or_none]

theorem sighting (chronicle : t.Chronicle) (output : Output) : (t.sighting output).Chronicle := by
  have journal : (t.sighting output).journal = (t.journal ++ [.sighted t.sightings.length output]) ++
      [.reported t.sightings.length output.confidence output.height] := by
    rw [sighting_journal, List.append_assoc]
    rfl
  have after (m : Nat) : History.firstBlock? m (t.sighting output).journal =
      (History.firstBlock? m t.journal).or ((TrackingEvent.reported t.sightings.length
        output.confidence output.height).block? m) := by
    rw [sighting_journal, History.firstBlock?_append]
    simp [History.firstBlock?, TrackingEvent.block?]
  have elsewhere {m : Nat} (other : t.sightings.length ≠ m) : (TrackingEvent.reported
      t.sightings.length output.confidence output.height).block? m = none := by
    cases output.confidence <;> simp [TrackingEvent.block?, other]
  refine ⟨?_, ?_, ?_, ?_⟩
  · intro m
    rw [sighting_journal, History.opening?_append, chronicle.opened, sighting_sightings,
      List.getElem?_append]
    split
    · rename_i inside
      rw [List.getElem?_eq_getElem inside]
      rfl
    · rename_i beyond
      rw [List.getElem?_eq_none (Nat.le_of_not_lt beyond), List.getElem?_singleton]
      by_cases last : t.sightings.length = m
      · simp [History.opening?, TrackingEvent.opening?, last]
      · have later : m - t.sightings.length ≠ 0 := by omega
        simp [History.opening?, TrackingEvent.opening?, last, later]
  · intro m s found
    rw [after]
    rcases sighting_found found with old | ⟨rfl, rfl⟩
    · obtain ⟨inside, -⟩ := List.getElem?_eq_some_iff.mp old
      rw [elsewhere (by omega), Option.or_none]
      exact chronicle.blocks m s old
    · rw [chronicle.ahead _ (le_refl _)]
      have nothing : Phase.observed.Knows none := rfl
      exact nothing.advance rfl _ _ _
  · intro m beyond
    rw [sighting_sightings, List.length_append, List.length_singleton] at beyond
    rw [after, chronicle.ahead m (by omega), elsewhere (by omega), Option.or_none]
  · have begun : History.Keeps Priced (t.journal ++ [.sighted t.sightings.length output]) :=
      chronicle.priced.concat trivial
    rw [journal]
    exact begun.concat trivial

/-- What a credit that is due knows. -/
theorem priced_asked (chronicle : t.Chronicle) (orderly : t.Orderly) {number : Nat} {s : Sighting}
    {height : Int} (due : t.Due number s height) : Priced t.journal (.asked number height) := by
  have knows := chronicle.blocks number s due.found
  rw [due.block] at knows
  refine ⟨knows, fun m output output' height' opened opened' same block => ?_⟩
  by_cases here : m = number
  · rw [here, knows] at block
    exact (Option.some.inj block).symm
  · rw [chronicle.opened, due.found] at opened
    rw [chronicle.opened] at opened'
    cases opened
    obtain ⟨s', found', rfl⟩ := Option.map_eq_some_iff.mp opened'
    rcases orderly.single m number s' s here found' due.found same with discarded | discarded
    · have knows' := chronicle.blocks m s' found'
      rw [discarded] at knows'
      rw [knows'] at block
      cases block
    · rw [due.block] at discarded
      cases discarded

end Chronicle

theorem Move.chronicle (move : Move t u) (chronicle : t.Chronicle) (orderly : t.Orderly) :
    u.Chronicle := by
  cases move with
  | outside | watched | unsummed => exact chronicle.of_same rfl rfl
  | logged | answered => exact chronicle.noted (fun _ => rfl) (fun _ => rfl) trivial
  | asked number s height due =>
    exact chronicle.noted (fun _ => rfl) (fun _ => rfl) (chronicle.priced_asked orderly due)
  | held number id => exact chronicle.holding number (some id)
  | cancelled number id =>
    have given : ((t.holding number none).noted [.cancelled id]).Chronicle :=
      (chronicle.holding number none).noted (fun _ => rfl) (fun _ => rfl) trivial
    exact given.of_same (cancelling_sightings _ id) (cancelling_journal _ id)
  | sighted output => exact chronicle.sighting output
  | reported number s confidence height found isOpen =>
    obtain ⟨known, -⟩ := List.getElem?_eq_some_iff.mp found
    refine chronicle.advanced known (fun _ => rfl) (fun m other => ?_) ?_ trivial
    · cases confidence <;> simp [TrackingEvent.block?, other.symm]
    · exact (chronicle.blocks number s found).advance isOpen number confidence height
  | credited number s height rate usd total due told converted =>
    obtain ⟨known, -⟩ := List.getElem?_eq_some_iff.mp due.found
    have knows := chronicle.blocks number s due.found
    rw [due.block] at knows
    have entered : (t.entering s.outpoint total).Chronicle := chronicle.of_same rfl rfl
    have opened : History.opening? number t.journal = some s.output := by
      rw [chronicle.opened, due.found]
      rfl
    exact entered.advanced known (fun _ => rfl) (fun _ _ => rfl) trivial
      ⟨opened, knows, told, converted⟩

theorem Moves.chronicle (moves : Moves t u) (chronicle : t.Chronicle) (orderly : t.Orderly) :
    u.Chronicle := by
  induction moves with
  | refl => exact chronicle
  | tail moves move ih => exact move.chronicle ih (Moves.orderly moves orderly)

end Tracking

end Paywatch
