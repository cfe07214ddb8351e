import Paywatch.Proofs.Payment.Lookup

/-!
# What keeps a tracker regular

Whatever an operation does at once to a tracker whose questions change nothing, the
tracker stays regular.  All parts of this but one follow from the moves; what is
shown of each change here is how the subscriptions are wired after it.
-/

namespace Paywatch

namespace Tracking

variable {ω : Type} {rates : ω} {t : Tracking ω}

theorem sighting_outside (t : Tracking ω) (output : Output) :
    (t.sighting output).outside = t.outside := by
  unfold sighting
  split <;> rfl

namespace Regular

/-! ## The journal and what lies outside -/

theorem noted (regular : t.Regular rates) {events : List TrackingEvent}
    (quiet : History.Quiet events) : (t.noted events).Regular rates where
  outside := regular.outside
  balanced := regular.balanced.of_same rfl (credits_noted t quiet)
  orderly := ⟨regular.orderly.processed, regular.orderly.single⟩
  settled := regular.settled.of_sightings (credits_noted t quiet) rfl
  wired := regular.wired.of_same rfl rfl

theorem exchanged (regular : t.Regular rates) (other : ω) :
    Regular other { t with outside := other } where
  outside := rfl
  balanced := regular.balanced.of_same rfl rfl
  orderly := ⟨regular.orderly.processed, regular.orderly.single⟩
  settled := regular.settled.of_sightings rfl rfl
  wired := regular.wired.of_same rfl rfl

/-! ## Sightings -/

/-- A report reaches an open sighting. -/
theorem reported (regular : t.Regular rates) {number : Nat} {s : Sighting}
    (found : t.sightings[number]? = some s) (isOpen : s.phase.isOpen = true)
    (confidence : Confidence) (height : Option Int) :
    ((t.noted [.reported number confidence height]).phased number
      (s.phase.advance confidence height)).Regular rates :=
  have noted : (t.noted [.reported number confidence height]).Regular rates :=
    regular.noted (History.quiet_singleton rfl)
  regular.move (.reported t number s confidence height found isOpen)
    (noted.wired.phased number _) rfl

/-- The subscription of a sighting that has come to its end is given up. -/
theorem released (regular : t.Regular rates) {number : Nat}
    (closed : ∀ s, t.sightings[number]? = some s → s.phase.isOpen = false) :
    (Run.after (release number) t).Regular rates :=
  regular.moves (moves_release closed) (regular.wired.release number) (release_outside t number)

/-- A sighting is credited at the rate that has just been told. -/
theorem credited (regular : t.Regular rates) {c : Credit} {s : Sighting} {total : Decimal}
    (output : c.output = s.output) (due : t.Due c.number s c.height)
    (told : t.journal.getLast? = some (.answered c.number c.height (some c.rate)))
    (converted : convertToUsd c.output.satoshi c.rate = .ok c.usd)
    (nonneg : c.usd.isNegative = .ok false) (added : t.ledger.total.add c.usd = .ok total) :
    (t.crediting c.number c.output c.height c.rate c.usd total).Regular rates := by
  refine regular.move ?_ (regular.wired.crediting c.number c.output c.height c.rate c.usd total) rfl
  rw [output] at converted ⊢
  exact .credited t c.number s c.height c.rate c.usd total due told converted nonneg added

/-- A sighting begins. -/
theorem sighted (regular : t.Regular rates) {output : Output}
    (new : t.isProcessed output.outpoint = false)
    (watched : t.feed.isWatched output.address = true)
    (unknown : t.open? output.outpoint = none) : (t.sighting output).Regular rates :=
  regular.move (.sighted t output new watched unknown) (regular.wired.sighting output)
    (sighting_outside t output)

/-- A subscription is kept with the sighting that it was made for. -/
theorem held (regular : t.Regular rates) {number id : Nat} {s : Sighting}
    (found : t.sightings[number]? = some s) (owns : t.Owns s.outpoint id) :
    (t.holding number (some id)).Regular rates :=
  regular.move (.held t number id (List.getElem?_eq_some_iff.mp found).1)
    (regular.wired.holding_some found owns) rfl

/-- An output in the ledger is open no more, whatever happens to the tracker. -/
theorem unknown (regular : t.Regular rates) {u : Tracking ω} (moves : Moves t u)
    {output : Outpoint} (processed : u.isProcessed output = true) : u.open? output = none := by
  apply List.findIdx?_eq_none_iff.mpr
  intro s inside
  obtain ⟨number, found⟩ := List.mem_iff_getElem?.mp inside
  cases isOpen : s.phase.isOpen with
  | false => rfl
  | true =>
    have settled := Moves.settled moves regular.settled
    have new := settled.unprocessed (Moves.balanced moves regular.balanced)
      (Moves.orderly moves regular.orderly) found isOpen
    have other : s.outpoint ≠ output := by
      rintro rfl
      rw [new] at processed
      cases processed
    rw [beq_false_of_ne other, Bool.and_false]

/-! ## Addresses -/

theorem watched (regular : t.Regular rates) (new : Watched) :
    Regular rates { t with feed := (t.feed.watch new).1 } := by
  refine regular.move (.watched t new) (regular.wired.of_fewer (Feed.watch_nextId _ _) ?_ ?_) rfl
  · intro sub inside
    rw [Feed.watch_subscriptions] at inside
    exact inside
  · intro number s id found subscribed
    exact ⟨s, found, rfl, subscribed⟩

end Regular

/-! ## Tries to credit -/

section

variable {rates : RateList} {t u : Tracking RateList}

theorem Looks.wired {number : Nat} {result : Except Failure Bool}
    (looks : Looks rates t number result u) (wired : t.Wired) : u.Wired := by
  cases looks with
  | quiet | refused => exact wired.of_same rfl rfl
  | credited s c total =>
    have quoted : (t.quoted c).Wired := wired.of_same rfl rfl
    have credited := quoted.crediting c.number c.output c.height c.rate c.usd total
    exact (credited.release c.number).of_same rfl rfl

theorem Looks.outside {number : Nat} {result : Except Failure Bool}
    (looks : Looks rates t number result u) : u.outside = t.outside := by
  cases looks with
  | quiet | refused => rfl
  | credited s c total =>
    rw [noted_outside, closing, release_outside]
    rfl

theorem Regular.credit (regular : t.Regular rates) (number : Nat) :
    (Run.after (credit lookup number) t).Regular rates :=
  regular.moves ((spanning_credit spanning_lookup number).moves t)
    ((looks regular number).wired regular.wired) (looks regular number).outside

end

end Tracking

end Paywatch
