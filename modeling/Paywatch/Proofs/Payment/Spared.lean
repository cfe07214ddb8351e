import Paywatch.Proofs.Payment.Share

/-!
# Functions that spare a transaction

What is reported of other transactions leaves the share of a transaction as it is,
whether or not a function fails on the way.  The functions are taken in the order
in which they call each other; those that are given the number of a sighting spare
a transaction that the sighting is not of.
-/

namespace Paywatch

namespace Tracking

variable {rates : RateList} {t : Tracking RateList} {α β : Type} {txid : String}

/-! ## Steps that spare a transaction -/

/-- A step spares a transaction, whatever it holds of it when it begins. -/
def Sparing (txid : String) (step : Run (Tracking RateList) α) : Prop :=
  ∀ ⦃rates : RateList⦄ ⦃t : Tracking RateList⦄, t.Regular rates →
    t.manner.announcedAtOnce = [] → Spares txid rates t (Run.after step t)

theorem sparing_pure (a : α) : Sparing txid (pure a : Run (Tracking RateList) α) :=
  fun _ _ regular _ => .refl regular

theorem Sparing.seq {x : Run (Tracking RateList) α} {y : Run (Tracking RateList) β}
    (first : Sparing txid x) (rest : Sparing txid y) : Sparing txid (x >>= fun _ => y) := by
  intro rates t regular silent
  have spares := first regular silent
  rw [Run.after_bind]
  cases Run.outcome x t with
  | error failure => exact spares
  | ok _ => exact spares.trans (rest spares.regular (spares.silent silent))

theorem Sparing.discard {x : Run (Tracking RateList) α} (sparing : Sparing txid x) :
    Sparing txid (discard x) := by
  rw [Run.discard_eq]
  exact sparing.seq (sparing_pure ())

theorem Sparing.forM {f : α → Run (Tracking RateList) PUnit} {as : List α}
    (each : ∀ a ∈ as, Sparing txid (f a)) : Sparing txid (as.forM f) := by
  induction as with
  | nil => exact sparing_pure PUnit.unit
  | cons a as ih => exact (each a (.head as)).seq (ih fun b inside => each b (.tail a inside))

/-! ## Sightings of other transactions -/

namespace Spares

variable {number : Nat} (regular : t.Regular rates) (other : number ∉ t.numbersOf txid)

include regular other

theorem credit : Spares txid rates t (Run.after (credit lookup number) t) := by
  have seen := looks regular number
  generalize Run.outcome (Tracking.credit lookup number) t = result at seen
  generalize Run.after (Tracking.credit lookup number) t = u at seen
  cases seen with
  | quiet events quiet => exact (refl regular).noted quiet
  | refused s height rate => exact (refl regular).noted (quiet_told number height rate)
  | credited s c total record here output due rated converted nonneg added =>
    subst here
    have quoted : Spares txid rates t (t.quoted c) :=
      (refl regular).noted (quiet_told c.number c.height c.rate)
    have due' : (t.quoted c).Due c.number s c.height := ⟨due.found, due.block, due.new⟩
    have credited := quoted.credited other output due' (getLast?_quoted t c) converted nonneg added
    have found := crediting_found due'.found c.output c.height c.rate c.usd total
    refine (credited.released other fun s' found' => ?_).logged record
    rw [found] at found'
    cases found'
    rfl

theorem attempt (confidence : Confidence) :
    Spares txid rates t (Run.after (attempt lookup number confidence) t) := by
  unfold Tracking.attempt
  split
  · rw [Run.after_discard]
    exact credit regular other
  · exact refl regular

/-- A report on an open sighting. -/
theorem react {s : Sighting} (found : t.sightings[number]? = some s)
    (isOpen : s.phase.isOpen = true) (confidence : Confidence) (height : Option Int) :
    Spares txid rates t (Run.after (react lookup number confidence height) t) := by
  obtain ⟨record, alike⟩ := react_eq lookup found confidence height
  have reported := (refl regular).reported other found isOpen confidence height
  rw [alike.after]
  split
  · rename_i ended
    have given := (reported.logged record).released other fun s' found' => by
      rw [phase_of_phased found', ended]
      rfl
    exact given.trans (attempt given.regular (given.not_mem other) confidence)
  · exact reported.trans (attempt reported.regular (reported.not_mem other) confidence)

end Spares

/-! ## Reports on other transactions -/

/-- The open sighting of an output of another transaction is not of this one. -/
theorem not_mem_of_open? {output : Outpoint} (other : output.txid ≠ txid) {number : Nat}
    (known : t.open? output = some number) : number ∉ t.numbersOf txid := by
  obtain ⟨s, found, -, same⟩ := open?_found known
  intro own
  obtain ⟨s', found', here⟩ := mem_numbersOf.mp own
  rw [found] at found'
  cases found'
  exact other (by rw [← same]; exact here)

theorem sparing_confidenceChanged {output : Outpoint} (other : output.txid ≠ txid)
    (confidence : Confidence) (height : Option Int) :
    Sparing txid (confidenceChanged lookup output confidence height) := by
  intro rates t regular silent
  cases known : t.open? output with
  | none =>
    rw [(confidenceChanged_none lookup known confidence height).after]
    exact .refl regular
  | some number =>
    rw [(confidenceChanged_some lookup known confidence height).after]
    obtain ⟨s, found, isOpen, -⟩ := open?_found known
    exact .react regular (not_mem_of_open? other known) found isOpen confidence height

theorem sparing_announce {told : String} (other : told ≠ txid) (confidence : Confidence)
    (height : Option Int) : Sparing txid (discard (announce lookup told confidence height)) := by
  intro rates t regular silent
  rw [(announce_eq lookup regular.wired told confidence height).after]
  refine Sparing.forM (fun sub inside => ?_) regular silent
  refine sparing_confidenceChanged ?_ confidence height
  rw [beq_iff_eq.mp (List.mem_filter.mp inside).2]
  exact other

/-! ## Outputs of other transactions -/

theorem sparing_outputReceived {output : Output} (other : output.outpoint.txid ≠ txid) :
    Sparing txid (outputReceived lookup output) := by
  intro rates t regular silent
  cases watched : t.feed.isWatched output.address with
  | false =>
    rw [(outputReceived_none lookup (.inr watched)).after]
    exact .refl regular
  | true =>
    cases new : t.isProcessed output.outpoint with
    | true =>
      rw [(outputReceived_none lookup (.inl new)).after]
      exact .refl regular
    | false =>
      cases known : t.open? output.outpoint with
      | some number =>
        rw [(outputReceived_known lookup new watched known).after]
        obtain ⟨s, found, isOpen, -⟩ := open?_found known
        exact .react regular (not_mem_of_open? other known) found isOpen _ _
      | none =>
        obtain ⟨events, quiet, alike⟩ := observe_silent lookup silent output
        rw [(outputReceived_unknown lookup new watched known).after, alike.after]
        have opened := (Spares.opened regular other new watched known).noted quiet
        refine opened.trans (.attempt opened.regular ?_ output.confidence)
        refine opened.not_mem fun own => ?_
        obtain ⟨s, found, -⟩ := mem_numbersOf.mp own
        exact absurd (List.getElem?_eq_some_iff.mp found).1 (lt_irrefl _)

theorem sparing_receive {outputs : List Output}
    (others : ∀ output ∈ outputs, output.outpoint.txid ≠ txid) :
    Sparing txid (receive lookup outputs) := by
  intro rates t regular silent
  unfold receive Feed.deliver
  rw [Run.after_bind]
  simp only [Run.outcome_get, Run.after_get]
  split
  · refine Sparing.seq (.forM fun delivery inside => ?_) (sparing_pure outputs) regular silent
    obtain ⟨output, known, among⟩ := List.mem_flatMap.mp inside
    obtain ⟨receiver, -, rfl⟩ := List.mem_map.mp among
    cases receiver with
    | received => exact sparing_outputReceived (others output known)
    | confidence => exact sparing_pure ()
  · exact .refl regular

end Tracking

end Paywatch
