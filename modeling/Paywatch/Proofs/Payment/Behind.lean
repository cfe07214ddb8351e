import Paywatch.Proofs.Payment.Regular
import Paywatch.Proofs.Payment.SameFeed
import Paywatch.Proofs.Rates.List

/-!
# A tracker that lags behind

Two trackers see the same operations, but one of them learns of some rates later.
What the other one has credited may then still wait for its credit in the one that
lags behind, at the block and the rate of that credit.  In all else they agree.
-/

namespace Paywatch

namespace Tracking

variable {early late : RateList} {p d : Tracking RateList}

/-- The second tracker has credited what the first one has, or will do so when it knows the rate. -/
structure Behind (early late : RateList) (p d : Tracking RateList) : Prop where
  left : p.Regular early
  right : d.Regular late
  rates : early.Includes late
  feeds : p.SameFeed d
  outputs : ∀ number : Nat,
    d.sightings[number]?.map (·.output) = p.sightings[number]?.map (·.output)
  same : ∀ (number : Nat) (s s' : Sighting), p.sightings[number]? = some s →
    d.sightings[number]? = some s' → s' = s ∨ s.phase = .credited
  fewer : ∀ c ∈ d.credits, c ∈ p.credits
  ahead : ∀ c ∈ p.credits, c ∈ d.credits ∨ ∃ s, d.sightings[c.number]? = some s ∧
    s.phase = .confirmed (some c.height) ∧ early.rateAt c.height = .ok c.rate

namespace Behind

/-! ## What follows -/

theorem found_left (behind : Behind early late p d) {number : Nat} {s' : Sighting}
    (found' : d.sightings[number]? = some s') :
    ∃ s, p.sightings[number]? = some s ∧ s'.output = s.output := by
  have outputs := behind.outputs number
  rw [found', Option.map_some] at outputs
  obtain ⟨s, found, same⟩ := Option.map_eq_some_iff.mp outputs.symm
  exact ⟨s, found, same.symm⟩

theorem found_right (behind : Behind early late p d) {number : Nat} {s : Sighting}
    (found : p.sightings[number]? = some s) :
    ∃ s', d.sightings[number]? = some s' ∧ s'.output = s.output := by
  have outputs := behind.outputs number
  rw [found, Option.map_some] at outputs
  exact Option.map_eq_some_iff.mp outputs

/-- A sighting that is not credited is the same in both trackers. -/
theorem found_same (behind : Behind early late p d) {number : Nat} {s : Sighting}
    (found : p.sightings[number]? = some s) (uncredited : s.phase ≠ .credited) :
    d.sightings[number]? = some s := by
  obtain ⟨s', found', -⟩ := behind.found_right found
  rcases behind.same number s s' found found' with rfl | credited
  · exact found'
  · exact absurd credited uncredited

theorem length_eq (behind : Behind early late p d) : d.sightings.length = p.sightings.length :=
  length_of_outputs behind.outputs

theorem processed (behind : Behind early late p d) {output : Outpoint}
    (processed : d.isProcessed output = true) : p.isProcessed output = true := by
  obtain ⟨c, made, rfl⟩ := behind.right.credit_of_processed processed
  exact behind.left.processed_of_credit (behind.fewer c made)

/-- What only the first tracker has credited waits for its credit in the second one. -/
theorem waiting (behind : Behind early late p d) {number : Nat} {s s' : Sighting}
    (found : p.sightings[number]? = some s) (credited : s.phase = .credited)
    (found' : d.sightings[number]? = some s') :
    s'.phase = .credited ∨ ∃ c ∈ p.credits, c.number = number ∧
      s'.phase = .confirmed (some c.height) ∧ early.rateAt c.height = .ok c.rate := by
  obtain ⟨c, made, rfl⟩ := behind.left.settled.credited number s found credited
  rcases behind.ahead c made with made' | ⟨s'', found'', block, rated⟩
  · obtain ⟨s'', found'', -, credited''⟩ := behind.right.settled.credit c made'
    rw [found'] at found''
    cases found''
    exact .inl credited''
  · rw [found'] at found''
    cases found''
    exact .inr ⟨c, made, rfl, block, rated⟩

/-! ## What either tracker does alone -/

theorem noted_left (behind : Behind early late p d) {events : List TrackingEvent}
    (quiet : History.Quiet events) : Behind early late (p.noted events) d where
  left := behind.left.noted quiet
  right := behind.right
  rates := behind.rates
  feeds := behind.feeds.of_same rfl rfl rfl rfl rfl
  outputs := behind.outputs
  same := behind.same
  fewer := by rw [credits_noted p quiet]; exact behind.fewer
  ahead := by rw [credits_noted p quiet]; exact behind.ahead

theorem noted_right (behind : Behind early late p d) {events : List TrackingEvent}
    (quiet : History.Quiet events) : Behind early late p (d.noted events) where
  left := behind.left
  right := behind.right.noted quiet
  rates := behind.rates
  feeds := behind.feeds.of_same rfl rfl rfl rfl rfl
  outputs := behind.outputs
  same := behind.same
  fewer := by rw [credits_noted d quiet]; exact behind.fewer
  ahead := by rw [credits_noted d quiet]; exact behind.ahead

theorem logged (behind : Behind early late p d) (record record' : LogRecord) :
    Behind early late (p.noted [.logged record]) (d.noted [.logged record']) :=
  (behind.noted_left (History.quiet_singleton rfl)).noted_right (History.quiet_singleton rfl)

theorem released_left (behind : Behind early late p d) {number : Nat} {s : Sighting}
    (found : p.sightings[number]? = some s) (credited : s.phase = .credited) :
    Behind early late (Run.after (release number) p) d := by
  have closed : (Run.after (release number) p).Regular early := by
    refine behind.left.released fun s' found' => ?_
    rw [found] at found'
    cases found'
    rw [credited]
    rfl
  have processed := behind.left.orderly.processed number s found credited
  refine ⟨closed, behind.right, behind.rates,
    behind.feeds.release_left behind.left.wired found processed, ?_, ?_, ?_, ?_⟩
  · intro m
    rw [release_outputs]
    exact behind.outputs m
  · intro m s₁ s₁' found₁ found₁'
    rw [release_getElem?] at found₁
    obtain ⟨s₂, found₂, rfl⟩ := Option.map_eq_some_iff.mp found₁
    split
    · rename_i here
      rw [← here, found] at found₂
      cases found₂
      exact .inr credited
    · exact behind.same m s₂ s₁' found₂ found₁'
  · rw [credits_release]
    exact behind.fewer
  · rw [credits_release]
    exact behind.ahead

theorem released_right (behind : Behind early late p d) {number : Nat} {s s' : Sighting}
    (found : p.sightings[number]? = some s) (credited : s.phase = .credited)
    (found' : d.sightings[number]? = some s') (closed : s'.phase.isOpen = false) :
    Behind early late p (Run.after (release number) d) := by
  have closed' : (Run.after (release number) d).Regular late := by
    refine behind.right.released fun s'' found'' => ?_
    rw [found'] at found''
    cases found''
    exact closed
  have processed : p.isProcessed s'.outpoint = true := by
    obtain ⟨s₀, found₀, output⟩ := behind.found_left found'
    rw [found] at found₀
    cases found₀
    rw [Sighting.outpoint, output]
    exact behind.left.orderly.processed number s found credited
  refine ⟨behind.left, closed', behind.rates,
    behind.feeds.release_right behind.right.wired found' processed, ?_, ?_, ?_, ?_⟩
  · intro m
    rw [release_outputs]
    exact behind.outputs m
  · intro m s₁ s₁' found₁ found₁'
    rw [release_getElem?] at found₁'
    obtain ⟨s₂', found₂', rfl⟩ := Option.map_eq_some_iff.mp found₁'
    split
    · rename_i here
      rw [← here, found] at found₁
      cases found₁
      exact .inr credited
    · exact behind.same m s₁ s₂' found₁ found₂'
  · rw [credits_release]
    exact behind.fewer
  · intro c made
    rw [credits_release]
    rcases behind.ahead c made with made' | ⟨s₁, found₁, block, rated⟩
    · exact .inl made'
    · rw [release_getElem?, found₁]
      refine .inr ⟨_, rfl, ?_, rated⟩
      split <;> exact block

/-- The first tracker credits a sighting. -/
theorem credited_left (behind : Behind early late p d) {c : Credit} {s : Sighting} {total : Decimal}
    (output : c.output = s.output) (due : p.Due c.number s c.height)
    (told : p.journal.getLast? = some (.answered c.number c.height (some c.rate)))
    (rated : early.rateAt c.height = .ok c.rate)
    (converted : convertToUsd c.output.satoshi c.rate = .ok c.usd)
    (nonneg : c.usd.isNegative = .ok false) (added : p.ledger.total.add c.usd = .ok total) :
    Behind early late (p.crediting c.number c.output c.height c.rate c.usd total) d := by
  have credits := credits_crediting p c.number c.output c.height c.rate c.usd total
  have found' := behind.found_same due.found (by rw [due.block]; exact fun same => by cases same)
  refine ⟨behind.left.credited output due told converted nonneg added, behind.right,
    behind.rates, ?_, ?_, ?_, ?_, ?_⟩
  · refine behind.feeds.of_more (fun other processed => ?_) rfl rfl
    exact (entering_isProcessed p c.output.outpoint other total).trans (by rw [processed]; rfl)
  · intro m
    rw [crediting, phased_outputs]
    exact behind.outputs m
  · intro m s₁ s₁' found₁ found₁'
    rw [crediting, phased_getElem?] at found₁
    obtain ⟨s₂, found₂, rfl⟩ := Option.map_eq_some_iff.mp found₁
    split
    · exact .inr rfl
    · exact behind.same m s₂ s₁' found₂ found₁'
  · intro c' made
    rw [credits]
    exact List.mem_append_left _ (behind.fewer c' made)
  · intro c' made
    rw [credits] at made
    rcases List.mem_append.mp made with old | new
    · exact behind.ahead c' old
    · rw [List.mem_singleton.mp new]
      exact .inr ⟨s, found', due.block, rated⟩

/-- The second tracker makes up for a credit. -/
theorem credited_right (behind : Behind early late p d) {c : Credit} {s : Sighting}
    {total : Decimal} (made : c ∈ p.credits) (output : c.output = s.output)
    (due : d.Due c.number s c.height)
    (told : d.journal.getLast? = some (.answered c.number c.height (some c.rate)))
    (converted : convertToUsd c.output.satoshi c.rate = .ok c.usd)
    (nonneg : c.usd.isNegative = .ok false) (added : d.ledger.total.add c.usd = .ok total) :
    Behind early late p (d.crediting c.number c.output c.height c.rate c.usd total) := by
  have credits := credits_crediting d c.number c.output c.height c.rate c.usd total
  obtain ⟨s₀, found, -, credited⟩ := behind.left.settled.credit c made
  refine ⟨behind.left, behind.right.credited output due told converted nonneg added,
    behind.rates, ?_, ?_, ?_, ?_, ?_⟩
  · exact behind.feeds.of_same rfl rfl rfl rfl rfl
  · intro m
    rw [crediting, phased_outputs]
    exact behind.outputs m
  · intro m s₁ s₁' found₁ found₁'
    rw [crediting, phased_getElem?] at found₁'
    obtain ⟨s₂', found₂', rfl⟩ := Option.map_eq_some_iff.mp found₁'
    split
    · rename_i here
      rw [← here, found] at found₁
      cases found₁
      exact .inr credited
    · exact behind.same m s₁ s₂' found₁ found₂'
  · intro c' made'
    rw [credits] at made'
    rcases List.mem_append.mp made' with old | new
    · exact behind.fewer c' old
    · rw [List.mem_singleton.mp new]
      exact made
  · intro c' made'
    rw [credits]
    rcases behind.ahead c' made' with old | ⟨s₁, found₁, block, rated⟩
    · exact .inl (List.mem_append_left _ old)
    · by_cases here : c.number = c'.number
      · rw [← behind.left.credit_unique made made' here]
        exact .inl (List.mem_append_right _ (.head _))
      · refine .inr ⟨s₁, ?_, block, rated⟩
        rw [crediting, phased_getElem?, noted_sightings, entering_sightings, found₁,
          Option.map_some, if_neg here]

/-! ## What both trackers do -/

/-- A report on a sighting that is open in both trackers. -/
theorem reported (behind : Behind early late p d) {number : Nat} {s : Sighting}
    (found : p.sightings[number]? = some s) (isOpen : s.phase.isOpen = true)
    (confidence : Confidence) (height : Option Int) :
    Behind early late ((p.noted [.reported number confidence height]).phased number
        (s.phase.advance confidence height))
      ((d.noted [.reported number confidence height]).phased number
        (s.phase.advance confidence height)) := by
  have uncredited := Phase.ne_credited isOpen
  have found' := behind.found_same found uncredited
  have quiet : History.Quiet [.reported number confidence height] := History.quiet_singleton rfl
  have left := behind.left.reported found isOpen confidence height
  have right := behind.right.reported found' isOpen confidence height
  have leftCredits := credits_noted p quiet
  have rightCredits := credits_noted d quiet
  refine ⟨left, right, behind.rates, behind.feeds.of_same rfl rfl rfl rfl rfl, ?_, ?_, ?_, ?_⟩
  · intro m
    rw [phased_outputs, phased_outputs]
    exact behind.outputs m
  · intro m s₁ s₁' found₁ found₁'
    rw [phased_getElem?, noted_sightings] at found₁ found₁'
    obtain ⟨s₂, found₂, rfl⟩ := Option.map_eq_some_iff.mp found₁
    obtain ⟨s₂', found₂', rfl⟩ := Option.map_eq_some_iff.mp found₁'
    split
    · rename_i here
      rw [← here, found] at found₂
      rw [← here, found'] at found₂'
      cases found₂
      cases found₂'
      exact .inl rfl
    · exact behind.same m s₂ s₂' found₂ found₂'
  · intro c made
    exact leftCredits.symm ▸ behind.fewer c (rightCredits ▸ made)
  · intro c made
    have old : c ∈ p.credits := leftCredits ▸ made
    rcases behind.ahead c old with made' | ⟨s₁, found₁, block, rated⟩
    · exact .inl (rightCredits.symm ▸ made')
    · refine .inr ⟨s₁, ?_, block, rated⟩
      have elsewhere : number ≠ c.number := by
        rintro rfl
        obtain ⟨s₀, found₀, -, credited⟩ := behind.left.settled.credit c old
        rw [found] at found₀
        cases found₀
        exact uncredited credited
      rw [phased_getElem?, noted_sightings, found₁, Option.map_some, if_neg elsewhere]

/-- The subscription of a sighting that both trackers have discarded is given up. -/
theorem released (behind : Behind early late p d) {number : Nat} {s : Sighting}
    (found : p.sightings[number]? = some s) (discarded : s.phase = .discarded) :
    Behind early late (Run.after (release number) p) (Run.after (release number) d) := by
  have found' := behind.found_same found (by rw [discarded]; exact fun same => by cases same)
  have closed {t : Tracking RateList} (here : t.sightings[number]? = some s) (s' : Sighting)
      (found : t.sightings[number]? = some s') : s'.phase.isOpen = false := by
    rw [here] at found
    cases found
    rw [discarded]
    rfl
  refine ⟨behind.left.released (closed found), behind.right.released (closed found'),
    behind.rates, behind.feeds.release_both (found'.trans found.symm), ?_, ?_, ?_, ?_⟩
  · intro m
    rw [release_outputs, release_outputs]
    exact behind.outputs m
  · intro m s₁ s₁' found₁ found₁'
    rw [release_getElem?] at found₁ found₁'
    obtain ⟨s₂, found₂, rfl⟩ := Option.map_eq_some_iff.mp found₁
    obtain ⟨s₂', found₂', rfl⟩ := Option.map_eq_some_iff.mp found₁'
    rcases behind.same m s₂ s₂' found₂ found₂' with rfl | credited
    · exact .inl rfl
    · refine .inr ?_
      split <;> exact credited
  · rw [credits_release, credits_release]
    exact behind.fewer
  · intro c made
    rw [credits_release] at made ⊢
    rcases behind.ahead c made with made' | ⟨s₁, found₁, block, rated⟩
    · exact .inl made'
    · rw [release_getElem?, found₁]
      refine .inr ⟨_, rfl, ?_, rated⟩
      split <;> exact block

/-- Both trackers keep the same subscription with a sighting. -/
theorem held (behind : Behind early late p d) {number id : Nat} {s : Sighting}
    (found : p.sightings[number]? = some s) (owns : p.Owns s.outpoint id)
    (owns' : d.Owns s.outpoint id) :
    Behind early late (p.holding number (some id)) (d.holding number (some id)) := by
  obtain ⟨s', found', output⟩ := behind.found_right found
  rw [Sighting.outpoint, ← output] at owns'
  refine ⟨behind.left.held found owns, behind.right.held found' owns', behind.rates,
    behind.feeds.of_same rfl rfl rfl rfl rfl, ?_, ?_, behind.fewer, ?_⟩
  · intro m
    rw [holding_outputs, holding_outputs]
    exact behind.outputs m
  · intro m s₁ s₁' found₁ found₁'
    rw [holding_getElem?] at found₁ found₁'
    obtain ⟨s₂, found₂, rfl⟩ := Option.map_eq_some_iff.mp found₁
    obtain ⟨s₂', found₂', rfl⟩ := Option.map_eq_some_iff.mp found₁'
    rcases behind.same m s₂ s₂' found₂ found₂' with rfl | credited
    · exact .inl rfl
    · refine .inr ?_
      split <;> exact credited
  · intro c made
    rcases behind.ahead c made with made' | ⟨s₁, found₁, block, rated⟩
    · exact .inl made'
    · rw [holding_getElem?, found₁]
      refine .inr ⟨_, rfl, ?_, rated⟩
      split <;> exact block

/-- Both trackers begin to follow an output. -/
theorem sighted (behind : Behind early late p d) {output : Output}
    (new : p.isProcessed output.outpoint = false) (new' : d.isProcessed output.outpoint = false)
    (watched : p.feed.isWatched output.address = true)
    (unknown : p.open? output.outpoint = none) (unknown' : d.open? output.outpoint = none) :
    Behind early late (p.sighting output) (d.sighting output) := by
  have watched' : d.feed.isWatched output.address = true := by
    rw [behind.feeds.isWatched]
    exact watched
  refine ⟨behind.left.sighted new watched unknown, behind.right.sighted new' watched' unknown',
    behind.rates, behind.feeds.sighting output, ?_, ?_, ?_, ?_⟩
  · intro m
    rw [sighting_sightings, sighting_sightings, List.getElem?_append, List.getElem?_append,
      behind.length_eq]
    split
    · exact behind.outputs m
    · rfl
  · intro m s s' found found'
    have length := behind.length_eq
    rcases sighting_found found with old | ⟨last, rfl⟩
    · obtain ⟨inside, -⟩ := List.getElem?_eq_some_iff.mp old
      rcases sighting_found found' with old' | ⟨last', -⟩
      · exact behind.same m s s' old old'
      · omega
    · rcases sighting_found found' with old' | ⟨-, rfl⟩
      · obtain ⟨inside', -⟩ := List.getElem?_eq_some_iff.mp old'
        omega
      · exact .inl rfl
  · rw [credits_sighting, credits_sighting]
    exact behind.fewer
  · intro c made
    rw [credits_sighting] at made ⊢
    rcases behind.ahead c made with made' | ⟨s, found, block, rated⟩
    · exact .inl made'
    · exact .inr ⟨s, d.sighting_getElem? output found, block, rated⟩

theorem watched (behind : Behind early late p d) (new : Watched) :
    Behind early late { p with feed := (p.feed.watch new).1 }
      { d with feed := (d.feed.watch new).1 } :=
  ⟨behind.left.watched new, behind.right.watched new, behind.rates, behind.feeds.watch new,
    behind.outputs, behind.same, behind.fewer, behind.ahead⟩

/-- An output that the first tracker has not credited is open for both, or for neither. -/
theorem open?_eq (behind : Behind early late p d) {output : Outpoint}
    (new : p.isProcessed output = false) : d.open? output = p.open? output := by
  have alike : d.sightings.map (fun s => s.phase.isOpen && s.outpoint == output) =
      p.sightings.map fun s => s.phase.isOpen && s.outpoint == output := by
    apply List.ext_getElem?
    intro m
    rw [List.getElem?_map, List.getElem?_map]
    cases found : p.sightings[m]? with
    | none =>
      have outputs := behind.outputs m
      rw [found, Option.map_none, Option.map_eq_none_iff] at outputs
      rw [outputs]
    | some s =>
      obtain ⟨s', found', same⟩ := behind.found_right found
      rw [found', Option.map_some, Option.map_some]
      rcases behind.same m s s' found found' with rfl | credited
      · rfl
      · have processed := behind.left.orderly.processed m s found credited
        have other : s.outpoint ≠ output := by
          rintro rfl
          rw [new] at processed
          cases processed
        have other' : s'.outpoint ≠ output := by
          rw [Sighting.outpoint, same]
          exact other
        rw [beq_false_of_ne other, beq_false_of_ne other', Bool.and_false, Bool.and_false]
  have positions := congrArg (List.findIdx? id) alike
  rw [List.findIdx?_map, List.findIdx?_map] at positions
  exact positions

/-- An output that only the first tracker has credited is open for the second one. -/
theorem waiting_of_processed (behind : Behind early late p d) {output : Outpoint}
    (processed : p.isProcessed output = true) (new : d.isProcessed output = false) :
    d.open? output ≠ none := by
  obtain ⟨c, made, rfl⟩ := behind.left.credit_of_processed processed
  intro unknown
  rcases behind.ahead c made with made' | ⟨s, found, block, -⟩
  · rw [behind.right.processed_of_credit made'] at new
    cases new
  · obtain ⟨s₀, found₀, output, -⟩ := behind.left.settled.credit c made
    obtain ⟨s₀', found₀', same⟩ := behind.found_left found
    rw [found₀] at found₀'
    cases found₀'
    have closed := List.findIdx?_eq_none_iff.mp unknown s (List.mem_of_getElem? found)
    rw [block, Sighting.outpoint, same, output, beq_self_eq_true] at closed
    cases closed

end Behind

end Tracking

end Paywatch
