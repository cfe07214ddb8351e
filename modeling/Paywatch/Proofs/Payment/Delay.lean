import Paywatch.Proofs.Payment.Lockstep

/-!
# Rates that come late

When a rate becomes known makes no difference to what is credited in the end.  A
tracker that learns of its rates in the course of time stays behind the one that
has them all from the start, and a retry at the end makes up for the rest.
-/

namespace Paywatch

namespace Tracking

variable {rates : RateList} {t u : Tracking RateList}

/-! ## What a try leaves -/

/-- A try to credit changes no phase but that of the sighting it credits. -/
theorem Looks.phase {number : Nat} {result : Except Failure Bool}
    (looks : Looks rates t number result u) {m : Nat} {s' : Sighting}
    (found' : u.sightings[m]? = some s') :
    s'.phase = .credited ∨ ∃ s, t.sightings[m]? = some s ∧ s.phase = s'.phase := by
  cases looks with
  | quiet | refused => exact .inr ⟨s', found', rfl⟩
  | credited s c total =>
    rw [noted_sightings, closing_getElem?] at found'
    obtain ⟨s₀, found, rfl⟩ := Option.map_eq_some_iff.mp found'
    split
    · exact .inl rfl
    · exact .inr ⟨s₀, found, rfl⟩

/-- A try that does not fail credits what is due if there is a rate. -/
theorem Looks.made {number : Nat} {made : Bool} (looks : Looks rates t number (.ok made) u)
    {s s' : Sighting} {height : Int} {rate : Decimal} (due : t.Due number s height)
    (rated : rates.rateAt height = .ok rate) (found' : u.sightings[number]? = some s') :
    s'.phase = .credited := by
  cases looks with
  | quiet events quiet unrated => exact absurd rated (unrated s height rate due)
  | credited s₀ c total record here =>
    rw [noted_sightings, closing_getElem?] at found'
    obtain ⟨s₁, found, rfl⟩ := Option.map_eq_some_iff.mp found'
    rw [if_pos here]

/-- What still waits after it was tried has no rate. -/
theorem unrated_of_tried (regular : t.Regular rates) {numbers : List Nat}
    (succeeds : Run.Succeeds (numbers.forM fun number => discard (credit lookup number)) t)
    {number : Nat} {s : Sighting} {height : Int}
    (found : (Run.after (numbers.forM fun number => discard (credit lookup number))
      t).sightings[number]? = some s) (block : s.phase = .confirmed (some height)) :
    (∃ s₀, t.sightings[number]? = some s₀ ∧ s₀.phase = s.phase) ∧
      (number ∈ numbers → ∀ rate, rates.rateAt height ≠ .ok rate) := by
  induction numbers generalizing t with
  | nil => exact ⟨⟨s, found, rfl⟩, fun inside => by cases inside⟩
  | cons m numbers ih =>
    obtain ⟨first, rest⟩ := succeeds.of_seq
    change Run.Succeeds (discard (credit lookup m)) t at first
    change (Run.after (discard (credit lookup m) >>= fun _ => numbers.forM _)
      t).sightings[number]? = some s at found
    rw [first.after_seq.2, Run.after_discard] at found
    rw [Run.after_discard] at rest
    obtain ⟨⟨s₁, found₁, same₁⟩, unrated⟩ := ih (regular.credit m) rest found
    have seen := looks regular m
    obtain ⟨s₀, found₀, same₀⟩ : ∃ s₀, t.sightings[number]? = some s₀ ∧ s₀.phase = s₁.phase := by
      rcases seen.phase found₁ with credited | before
      · rw [same₁, block] at credited
        cases credited
      · exact before
    refine ⟨⟨s₀, found₀, same₀.trans same₁⟩, fun inside rate rated => ?_⟩
    rcases List.mem_cons.mp inside with rfl | inside
    · -- the try of this number did not fail, so that it would have credited the sighting
      obtain ⟨made, ok⟩ := first.of_discard
      have block₀ := same₀.trans (same₁.trans block)
      have new : t.isProcessed s₀.outpoint = false := by
        apply regular.unprocessed found₀
        rw [block₀]
        rfl
      rw [ok] at seen
      have credited := seen.made ⟨found₀, block₀, new⟩ rated found₁
      rw [same₁, block] at credited
      cases credited
    · exact unrated inside rate rated

/-- What still waits after a retry has no rate. -/
theorem unrated_of_retry (regular : t.Regular rates)
    (succeeds : Run.Succeeds (discard (retry lookup)) t) {number : Nat} {s : Sighting} {height : Int}
    (found : (Run.after (discard (retry lookup)) t).sightings[number]? = some s)
    (block : s.phase = .confirmed (some height)) (rate : Decimal) :
    rates.rateAt height ≠ .ok rate := by
  obtain ⟨events, quiet, alike⟩ := retry_eq lookup t
  have tried := alike.symm.succeeds succeeds
  rw [alike.after] at found
  obtain ⟨⟨s₀, found₀, same⟩, unrated⟩ := unrated_of_tried (regular.noted quiet) tried found block
  apply unrated
  rw [awaitingCredit_eq, List.mem_filter, List.mem_range]
  rw [noted_sightings] at found₀
  refine ⟨(List.getElem?_eq_some_iff.mp found₀).1, ?_⟩
  rw [found₀, Option.any_some, same, block]
  rfl

/-! ## What is made up for in the end -/

/-- A tracker in which nothing waits that has a rate has made the same credits. -/
theorem Behind.credits_perm {p d : Tracking RateList} (behind : Behind rates rates p d)
    (unrated : ∀ (number : Nat) (s : Sighting) (height : Int) (rate : Decimal),
      d.sightings[number]? = some s → s.phase = .confirmed (some height) →
      rates.rateAt height ≠ .ok rate) : p.credits.Perm d.credits := by
  have distinct {t : Tracking RateList} (balanced : t.Balanced) : t.credits.Nodup := by
    have nodup := balanced.nodup
    rw [balanced.processed] at nodup
    exact nodup.of_map _
  apply (List.perm_ext_iff_of_nodup (distinct behind.left.balanced)
    (distinct behind.right.balanced)).mpr
  intro c
  refine ⟨fun made => ?_, behind.fewer c⟩
  rcases behind.ahead c made with made' | ⟨s, found, block, rated⟩
  · exact made'
  · exact absurd rated (unrated c.number s c.height c.rate found block)

/-- Trackers that have made the same credits have the same outputs and the same total. -/
theorem Balanced.total_of_perm {ω : Type} {t u : Tracking ω} (balanced : t.Balanced)
    (balanced' : u.Balanced) (perm : t.credits.Perm u.credits)
    (below : (t.credits.map (·.usd.value)).sum < 10 ^ 26) :
    t.ledger.processed.Perm u.ledger.processed ∧ u.ledger.total = t.ledger.total := by
  have amounts : ((t.credits.map (·.usd)).map Decimal.value).sum < 10 ^ (26 : Int) := by
    rw [List.map_map]
    change (t.credits.map fun c => c.usd.value).sum < _
    exact_mod_cast below
  have reordered : (t.credits.map (·.usd)).Perm (u.credits.map (·.usd)) := perm.map _
  have cents : ∀ usd ∈ t.credits.map (·.usd), Decimal.IsCents usd :=
    fun _ inside => balanced.isCents inside
  have same := Decimal.sumFrom_perm reordered cents amounts
  rw [balanced.summed, balanced'.summed] at same
  rw [balanced.processed, balanced'.processed]
  exact ⟨perm.map _, Except.ok.inj same⟩

/-! ## Rates that become known -/

/-- What happens in the course of time: an operation is performed, or a rate becomes known. -/
inductive Happening where
  | performed (operation : Operation)
  | recorded (height : Int) (rate : Decimal)
  deriving DecidableEq, Repr

namespace Happening

def happen : Happening → Run (Tracking RateList) Unit
  | .performed operation => operation.perform lookup
  | .recorded height rate => modify fun t => { t with outside := t.outside.record height rate }

def known (rates : RateList) : Happening → RateList
  | .performed _ => rates
  | .recorded height rate => rates.record height rate

def operation? : Happening → Option Operation
  | .performed operation => some operation
  | .recorded _ _ => none

end Happening

def ratesOf (happenings : List Happening) : RateList :=
  happenings.foldl Happening.known {}

def performAll (operations : List Operation) (t : Tracking RateList) : Tracking RateList :=
  operations.foldl (fun t operation => Run.after (operation.perform lookup) t) t

/-- A tracker that learns of its rates as they become known, after a last retry. -/
def delayed (manner : FeedManner) (happenings : List Happening) : Tracking RateList :=
  performAll [.retry] (happenings.foldl (fun t happening => Run.after happening.happen t)
    (start manner {}))

/-- A tracker that knows all rates from the start, after the same operations and the last retry. -/
def prompt (manner : FeedManner) (happenings : List Happening) : Tracking RateList :=
  performAll [.retry] (performAll (happenings.filterMap (·.operation?))
    (start manner (ratesOf happenings)))

/-- The amounts that have been converted, each with the rate that was told for it. -/
def conversions (t : Tracking RateList) : List (Int × Decimal) :=
  t.journal.filterMap fun
    | .answered number _ (some rate) =>
      t.sightings[number]?.map fun s => (s.output.satoshi, rate)
    | _ => none

/-! ## Rates that are known in the end -/

/-- A rate that is known in the end was known in the beginning, or has become known. -/
theorem mem_of_rateAt_known {happenings : List Happening} {list : RateList} {height : Int}
    {rate : Decimal} (rated : (happenings.foldl Happening.known list).rateAt height = .ok rate) :
    list.rateAt height = .ok rate ∨ .recorded height rate ∈ happenings := by
  induction happenings generalizing list with
  | nil => exact .inl rated
  | cons happening happenings ih =>
    rcases ih rated with before | later
    · cases happening with
      | performed operation => exact .inl before
      | recorded height' rate' =>
        rcases RateList.rateAt_record.mp before with ⟨rfl, rfl, -⟩ | ⟨-, before⟩
        · exact .inr (.head _)
        · exact .inl before
    · exact .inr (.tail _ later)

theorem mem_of_rateAt {happenings : List Happening} {height : Int} {rate : Decimal}
    (rated : (ratesOf happenings).rateAt height = .ok rate) :
    .recorded height rate ∈ happenings := by
  rcases mem_of_rateAt_known rated with before | later
  · cases before
  · exact later

/-- A height whose rate has become known, or was known before, has a rate in the end. -/
theorem rateAt_known_of_mem {happenings : List Happening} {list : RateList} {height : Int}
    (works : list.failure = none)
    (known : (∃ rate, list.rateAt height = .ok rate) ∨ ∃ rate, .recorded height rate ∈ happenings) :
    ∃ rate, (happenings.foldl Happening.known list).rateAt height = .ok rate := by
  induction happenings generalizing list with
  | nil =>
    rcases known with before | ⟨rate, inside⟩
    · exact before
    · cases inside
  | cons happening happenings ih =>
    cases happening with
    | performed operation =>
      refine ih works (known.imp_right ?_)
      rintro ⟨rate, inside⟩
      rcases List.mem_cons.mp inside with same | later
      · cases same
      · exact ⟨rate, later⟩
    | recorded height' rate' =>
      by_cases here : height = height'
      · exact ih works (.inl ⟨rate', RateList.rateAt_record.mpr (.inl ⟨here, rfl, works⟩)⟩)
      · refine ih works (known.imp ?_ ?_)
        · rintro ⟨rate, before⟩
          exact ⟨rate, RateList.rateAt_record.mpr (.inr ⟨here, before⟩)⟩
        · rintro ⟨rate, inside⟩
          rcases List.mem_cons.mp inside with same | later
          · cases same
            exact absurd rfl here
          · exact ⟨rate, later⟩

theorem rateAt_of_mem {happenings : List Happening}
    (once : ∀ height rate rate', .recorded height rate ∈ happenings →
      .recorded height rate' ∈ happenings → rate' = rate)
    {height : Int} {rate : Decimal} (inside : .recorded height rate ∈ happenings) :
    (ratesOf happenings).rateAt height = .ok rate := by
  obtain ⟨rate', rated⟩ : ∃ rate', (ratesOf happenings).rateAt height = .ok rate' :=
    rateAt_known_of_mem rfl (.inr ⟨rate, inside⟩)
  rw [once height rate rate' inside (mem_of_rateAt rated)] at rated
  exact rated

/-! ## The two runs -/

/-- The second tracker learns of a rate that the first one has known. -/
theorem Behind.recorded {early late : RateList} {p d : Tracking RateList}
    (behind : Behind early late p d) {height : Int} {rate : Decimal}
    (rated : early.rateAt height = .ok rate) :
    Behind early (late.record height rate) p
      { d with outside := d.outside.record height rate } := by
  rw [behind.right.outside]
  refine ⟨behind.left, behind.right.exchanged _, ⟨?_, ?_⟩,
    behind.feeds.of_same rfl rfl rfl rfl rfl, behind.outputs, behind.same, behind.fewer,
    behind.ahead⟩
  · intro height' rate' recorded
    rcases RateList.rateAt_record.mp recorded with ⟨rfl, rfl, -⟩ | ⟨-, before⟩
    · exact rated
    · exact behind.rates.known height' rate' before
  · exact behind.rates.positive

theorem moves_performAll (operations : List Operation) (t : Tracking RateList) :
    Moves t (performAll operations t) := by
  induction operations generalizing t with
  | nil => exact .refl
  | cons operation operations ih =>
    exact ((operation.spanning_perform spanning_lookup fun _ _ => trivial).moves t).trans (ih _)

/-- The tracker that learns of its rates in the course of time stays behind the other one. -/
theorem Behind.happened {early late : RateList} {p d : Tracking RateList}
    (behind : Behind early late p d) {happenings : List Happening}
    (rated : ∀ height rate, .recorded height rate ∈ happenings → early.rateAt height = .ok rate)
    (sound : (performAll (happenings.filterMap (·.operation?)) p).Sound) :
    Behind early (happenings.foldl Happening.known late)
      (performAll (happenings.filterMap (·.operation?)) p)
      (happenings.foldl (fun t happening => Run.after happening.happen t) d) := by
  induction happenings generalizing late p d with
  | nil => exact behind
  | cons happening happenings ih =>
    have rated' : ∀ height rate, .recorded height rate ∈ happenings →
        early.rateAt height = .ok rate :=
      fun height rate inside => rated height rate (.tail _ inside)
    cases happening with
    | performed operation =>
      have joint := operation.tied_perform behind
        (sound.before (moves_performAll (happenings.filterMap (·.operation?)) _))
      exact ih joint.behind rated' sound
    | recorded height rate => exact ih (behind.recorded (rated height rate (.head _))) rated' sound

theorem finite_of_pos {rate : Decimal} (finite : rate.isFinite = true) (positive : 0 < rate.value) :
    ∃ c e, rate = .finite false c e := by
  cases rate with
  | finite negative c e =>
    cases negative with
    | false => exact ⟨c, e, rfl⟩
    | true =>
      rw [Decimal.value_finite_true] at positive
      exact absurd (Decimal.scaled_nonneg c e) (by linarith)
  | infinite | nan => cases finite

theorem behind_start (manner : FeedManner) {early : RateList}
    (positive : ∀ height rate, early.rateAt height = .ok rate → ∃ c e, rate = .finite false c e) :
    Behind early {} (start manner early) (start manner {}) where
  left := regular_start _ _
  right := regular_start _ _
  rates := ⟨fun _ _ rated => (by cases rated), positive⟩
  feeds := ⟨rfl, rfl, rfl, rfl, rfl⟩
  outputs := fun _ => rfl
  same := fun _ _ _ found => by cases found
  fewer := fun _ made => by cases made
  ahead := fun _ made => by cases made

/--
When the rates become known makes no difference.  Once the open payments have been
tried again, the ledger holds the same outputs and the same total as if every rate
had been known from the start, so long as no conversion and no sum of credits is
too large to be exact to the cent.
-/
theorem delayed_credits_same (manner : FeedManner) (happenings : List Happening)
    (once : ∀ height rate rate', .recorded height rate ∈ happenings →
      .recorded height rate' ∈ happenings → rate' = rate)
    (positive : ∀ height rate, .recorded height rate ∈ happenings →
      rate.isFinite = true ∧ 0 < rate.value)
    (amounts : ∀ s ∈ (prompt manner happenings).sightings, 0 ≤ s.output.satoshi)
    (conversions : ∀ c ∈ (prompt manner happenings).conversions,
      ∃ usd, convertToUsd c.1 c.2 = .ok usd ∧ usd.value < 10 ^ 26)
    (below : ((prompt manner happenings).credits.map (·.usd.value)).sum < 10 ^ 26) :
    (prompt manner happenings).ledger.processed.Perm (delayed manner happenings).ledger.processed ∧
      (delayed manner happenings).ledger.total = (prompt manner happenings).ledger.total := by
  have sound : (prompt manner happenings).Sound := by
    refine ⟨amounts, fun number height rate s told found => ?_⟩
    have made : (s.output.satoshi, rate) ∈ (prompt manner happenings).conversions := by
      refine List.mem_filterMap.mpr ⟨_, told, ?_⟩
      exact congrArg (Option.map fun s => (s.output.satoshi, rate)) found
    obtain ⟨usd, converted, -⟩ := conversions _ made
    exact ⟨usd, converted⟩
  have begun : Behind (ratesOf happenings) {} (start manner (ratesOf happenings))
      (start manner {}) := by
    refine behind_start manner fun height rate rated => ?_
    obtain ⟨finite, above⟩ := positive height rate (mem_of_rateAt rated)
    exact finite_of_pos finite above
  have behind := begun.happened (fun _ _ => rateAt_of_mem once)
    (sound.before (moves_performAll [.retry] _))
  have retried := tied_retry behind sound
  have perm : (prompt manner happenings).credits.Perm (delayed manner happenings).credits :=
    retried.behind.credits_perm fun number s height rate found block =>
      unrated_of_retry behind.right retried.right found block rate
  exact retried.behind.left.balanced.total_of_perm retried.behind.right.balanced perm below

/-- A payment that is reported in two blocks and as dead before the rate of the first block. -/
def lateRates : List Happening :=
  let payment (confidence : Confidence) (height : Option Int) : Output :=
    ⟨⟨"tx", 0⟩, "address", 25000000, confidence, height⟩
  [.performed (.addAddress "address" 0),
    .performed (.receive [payment .pending none]),
    .performed (.announce "tx" .building (some 7)),
    .recorded 9 (.finite false 4000000 (-2)),
    .performed (.announce "tx" .building (some 9)),
    .performed (.receive [payment .building (some 9)]),
    .performed (.announce "tx" .dead none),
    .performed .retry,
    .recorded 7 (.finite false 3000055 (-2))]

theorem delayed_credits_same_lateRates :
    (prompt {} lateRates).ledger.total = .finite false 750013 (-2) ∧
      (prompt {} lateRates).ledger.processed.Perm (delayed {} lateRates).ledger.processed ∧
      (delayed {} lateRates).ledger.total = (prompt {} lateRates).ledger.total := by
  have recorded : ∀ height rate, .recorded height rate ∈ lateRates →
      height = 9 ∧ rate = .finite false 4000000 (-2) ∨
        height = 7 ∧ rate = .finite false 3000055 (-2) := by
    intro height rate inside
    simpa [lateRates] using inside
  have positive (c : Nat) (nonzero : c ≠ 0) :
      (Decimal.finite false c (-2)).isFinite = true ∧ 0 < (Decimal.finite false c (-2)).value :=
    ⟨rfl, Decimal.scaled_pos nonzero (-2)⟩
  have amounts : (prompt {} lateRates).sightings.map (·.output.satoshi) = [25000000] := by
    decide +kernel
  have conversions : (prompt {} lateRates).conversions =
      [(25000000, .finite false 3000055 (-2))] := by
    decide +kernel
  have credits : (prompt {} lateRates).credits.map (·.usd) = [.finite false 750013 (-2)] := by
    decide +kernel
  have small : (Decimal.finite false 750013 (-2)).value < 10 ^ 26 := by
    rw [Decimal.value_finite_false, Decimal.scaled]
    norm_num
  refine ⟨by decide +kernel, ?_⟩
  apply delayed_credits_same {} lateRates
  · intro height rate rate' inside inside'
    rcases recorded height rate inside with ⟨rfl, rfl⟩ | ⟨rfl, rfl⟩
    · rcases recorded 9 rate' inside' with ⟨-, rfl⟩ | ⟨other, -⟩
      · rfl
      · cases other
    · rcases recorded 7 rate' inside' with ⟨other, -⟩ | ⟨-, rfl⟩
      · cases other
      · rfl
  · intro height rate inside
    rcases recorded height rate inside with ⟨-, rfl⟩ | ⟨-, rfl⟩
    · exact positive 4000000 (by decide)
    · exact positive 3000055 (by decide)
  · intro s inside
    have amount : s.output.satoshi ∈ [25000000] := by
      rw [← amounts]
      exact List.mem_map_of_mem inside
    rw [List.mem_singleton.mp amount]
    decide
  · intro c inside
    rw [conversions, List.mem_singleton] at inside
    subst inside
    exact ⟨.finite false 750013 (-2), by decide +kernel, small⟩
  · have values : (prompt {} lateRates).credits.map (·.usd.value) =
        ((prompt {} lateRates).credits.map (·.usd)).map Decimal.value := by
      rw [List.map_map]
      rfl
    rw [values, credits, List.map_singleton, List.sum_singleton]
    exact small

end Tracking

end Paywatch
