import Paywatch.Proofs.Payment.SameShare
import Paywatch.Proofs.Payment.Spared

/-!
# Functions go in parallel

What is reported of a transaction does the same to its share in a tracker that sees
other transactions as well and in one that sees no others.  Where a function gives a
result in the first tracker, it does so in the second one: the conversions are the
same, and no sum of credits is refused.
-/

namespace Paywatch

namespace Tracking

variable {rates : RateList} {t t' u u' : Tracking RateList} {α β γ δ : Type}
  {txid : String} {number place : Nat}

/-! ## Steps in parallel -/

/-- A step gives a result in the second tracker, and the shares are the same after both steps. -/
structure Parallel (txid : String) (rates : RateList) (x : Run (Tracking RateList) α)
    (t : Tracking RateList) (y : Run (Tracking RateList) β) (u : Tracking RateList) : Prop where
  right : Run.Succeeds y u
  share : SameShare txid rates (Run.after x t) (Run.after y u)

/-- A step that goes in parallel wherever it gives a result in the first tracker. -/
def Paralleled (txid : String) (step : Run (Tracking RateList) α) : Prop :=
  ∀ ⦃rates : RateList⦄ ⦃t u : Tracking RateList⦄, SameShare txid rates t u →
    Run.Succeeds step t → Parallel txid rates step t step u

theorem SameShare.parallel_pure (share : SameShare txid rates t u) (a : α) (b : β) :
    Parallel txid rates (pure a) t (pure b) u :=
  ⟨⟨b, rfl⟩, share⟩

namespace Parallel

theorem of_alike {x x' : Run (Tracking RateList) α} {y y' : Run (Tracking RateList) β}
    (parallel : Parallel txid rates x' t' y' u') (left : Run.Alike x t x' t')
    (right : Run.Alike y u y' u') : Parallel txid rates x t y u := by
  refine ⟨right.succeeds parallel.right, ?_⟩
  rw [left.after, right.after]
  exact parallel.share

theorem seq {x : Run (Tracking RateList) α} {y : Run (Tracking RateList) β}
    {x' : Run (Tracking RateList) γ} {y' : Run (Tracking RateList) δ} {rates' : RateList}
    (first : Parallel txid rates' x t y u) (succeeds : Run.Succeeds x t)
    (rest : Parallel txid rates x' (Run.after x t) y' (Run.after y u)) :
    Parallel txid rates (x >>= fun _ => x') t (y >>= fun _ => y') u := by
  refine ⟨first.right.seq rest.right, ?_⟩
  rw [succeeds.after_seq.2, first.right.after_seq.2]
  exact rest.share

/-- A step that only the first tracker takes. -/
theorem skip {x : Run (Tracking RateList) γ} {x' : Run (Tracking RateList) α}
    {y : Run (Tracking RateList) β} (rest : Parallel txid rates x' (Run.after x t) y u)
    (succeeds : Run.Succeeds x t) : Parallel txid rates (x >>= fun _ => x') t y u := by
  refine ⟨rest.right, ?_⟩
  rw [succeeds.after_seq.2]
  exact rest.share

theorem discard {x : Run (Tracking RateList) α} {y : Run (Tracking RateList) β}
    (parallel : Parallel txid rates x t y u) :
    Parallel txid rates (Functor.discard x) t (Functor.discard y) u := by
  refine ⟨parallel.right.discard, ?_⟩
  rw [Run.after_discard, Run.after_discard]
  exact parallel.share

end Parallel

theorem paralleled_pure (a : α) : Paralleled txid (pure a : Run (Tracking RateList) α) :=
  fun _ _ _ share _ => share.parallel_pure a a

theorem Paralleled.seq {x : Run (Tracking RateList) α} {y : Run (Tracking RateList) β}
    (first : Paralleled txid x) (rest : Paralleled txid y) :
    Paralleled txid (x >>= fun _ => y) := by
  intro rates t u share succeeds
  obtain ⟨before, after⟩ := succeeds.of_seq
  have parallel := first share before
  exact parallel.seq before (rest parallel.share after)

/-- Steps that go in parallel one by one do so one after another. -/
theorem SameShare.forM {f : α → Run (Tracking RateList) PUnit}
    {g : β → Run (Tracking RateList) PUnit} {as : List α} {bs : List β}
    (each : List.Forall₂ (fun a b => ∀ {t u}, SameShare txid rates t u → Run.Succeeds (f a) t →
      Parallel txid rates (f a) t (g b) u) as bs)
    (share : SameShare txid rates t u) (succeeds : Run.Succeeds (as.forM f) t) :
    Parallel txid rates (as.forM f) t (bs.forM g) u := by
  induction each generalizing t u with
  | nil => exact share.parallel_pure PUnit.unit PUnit.unit
  | cons first _ ih =>
    obtain ⟨before, after⟩ := succeeds.of_seq
    have parallel := first share before
    exact parallel.seq before (ih parallel.share after)

theorem Paralleled.forM {f : α → Run (Tracking RateList) PUnit} {as : List α}
    (each : ∀ a ∈ as, Paralleled txid (f a)) : Paralleled txid (as.forM f) :=
  fun _ _ _ share succeeds => share.forM
    (List.forall₂_same.mpr fun a inside _ _ share succeeds => each a inside share succeeds) succeeds

theorem Paralleled.discard {x : Run (Tracking RateList) α} (parallel : Paralleled txid x) :
    Paralleled txid (discard x) :=
  fun _ _ _ share succeeds => (parallel share succeeds.of_discard).discard

/-! ## Credits -/

theorem Looks.numbersOf {result : Except Failure Bool} (looks : Looks rates t number result u) :
    u.numbersOf txid = t.numbersOf txid := by
  cases looks with
  | quiet | refused => rfl
  | credited s c total =>
    refine numbersOf_of_outputs fun m => ?_
    rw [noted_sightings, closing_getElem?]
    exact outputs_of_map (fun s => by split <;> rfl) _

/-- A credit that is due in the same place is made in both trackers. -/
theorem SameShare.closed (share : SameShare txid rates t u) {c c' : Credit} {s s' : Sighting}
    {total total' : Decimal} (here : (t.numbersOf txid)[c'.number]? = some c.number)
    (terms : c'.terms = c.terms) (output : c.output = s.output) (output' : c'.output = s'.output)
    (due : t.Due c.number s c.height) (due' : u.Due c'.number s' c'.height)
    (converted : convertToUsd c.output.satoshi c.rate = .ok c.usd)
    (converted' : convertToUsd c'.output.satoshi c'.rate = .ok c'.usd)
    (nonneg : c.usd.isNegative = .ok false) (nonneg' : c'.usd.isNegative = .ok false)
    (added : t.ledger.total.add c.usd = .ok total)
    (added' : u.ledger.total.add c'.usd = .ok total') :
    SameShare txid rates ((t.quoted c).closing c total) ((u.quoted c').closing c' total') := by
  have quoted : SameShare txid rates (t.quoted c) (u.quoted c') :=
    share.noted (quiet_told _ _ _) (quiet_told _ _ _)
  have credited := quoted.credited here terms
    (quoted.left.credited output ⟨due.found, due.block, due.new⟩ (getLast?_quoted t c) converted
      nonneg added)
    (quoted.right.credited output' ⟨due'.found, due'.block, due'.new⟩ (getLast?_quoted u c')
      converted' nonneg' added')
  refine credited.released ?_ fun s₀ found₀ => ?_
  · rw [crediting, numbersOf_phased]
    exact here
  · have found : (t.quoted c).sightings[c.number]? = some s := due.found
    rw [crediting_found found] at found₀
    cases found₀
    rfl

/-- Sightings in the same place are tried alike. -/
theorem SameShare.credit (share : SameShare txid rates t u)
    (here : (t.numbersOf txid)[place]? = some number)
    (succeeds : Run.Succeeds (credit lookup number) t) :
    Parallel txid rates (credit lookup number) t (credit lookup place) u := by
  obtain ⟨s, s', found, found', alike⟩ := share.sightings place number here
  have due_iff := share.due_iff here found found'
  have seen := looks share.left number
  have seen' := looks share.right place
  suffices both : Run.Succeeds (Tracking.credit lookup place) u ∧ SameShare txid rates
      (Run.after (Tracking.credit lookup number) t) (Run.after (Tracking.credit lookup place) u) from
    ⟨both.1, both.2⟩
  unfold Run.Succeeds at succeeds ⊢
  generalize Run.outcome (Tracking.credit lookup number) t = result at seen succeeds
  generalize Run.after (Tracking.credit lookup number) t = v at seen
  generalize Run.outcome (Tracking.credit lookup place) u = result' at seen'
  generalize Run.after (Tracking.credit lookup place) u = v' at seen'
  cases seen with
  | quiet events quiet unrated =>
    have idle {s₀ : Sighting} {height : Int} {rate : Decimal} (due : u.Due place s₀ height)
        (rated : rates.rateAt height = .ok rate) : False := by
      have same := due.found
      rw [found'] at same
      cases same
      exact unrated s height rate ((due_iff height).mpr due) rated
    cases seen' with
    | quiet events' quiet' => exact ⟨⟨false, rfl⟩, share.noted quiet quiet'⟩
    | refused s₀ height rate failure due rated => exact (idle due rated).elim
    | credited s₀ c total record _ _ due rated => exact (idle due rated).elim
  | refused =>
    obtain ⟨made, ok⟩ := succeeds
    cases ok
  | credited s₀ c total record number_eq output due rated converted nonneg added =>
    have same := due.found
    rw [found] at same
    cases same
    have due' := (due_iff c.height).mp due
    cases seen' with
    | quiet events quiet unrated => exact absurd rated (unrated s' c.height c.rate due')
    | refused s₀' height rate failure due₀ rated' refused =>
      obtain ⟨rfl, rfl⟩ := due'.unique due₀
      rw [rated] at rated'
      cases rated'
      rw [output, ← alike.output] at converted
      exact absurd nonneg (refused c.usd converted)
    | credited s₀' c' total' record' place_eq output' due₀ rated' converted' nonneg' added' =>
      obtain ⟨rfl, heights⟩ := due'.unique due₀
      rw [heights, rated] at rated'
      have rates := Except.ok.inj rated'
      have outputs : c'.output = c.output := output'.trans (alike.output.trans output.symm)
      have amounts : c'.usd = c.usd := by
        rw [outputs, ← rates, converted] at converted'
        exact (Except.ok.inj converted').symm
      have terms : c'.terms = c.terms := by
        unfold Credit.terms
        rw [outputs, heights, ← rates, amounts]
      subst number_eq
      subst place_eq
      have closed := share.closed here terms output output' due due₀ converted converted' nonneg
        nonneg' added added'
      exact ⟨⟨true, rfl⟩, closed.noted (History.quiet_singleton rfl) (History.quiet_singleton rfl)⟩

/-! ## Reports -/

theorem SameShare.attempt (share : SameShare txid rates t u)
    (here : (t.numbersOf txid)[place]? = some number) (confidence : Confidence)
    (succeeds : Run.Succeeds (attempt lookup number confidence) t) :
    Parallel txid rates (attempt lookup number confidence) t (attempt lookup place confidence) u := by
  unfold Tracking.attempt at succeeds ⊢
  split at succeeds
  · rename_i building
    rw [if_pos building, if_pos building]
    exact (share.credit here succeeds.of_discard).discard
  · rename_i other
    rw [if_neg other, if_neg other]
    exact share.parallel_pure () ()

/-- A report on sightings in the same place. -/
theorem SameShare.react (share : SameShare txid rates t u) {s : Sighting}
    (here : (t.numbersOf txid)[place]? = some number) (found : t.sightings[number]? = some s)
    (isOpen : s.phase.isOpen = true) (confidence : Confidence) (height : Option Int)
    (succeeds : Run.Succeeds (react lookup number confidence height) t) :
    Parallel txid rates (react lookup number confidence height) t
      (react lookup place confidence height) u := by
  obtain ⟨s₀, s', found₀, found', alike⟩ := share.sightings place number here
  rw [found] at found₀
  cases found₀
  obtain ⟨record, left⟩ := react_eq lookup found confidence height
  obtain ⟨record', right⟩ := react_eq lookup found' confidence height
  have reported := share.reported here found found' isOpen confidence height
  have there : (((t.noted [.reported number confidence height]).phased number
      (s.phase.advance confidence height)).numbersOf txid)[place]? = some number := by
    rw [numbersOf_phased]
    exact here
  replace succeeds := left.symm.succeeds succeeds
  rw [alike.phase] at right reported
  by_cases ended : s.phase.advance confidence height = .discarded
  · rw [if_pos ended] at left right succeeds
    have given := (reported.logged record record').released there fun s₁ found₁ => by
      rw [phase_of_phased found₁, ended]
      rfl
    refine (given.attempt ?_ confidence succeeds).of_alike left right
    rw [numbersOf_release]
    exact there
  · rw [if_neg ended] at left right succeeds
    exact (reported.attempt there confidence succeeds).of_alike left right

theorem paralleled_confidenceChanged {output : Outpoint} (own : output.txid = txid)
    (confidence : Confidence) (height : Option Int) :
    Paralleled txid (confidenceChanged lookup output confidence height) := by
  intro rates t u share succeeds
  rcases share.open? own with ⟨unknown, unknown'⟩ | ⟨number, place, known, known', here⟩
  · exact (share.parallel_pure () ()).of_alike
      (confidenceChanged_none lookup unknown confidence height)
      (confidenceChanged_none lookup unknown' confidence height)
  · have left := confidenceChanged_some lookup known confidence height
    obtain ⟨s, found, isOpen, -⟩ := open?_found known
    exact (share.react here found isOpen confidence height (left.symm.succeeds succeeds)).of_alike
      left (confidenceChanged_some lookup known' confidence height)

theorem paralleled_announce (txid : String) (confidence : Confidence) (height : Option Int) :
    Paralleled txid (discard (announce lookup txid confidence height)) := by
  intro rates t u share succeeds
  have left := announce_eq lookup share.left.wired txid confidence height
  have right := announce_eq lookup share.right.wired txid confidence height
  refine Parallel.of_alike ?_ left right
  refine SameShare.forM ?_ share (left.symm.succeeds succeeds)
  refine List.forall₂_iff_zip.mpr ⟨share.subscriptions.length_eq, fun inside t' u' share' => ?_⟩
  have alike := List.forall₂_zip share.subscriptions inside
  have own := beq_iff_eq.mp (List.mem_filter.mp (List.of_mem_zip inside).1).2
  rw [alike.output]
  exact paralleled_confidenceChanged own confidence height share'

/-! ## Outputs -/

theorem paralleled_outputReceived {output : Output} (own : output.outpoint.txid = txid) :
    Paralleled txid (outputReceived lookup output) := by
  intro rates t u share succeeds
  have watches := share.isWatched output.address
  have processed := share.isProcessed own
  cases watched : t.feed.isWatched output.address with
  | false =>
    exact (share.parallel_pure () ()).of_alike (outputReceived_none lookup (.inr watched))
      (outputReceived_none lookup (.inr (watches.trans watched)))
  | true =>
    cases new : t.isProcessed output.outpoint with
    | true =>
      exact (share.parallel_pure () ()).of_alike (outputReceived_none lookup (.inl new))
        (outputReceived_none lookup (.inl (processed.trans new)))
    | false =>
      have watched' := watches.trans watched
      have new' := processed.trans new
      rcases share.open? own with ⟨unknown, unknown'⟩ | ⟨number, place, known, known', here⟩
      · have left := outputReceived_unknown lookup new watched unknown
        have right := outputReceived_unknown lookup new' watched' unknown'
        have silent' : u.manner.announcedAtOnce = [] := by
          rw [share.manner]
          exact share.silent
        obtain ⟨events, quiet, observes⟩ := observe_silent lookup share.silent output
        obtain ⟨events', quiet', observes'⟩ := observe_silent lookup silent' output
        have opened := (share.opened own new watched unknown).noted quiet quiet'
        refine Parallel.of_alike (Parallel.of_alike ?_ observes observes') left right
        refine opened.attempt ?_ output.confidence
          (observes.symm.succeeds (left.symm.succeeds succeeds))
        change ((t.opening output).numbersOf txid)[u.sightings.length]? = _
        rw [numbersOf_opening, if_pos own, share.length, List.getElem?_concat_length]
      · have left := outputReceived_known lookup new watched known
        have right := outputReceived_known lookup new' watched' known'
        obtain ⟨s, found, isOpen, -⟩ := open?_found known
        exact (share.react here found isOpen _ _ (left.symm.succeeds succeeds)).of_alike left right

/-- A step that looks at no more of the state than what both trackers have in common. -/
theorem Paralleled.of_get {f : Tracking RateList → Run (Tracking RateList) β}
    (same : ∀ {rates t u}, SameShare txid rates t u → f u = f t)
    (parallel : ∀ t, Paralleled txid (f t)) : Paralleled txid (do let t ← get; f t) := by
  intro rates t u share succeeds
  have right : Run.Alike (do let t ← get; f t) u (f t) u := by
    rw [← same share]
    exact ⟨rfl, rfl⟩
  exact (parallel t share succeeds).of_alike ⟨rfl, rfl⟩ right

theorem paralleled_receive {outputs : List Output}
    (own : ∀ output ∈ outputs, output.outpoint.txid = txid) :
    Paralleled txid (receive lookup outputs) := by
  unfold receive Feed.deliver
  apply Paralleled.of_get
  · intro rates t u share
    have concerns : u.feed.concerns outputs = t.feed.concerns outputs := by
      unfold Feed.concerns
      simp only [share.isWatched]
    have deliveries : u.feed.deliveries outputs = t.feed.deliveries outputs := by
      have receivers : u.feed.receivers = t.feed.receivers := congrArg (·.2.2) share.setting
      unfold Feed.deliveries
      rw [receivers]
    simp only [concerns, deliveries]
  · intro t
    simp only
    split
    · refine Paralleled.seq (.forM fun delivery inside => ?_) (paralleled_pure outputs)
      obtain ⟨output, known, among⟩ := List.mem_flatMap.mp inside
      obtain ⟨receiver, -, rfl⟩ := List.mem_map.mp among
      cases receiver with
      | received => exact paralleled_outputReceived (own output known)
      | confidence => exact paralleled_pure ()
    · exact paralleled_pure _

/-! ## What the operator does -/

theorem paralleled_addAddress (address : String) (since : Int) :
    Paralleled txid (addAddress address since : Run (Tracking RateList) Unit) := by
  intro rates t u share succeeds
  have watched (record record' : LogRecord) :=
    (share.logged record record').watched ⟨address, since, Feed.defaultCurrency⟩
  exact ⟨⟨(), rfl⟩, (watched _ _).logged _ _⟩

/-- The sightings that are tried again are those of the transaction, or of other ones. -/
theorem SameShare.tried {own numbers places : List Nat} (share : SameShare txid rates t u)
    (known : t.numbersOf txid = own)
    (twins : List.Forall₂ (fun number place => own[place]? = some number)
      (numbers.filter (· ∈ own)) places)
    (succeeds : Run.Succeeds (numbers.forM fun number => discard (Tracking.credit lookup number)) t) :
    Parallel txid rates (numbers.forM fun number => discard (Tracking.credit lookup number)) t
      (places.forM fun place => discard (Tracking.credit lookup place)) u := by
  induction numbers generalizing t u places with
  | nil =>
    cases twins
    exact share.parallel_pure PUnit.unit PUnit.unit
  | cons number numbers ih =>
    obtain ⟨first, rest⟩ := succeeds.of_seq
    have kept : (Run.after (discard (Tracking.credit lookup number)) t).numbersOf txid = own := by
      rw [Run.after_discard, (looks share.left number).numbersOf, known]
    by_cases inside : number ∈ own
    · rw [List.filter_cons_of_pos (by simp [inside])] at twins
      cases twins with
      | cons here twins =>
        have tried := (share.credit (by rw [known]; exact here) first.of_discard).discard
        exact tried.seq first (ih tried.share kept twins rest)
    · rw [List.filter_cons_of_neg (by simp [inside])] at twins
      have spares : Spares txid rates t (Run.after (discard (Tracking.credit lookup number)) t) := by
        rw [Run.after_discard]
        exact .credit share.left (by rw [known]; exact inside)
      exact (ih (share.spared spares) kept twins rest).skip first

/-- What waits of a transaction waits in the same places in the other tracker. -/
theorem SameShare.awaiting (share : SameShare txid rates t u) :
    List.Forall₂ (fun number place => (t.numbersOf txid)[place]? = some number)
      (t.awaitingCredit.filter (· ∈ t.numbersOf txid)) u.awaitingCredit := by
  have own : t.awaitingCredit.filter (· ∈ t.numbersOf txid) = (t.numbersOf txid).filter
      fun number => t.sightings[number]?.any (·.phase.isConfirmed) := by
    rw [awaitingCredit_eq, List.filter_comm]
    congr 1
    conv_rhs => rw [numbersOf]
    apply List.filter_congr
    intro number inside
    rw [numbersOf, Bool.eq_iff_iff, decide_eq_true_iff, List.mem_filter]
    exact and_iff_right inside
  have places : List.Forall₂ (fun number place => (t.numbersOf txid)[place]? = some number)
      (t.numbersOf txid) (List.range u.sightings.length) := by
    refine List.forall₂_of_length_eq_of_get ?_ ?_
    · rw [List.length_range, share.length]
    · intro i before after
      simp
  rw [own, awaitingCredit_eq]
  refine List.rel_filter (fun number place here => ?_) places
  obtain ⟨s, s', found, found', alike⟩ := share.sightings place number here
  simp only [found, found', Option.any_some, alike.phase]

theorem paralleled_retry : Paralleled txid (discard (retry lookup)) := by
  intro rates t u share succeeds
  obtain ⟨events, quiet, left⟩ := retry_eq lookup t
  obtain ⟨events', quiet', right⟩ := retry_eq lookup u
  exact ((share.noted quiet quiet').tried rfl share.awaiting
    (left.symm.succeeds succeeds)).of_alike left right

end Tracking

end Paywatch
