import Paywatch.Proofs.Payment.Regular
import Paywatch.Proofs.Payment.SameFeed

/-!
# The share of a transaction

All payments are in one register, one ledger and one table of subscriptions.  The
share of a transaction is what these hold of it: the sightings of its outputs, the
subscriptions on them, and their credits.  A step that concerns other transactions
leaves the share as it is.
-/

namespace Paywatch

def Credit.terms (c : Credit) : Output × Int × Decimal × Decimal :=
  (c.output, c.height, c.rate, c.usd)

namespace Feed

variable {κ : Type} {txid : String} {id : Nat}

theorem concernedBy_unsubscribe (feed : Feed κ) :
    (feed.unsubscribe id).concernedBy txid = (feed.concernedBy txid).filter (·.id ≠ id) :=
  filter_unsubscribe_comm feed id _

theorem concernedBy_subscribe (feed : Feed κ) (output : Outpoint) (callback : κ) :
    (feed.subscribe output callback).2.concernedBy txid = feed.concernedBy txid ++
      if output.txid = txid then [⟨feed.nextId, output, callback⟩] else [] := by
  rw [concernedBy, subscribe, List.filter_append, List.filter_singleton, Bool.cond_eq_ite]
  simp only [beq_iff_eq]
  rfl

end Feed

namespace Tracking

variable {ω : Type} {rates : ω} {t u v : Tracking ω} {txid : String}

/-! ## What a tracker holds of a transaction -/

/-- The numbers of the sightings of a transaction, in their order. -/
def numbersOf (t : Tracking ω) (txid : String) : List Nat :=
  (List.range t.sightings.length).filter fun number =>
    t.sightings[number]?.any (·.outpoint.txid == txid)

def creditsOf (t : Tracking ω) (txid : String) : List (Output × Int × Decimal × Decimal) :=
  (t.credits.filter (·.output.outpoint.txid == txid)).map (·.terms)

/-- What every transaction finds alike: the manner of the feed, its addresses and its receivers. -/
def setting (t : Tracking ω) : FeedManner × List Watched × List Callback :=
  (t.manner, t.feed.watched, t.feed.receivers)

theorem mem_numbersOf {number : Nat} :
    number ∈ t.numbersOf txid ↔
      ∃ s, t.sightings[number]? = some s ∧ s.outpoint.txid = txid := by
  rw [numbersOf, List.mem_filter, List.mem_range, Option.any_eq_true]
  constructor
  · rintro ⟨-, s, found, same⟩
    exact ⟨s, found, beq_iff_eq.mp same⟩
  · rintro ⟨s, found, same⟩
    exact ⟨(List.getElem?_eq_some_iff.mp found).1, s, found, beq_iff_eq.mpr same⟩

theorem nodup_numbersOf (t : Tracking ω) (txid : String) : (t.numbersOf txid).Nodup :=
  List.nodup_range.filter _

theorem numbersOf_of_outputs (same : ∀ number : Nat,
    u.sightings[number]?.map (·.output) = t.sightings[number]?.map (·.output)) :
    u.numbersOf txid = t.numbersOf txid := by
  rw [numbersOf, numbersOf, length_of_outputs same]
  apply List.filter_congr
  intro number _
  have own (found : Option Sighting) : found.any (·.outpoint.txid == txid) =
      (found.map (·.output)).any (·.outpoint.txid == txid) := by
    cases found <;> rfl
  rw [own, own, same]

theorem numbersOf_phased (t : Tracking ω) (number : Nat) (phase : Phase) :
    (t.phased number phase).numbersOf txid = t.numbersOf txid :=
  numbersOf_of_outputs fun m => phased_outputs t number m phase

theorem numbersOf_release (t : Tracking ω) (number : Nat) :
    (Run.after (release number) t).numbersOf txid = t.numbersOf txid :=
  numbersOf_of_outputs fun m => release_outputs t number m

/-- One more sighting is of the transaction, or it is not. -/
theorem numbersOf_of_append {s : Sighting} (more : u.sightings = t.sightings ++ [s]) :
    u.numbersOf txid = t.numbersOf txid ++
      if s.outpoint.txid = txid then [t.sightings.length] else [] := by
  rw [numbersOf, numbersOf, more, List.length_append, List.length_singleton, List.range_succ,
    List.filter_append, List.filter_singleton, List.getElem?_concat_length, Option.any_some,
    Bool.cond_eq_ite]
  simp only [beq_iff_eq]
  congr 1
  apply List.filter_congr
  intro number inside
  rw [List.getElem?_append_left (List.mem_range.mp inside)]

theorem creditsOf_of_credits (same : u.credits = t.credits) :
    u.creditsOf txid = t.creditsOf txid := by
  rw [creditsOf, creditsOf, same]

theorem creditsOf_crediting (t : Tracking ω) (c : Credit) (total : Decimal) :
    (t.crediting c.number c.output c.height c.rate c.usd total).creditsOf txid =
      t.creditsOf txid ++ if c.output.outpoint.txid = txid then [c.terms] else [] := by
  rw [creditsOf, credits_crediting, List.filter_append, List.map_append, List.filter_singleton,
    Bool.cond_eq_ite]
  simp only [beq_iff_eq]
  rw [apply_ite (List.map _)]
  rfl

theorem Regular.isProcessed_iff (regular : t.Regular rates) (output : Outpoint) :
    t.isProcessed output = true ↔ ∃ terms ∈ t.creditsOf output.txid, terms.1.outpoint = output := by
  constructor
  · intro processed
    obtain ⟨c, made, rfl⟩ := regular.credit_of_processed processed
    refine ⟨c.terms, List.mem_map_of_mem (List.mem_filter.mpr ⟨made, ?_⟩), rfl⟩
    exact beq_self_eq_true _
  · rintro ⟨terms, inside, rfl⟩
    obtain ⟨c, among, rfl⟩ := List.mem_map.mp inside
    exact regular.processed_of_credit (List.mem_filter.mp among).1

theorem setting_release (t : Tracking ω) (number : Nat) :
    (Run.after (release number) t).setting = t.setting := by
  cases held : t.sightings[number]?.bind (·.subscription) with
  | none => rw [after_release_none held]
  | some id =>
    rw [after_release_some held, cancelling]
    split <;> rfl

/-- When a subscription is given up, it goes unless the feed keeps what is given up. -/
theorem concernedBy_release_some {number id : Nat}
    (held : t.sightings[number]?.bind (·.subscription) = some id) :
    (Run.after (release number) t).feed.concernedBy txid =
      (t.feed.concernedBy txid).filter fun sub => t.manner.keepsCancelled || sub.id ≠ id := by
  rw [after_release_some held, cancelling_feed]
  change (if t.manner.keepsCancelled then t.feed else t.feed.unsubscribe id).concernedBy txid = _
  cases t.manner.keepsCancelled with
  | true => exact (List.filter_eq_self.mpr fun _ _ => rfl).symm
  | false => exact Feed.concernedBy_unsubscribe t.feed

/-! ## Sightings that begin without an announcement -/

/-- The tracker with a new sighting, which holds its subscription if it is undecided. -/
def opening (t : Tracking ω) (output : Output) : Tracking ω :=
  if Phase.atFirst output.confidence output.height = .observed then
    (t.sighting output).holding t.sightings.length (some t.feed.nextId)
  else t.sighting output

/-- The subscription that a new sighting holds. -/
def handle? (t : Tracking ω) (output : Output) : Option Nat :=
  if Phase.atFirst output.confidence output.height = .observed then some t.feed.nextId else none

theorem eq_of_handle? {output : Output} {id : Nat} (held : t.handle? output = some id) :
    id = t.feed.nextId := by
  unfold handle? at held
  split at held
  · exact (Option.some.inj held).symm
  · cases held

theorem opening_sightings (t : Tracking ω) (output : Output) :
    (t.opening output).sightings = t.sightings ++
      [⟨output, Phase.atFirst output.confidence output.height, t.handle? output⟩] := by
  unfold opening handle?
  split
  · apply List.ext_getElem?
    intro m
    rw [holding_getElem?, sighting_sightings]
    rcases lt_trichotomy m t.sightings.length with before | rfl | beyond
    · rw [List.getElem?_append_left before, List.getElem?_append_left before]
      simp [Nat.ne_of_gt before]
    · rw [List.getElem?_concat_length, List.getElem?_concat_length, Option.map_some, if_pos rfl]
    · rw [List.getElem?_eq_none (by simp; omega), List.getElem?_eq_none (by simp; omega)]
      rfl
  · exact sighting_sightings t output

theorem opening_feed (t : Tracking ω) (output : Output) :
    (t.opening output).feed =
      if Phase.atFirst output.confidence output.height = .observed then
        (t.feed.subscribe output.outpoint (.confidence output.outpoint)).2
      else t.feed := by
  unfold opening sighting
  split <;> rfl

theorem numbersOf_opening (t : Tracking ω) (output : Output) :
    (t.opening output).numbersOf txid = t.numbersOf txid ++
      if output.outpoint.txid = txid then [t.sightings.length] else [] :=
  numbersOf_of_append (opening_sightings t output)

theorem credits_opening (t : Tracking ω) (output : Output) :
    (t.opening output).credits = t.credits := by
  unfold opening
  split <;> exact credits_sighting t output

theorem setting_opening (t : Tracking ω) (output : Output) :
    (t.opening output).setting = t.setting := by
  unfold opening sighting
  split <;> rfl

theorem Regular.opened (regular : t.Regular rates) {output : Output}
    (new : t.isProcessed output.outpoint = false)
    (watched : t.feed.isWatched output.address = true)
    (unknown : t.open? output.outpoint = none) : (t.opening output).Regular rates := by
  have sighted := regular.sighted new watched unknown
  unfold opening
  split
  · rename_i first
    refine sighted.held (t.sighting_last output) ?_
    have owns := (regular.wired.beginning output).owns_next output.outpoint
    unfold sighting
    rw [if_pos first]
    exact owns
  · exact sighted

theorem opening_of_decided {output : Output}
    (decided : Phase.atFirst output.confidence output.height ≠ .observed) :
    t.opening output = t.beginning output := by
  rw [opening, if_neg decided, sighting, if_neg decided]

/-- To follow an output is to open a sighting of it if nothing is announced at once. -/
theorem follow_silent (ask : Int → Run (Tracking ω) Decimal)
    (silent : t.manner.announcedAtOnce = []) {output : Output}
    (first : Phase.atFirst output.confidence output.height = .observed) :
    ∃ record, Run.Alike (follow ask t.sightings.length output) (t.beginning output) (pure ())
      ((t.opening output).noted [.logged record]) := by
  obtain ⟨record, alike⟩ := follow_eq ask (t.beginning output) t.sightings.length output
  have silence : announcing ask (t.beginning output) output.outpoint = pure PUnit.unit := by
    have nothing : (t.beginning output).manner.announcedAtOnce = [] := silent
    rw [announcing, nothing]
    rfl
  rw [silence, pure_bind] at alike
  have opened : ((t.beginning output).subscribing output.outpoint).holding t.sightings.length
      (some t.feed.nextId) = t.opening output := by
    rw [opening, if_pos first, sighting, if_pos first]
  have undecided : (t.opening output).sightings[t.sightings.length]?.map (·.phase) ≠
      some .discarded := by
    rw [opening_sightings, List.getElem?_concat_length, Option.map_some, first]
    exact fun same => by cases same
  refine ⟨record, alike.outcome.trans (outcome_keep ..), alike.after.trans ?_⟩
  rw [after_keep, if_neg]
  · rw [← opened]
    rfl
  · rw [← opened] at undecided
    exact undecided

/-- Where nothing is announced at once, a sighting begins and is credited if it is in a block. -/
theorem observe_silent (ask : Int → Run (Tracking ω) Decimal)
    (silent : t.manner.announcedAtOnce = []) (output : Output) :
    ∃ events, History.Quiet events ∧ Run.Alike (observe ask output) t
      (attempt ask t.sightings.length output.confidence) ((t.opening output).noted events) := by
  have alike := observe_eq ask t output
  cases confidence : output.confidence with
  | unknown | pending =>
    have first : Phase.atFirst output.confidence output.height = .observed := by
      rw [confidence]
      rfl
    obtain ⟨record, follows⟩ := follow_silent ask silent first
    rw [first] at alike
    exact ⟨_, History.quiet_singleton rfl, alike.outcome.trans follows.outcome,
      alike.after.trans follows.after⟩
  | building =>
    have first : Phase.atFirst output.confidence output.height = .confirmed output.height := by
      rw [confidence]
      rfl
    rw [opening_of_decided (by rw [first]; exact fun same => by cases same)]
    rw [first] at alike
    refine ⟨[], History.quiet_nil, ?_⟩
    rw [noted, List.append_nil]
    exact alike
  | dead | inConflict =>
    have first : Phase.atFirst output.confidence output.height = .discarded := by
      rw [confidence]
      rfl
    rw [opening_of_decided (by rw [first]; exact fun same => by cases same)]
    rw [first] at alike
    exact ⟨_, History.quiet_singleton rfl, alike.outcome, alike.after⟩

/-! ## Steps that concern other transactions -/

/-- A tracker stays regular, and so does what it holds of a transaction. -/
structure Spares (txid : String) (rates : ω) (t u : Tracking ω) : Prop where
  regular : u.Regular rates
  setting : u.setting = t.setting
  numbers : u.numbersOf txid = t.numbersOf txid
  sightings : ∀ number ∈ t.numbersOf txid, u.sightings[number]? = t.sightings[number]?
  subscriptions : u.feed.concernedBy txid = t.feed.concernedBy txid
  credits : u.creditsOf txid = t.creditsOf txid

/-- A sighting of another transaction is not of this one. -/
theorem other_of_not_mem {number : Nat} (other : number ∉ t.numbersOf txid) {s : Sighting}
    (found : t.sightings[number]? = some s) : s.outpoint.txid ≠ txid :=
  fun same => other (mem_numbersOf.mpr ⟨s, found, same⟩)

theorem Wired.concernedBy_release (wired : t.Wired) {number : Nat}
    (other : number ∉ t.numbersOf txid) :
    (Run.after (Tracking.release number) t).feed.concernedBy txid = t.feed.concernedBy txid := by
  cases held : t.sightings[number]?.bind (·.subscription) with
  | none => rw [after_release_none held]
  | some id =>
    obtain ⟨s, found, subscribed⟩ := Option.bind_eq_some_iff.mp held
    rw [concernedBy_release_some held, List.filter_eq_self]
    intro sub inside
    obtain ⟨known, own⟩ := List.mem_filter.mp inside
    have elsewhere : sub.id ≠ id := by
      intro here
      have output := (wired.held number s id found subscribed).output sub known here
      rw [output, beq_iff_eq] at own
      exact other_of_not_mem other found own
    rw [decide_eq_true elsewhere, Bool.or_true]

namespace Spares

theorem refl (regular : t.Regular rates) : Spares txid rates t t :=
  ⟨regular, rfl, rfl, fun _ _ => rfl, rfl, rfl⟩

theorem trans (first : Spares txid rates t u) (second : Spares txid rates u v) :
    Spares txid rates t v where
  regular := second.regular
  setting := second.setting.trans first.setting
  numbers := second.numbers.trans first.numbers
  sightings := fun number own =>
    (second.sightings number (by rw [first.numbers]; exact own)).trans (first.sightings number own)
  subscriptions := second.subscriptions.trans first.subscriptions
  credits := second.credits.trans first.credits

theorem silent (spares : Spares txid rates t u) (silent : t.manner.announcedAtOnce = []) :
    u.manner.announcedAtOnce = [] := by
  have manner : u.manner = t.manner := congrArg Prod.fst spares.setting
  rw [manner]
  exact silent

/-- One sighting changes, which is of another transaction. -/
theorem of_changed {number : Nat} {f : Sighting → Sighting} (regular : u.Regular rates)
    (other : number ∉ t.numbersOf txid)
    (sightings : ∀ m : Nat,
      u.sightings[m]? = t.sightings[m]?.map fun s => if number = m then f s else s)
    (kept : ∀ s, (f s).output = s.output) (setting : u.setting = t.setting)
    (subscriptions : u.feed.concernedBy txid = t.feed.concernedBy txid)
    (credits : u.creditsOf txid = t.creditsOf txid) : Spares txid rates t u where
  regular := regular
  setting := setting
  numbers := by
    refine numbersOf_of_outputs fun m => ?_
    rw [sightings]
    exact outputs_of_map (fun s => by split; exacts [kept s, rfl]) _
  sightings := by
    intro m own
    have elsewhere : number ≠ m := fun here => other (here ▸ own)
    rw [sightings]
    simp only [if_neg elsewhere, Option.map_id']
  subscriptions := subscriptions
  credits := credits

theorem not_mem (spares : Spares txid rates t u) {number : Nat}
    (other : number ∉ t.numbersOf txid) : number ∉ u.numbersOf txid := by
  rw [spares.numbers]
  exact other

theorem noted (spares : Spares txid rates t u) {events : List TrackingEvent}
    (quiet : History.Quiet events) : Spares txid rates t (u.noted events) :=
  spares.trans ⟨spares.regular.noted quiet, rfl, rfl, fun _ _ => rfl, rfl,
    creditsOf_of_credits (credits_noted u quiet)⟩

theorem logged (spares : Spares txid rates t u) (record : LogRecord) :
    Spares txid rates t (u.noted [.logged record]) :=
  spares.noted (History.quiet_singleton rfl)

theorem reported (spares : Spares txid rates t u) {number : Nat} {s : Sighting}
    (other : number ∉ t.numbersOf txid) (found : u.sightings[number]? = some s)
    (isOpen : s.phase.isOpen = true) (confidence : Confidence) (height : Option Int) :
    Spares txid rates t ((u.noted [.reported number confidence height]).phased number
      (s.phase.advance confidence height)) :=
  spares.trans (of_changed (spares.regular.reported found isOpen confidence height)
    (spares.not_mem other) (fun m => phased_getElem? _ number m _) (fun _ => rfl) rfl rfl
    (creditsOf_of_credits (credits_noted u (History.quiet_singleton rfl))))

theorem released (spares : Spares txid rates t u) {number : Nat}
    (other : number ∉ t.numbersOf txid)
    (closed : ∀ s, u.sightings[number]? = some s → s.phase.isOpen = false) :
    Spares txid rates t (Run.after (release number) u) :=
  spares.trans (of_changed (spares.regular.released closed) (spares.not_mem other)
    (release_getElem? u number) (fun _ => rfl) (setting_release u number)
    (spares.regular.wired.concernedBy_release (spares.not_mem other))
    (creditsOf_of_credits (credits_release number u)))

theorem credited (spares : Spares txid rates t u) {c : Credit} {s : Sighting} {total : Decimal}
    (other : c.number ∉ t.numbersOf txid) (output : c.output = s.output)
    (due : u.Due c.number s c.height)
    (told : u.journal.getLast? = some (.answered c.number c.height (some c.rate)))
    (converted : convertToUsd c.output.satoshi c.rate = .ok c.usd)
    (nonneg : c.usd.isNegative = .ok false) (added : u.ledger.total.add c.usd = .ok total) :
    Spares txid rates t (u.crediting c.number c.output c.height c.rate c.usd total) := by
  refine spares.trans (of_changed
    (spares.regular.credited output due told converted nonneg added) (spares.not_mem other)
    (fun m => phased_getElem? _ c.number m .credited) (fun _ => rfl) rfl rfl ?_)
  have elsewhere : c.output.outpoint.txid ≠ txid := by
    rw [output]
    exact other_of_not_mem (spares.not_mem other) due.found
  rw [creditsOf_crediting, if_neg elsewhere, List.append_nil]

/-- A sighting of another transaction begins. -/
theorem opened (regular : t.Regular rates) {output : Output} (other : output.outpoint.txid ≠ txid)
    (new : t.isProcessed output.outpoint = false)
    (watched : t.feed.isWatched output.address = true)
    (unknown : t.open? output.outpoint = none) : Spares txid rates t (t.opening output) where
  regular := regular.opened new watched unknown
  setting := setting_opening t output
  numbers := by
    rw [numbersOf_opening, if_neg other, List.append_nil]
  sightings := by
    intro number own
    obtain ⟨s, found, -⟩ := mem_numbersOf.mp own
    rw [opening_sightings, List.getElem?_append_left (List.getElem?_eq_some_iff.mp found).1]
  subscriptions := by
    rw [opening_feed]
    split
    · rw [Feed.concernedBy_subscribe, if_neg other, List.append_nil]
    · rfl
  credits := creditsOf_of_credits (credits_opening t output)

end Spares

end Tracking

end Paywatch
