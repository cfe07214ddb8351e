import Mathlib.Data.List.Forall2
import Paywatch.Proofs.Payment.Share

/-!
# Trackers with the same share of a transaction

One tracker sees many transactions, the other one only one of them.  Their shares of
this transaction are the same when its sightings are alike in their order, although
their numbers and those of their subscriptions differ: a sighting of the second
tracker has as its number the place of its like among the sightings of the
transaction in the first one.
-/

namespace Paywatch

/-- Two sightings of one output in the same phase, both with a subscription or both without. -/
structure Sighting.Resembles (s s' : Sighting) : Prop where
  output : s'.output = s.output
  phase : s'.phase = s.phase
  holds : s'.subscription.isSome = s.subscription.isSome

/-- A change that keeps the output of a sighting, and keeps its subscription or gives it up. -/
structure Sighting.Mild (f : Sighting → Sighting) : Prop where
  output : ∀ s, (f s).output = s.output
  resembles : ∀ {s s'}, Resembles s s' → Resembles (f s) (f s')
  fewer : ∀ {s id}, (f s).subscription = some id → s.subscription = some id

theorem Sighting.mild_phase (phase : Phase) : Mild fun s => { s with phase := phase } :=
  ⟨fun _ => rfl, fun alike => ⟨alike.output, rfl, alike.holds⟩, fun held => held⟩

theorem Sighting.mild_release : Mild fun s => { s with subscription := none } :=
  ⟨fun _ => rfl, fun alike => ⟨alike.output, alike.phase, rfl⟩, fun held => by cases held⟩

namespace Tracking

variable {ω : Type} {rates : ω} {t t' u u' : Tracking ω} {txid : String} {number place : Nat}

/-- The numbers of the subscriptions that two sightings in the same place hold. -/
def Paired (txid : String) (t u : Tracking ω) (id id' : Nat) : Prop :=
  ∃ (place number : Nat) (s s' : Sighting), (t.numbersOf txid)[place]? = some number ∧
    t.sightings[number]? = some s ∧ u.sightings[place]? = some s' ∧
    s.subscription = some id ∧ s'.subscription = some id'

/-- Subscriptions on one output, which sightings in the same place hold if any do. -/
structure Matches (txid : String) (t u : Tracking ω) (sub sub' : Subscription Callback) :
    Prop where
  output : sub'.output = sub.output
  held : ∀ id id', Paired txid t u id id' → (sub.id = id ↔ sub'.id = id')

/-- The second tracker is about one transaction only, and has the same share of it as the first. -/
structure SameShare (txid : String) (rates : ω) (t u : Tracking ω) : Prop where
  left : t.Regular rates
  right : u.Regular rates
  silent : t.manner.announcedAtOnce = []
  setting : u.setting = t.setting
  length : u.sightings.length = (t.numbersOf txid).length
  sightings : ∀ place number : Nat, (t.numbersOf txid)[place]? = some number →
    ∃ s s', t.sightings[number]? = some s ∧ u.sightings[place]? = some s' ∧ s.Resembles s'
  subscriptions : List.Forall₂ (Matches txid t u) (t.feed.concernedBy txid)
    (u.feed.concernedBy txid)
  credits : u.creditsOf txid = t.creditsOf txid

namespace SameShare

/-! ## What follows -/

theorem manner (share : SameShare txid rates t u) : u.manner = t.manner :=
  congrArg Prod.fst share.setting

theorem isWatched (share : SameShare txid rates t u) (address : String) :
    u.feed.isWatched address = t.feed.isWatched address := by
  have watched : u.feed.watched = t.feed.watched := congrArg (·.2.1) share.setting
  unfold Feed.isWatched Feed.entry?
  rw [watched]

theorem resembles (share : SameShare txid rates t u) {s s' : Sighting}
    (here : (t.numbersOf txid)[place]? = some number) (found : t.sightings[number]? = some s)
    (found' : u.sightings[place]? = some s') : s.Resembles s' := by
  obtain ⟨s₀, s₀', found₀, found₀', alike⟩ := share.sightings place number here
  rw [found] at found₀
  rw [found'] at found₀'
  cases found₀
  cases found₀'
  exact alike

/-- Every sighting of the second tracker has its like in the first one. -/
theorem found_left (share : SameShare txid rates t u) {s' : Sighting}
    (found' : u.sightings[place]? = some s') :
    ∃ (number : Nat) (s : Sighting),
      (t.numbersOf txid)[place]? = some number ∧ t.sightings[number]? = some s ∧
        s.Resembles s' := by
  have inside := (List.getElem?_eq_some_iff.mp found').1
  rw [share.length] at inside
  have here : (t.numbersOf txid)[place]? = some (t.numbersOf txid)[place] :=
    List.getElem?_eq_getElem inside
  obtain ⟨s, s₀, found, found₀, alike⟩ := share.sightings place _ here
  rw [found'] at found₀
  cases found₀
  exact ⟨_, s, here, found, alike⟩

/-- Every sighting of the transaction has its like in the second tracker. -/
theorem found_right (share : SameShare txid rates t u) {s : Sighting}
    (found : t.sightings[number]? = some s) (own : s.outpoint.txid = txid) :
    ∃ (place : Nat) (s' : Sighting), (t.numbersOf txid)[place]? = some number ∧
      u.sightings[place]? = some s' ∧ s.Resembles s' := by
  obtain ⟨place, here⟩ := List.mem_iff_getElem?.mp (mem_numbersOf.mpr ⟨s, found, own⟩)
  obtain ⟨s₀, s', found₀, found', alike⟩ := share.sightings place number here
  rw [found] at found₀
  cases found₀
  exact ⟨place, s', here, found', alike⟩

theorem isProcessed (share : SameShare txid rates t u) {output : Outpoint}
    (own : output.txid = txid) : u.isProcessed output = t.isProcessed output := by
  subst own
  rw [Bool.eq_iff_iff, share.left.isProcessed_iff, share.right.isProcessed_iff, share.credits]

/-- An output of the transaction is open in neither tracker, or in the same place in both. -/
theorem open? (share : SameShare txid rates t u) {output : Outpoint} (own : output.txid = txid) :
    (t.open? output = none ∧ u.open? output = none) ∨
      ∃ number place, t.open? output = some number ∧ u.open? output = some place ∧
        (t.numbersOf txid)[place]? = some number := by
  cases known : t.open? output with
  | some number =>
    obtain ⟨s, found, isOpen, same⟩ := open?_found known
    obtain ⟨place, s', here, found', alike⟩ := share.found_right found (by rw [same]; exact own)
    have known' := share.right.orderly.open?_eq found' (by rw [alike.phase]; exact isOpen)
    rw [Sighting.outpoint, alike.output] at known'
    exact .inr ⟨number, place, rfl, by rw [← same]; exact known', here⟩
  | none =>
    refine .inl ⟨rfl, ?_⟩
    cases known' : u.open? output with
    | none => rfl
    | some place =>
      obtain ⟨s', found', isOpen, same⟩ := open?_found known'
      obtain ⟨number, s, -, found, alike⟩ := share.found_left found'
      have open' := share.left.orderly.open?_eq found (by rw [← alike.phase]; exact isOpen)
      rw [Sighting.outpoint, ← alike.output, ← Sighting.outpoint, same, known] at open'
      cases open'

/-- A credit is due in both trackers, or in neither of them. -/
theorem due_iff (share : SameShare txid rates t u) {s s' : Sighting}
    (here : (t.numbersOf txid)[place]? = some number) (found : t.sightings[number]? = some s)
    (found' : u.sightings[place]? = some s') (height : Int) :
    t.Due number s height ↔ u.Due place s' height := by
  have alike := share.resembles here found found'
  obtain ⟨s₀, found₀, own⟩ := mem_numbersOf.mp (List.mem_of_getElem? here)
  rw [found] at found₀
  cases found₀
  have outpoint : s'.outpoint = s.outpoint := congrArg Output.outpoint alike.output
  have new : u.isProcessed s'.outpoint = t.isProcessed s.outpoint := by
    rw [outpoint]
    exact share.isProcessed own
  constructor
  · intro due
    exact ⟨found', alike.phase.trans due.block, new.trans due.new⟩
  · intro due
    exact ⟨found, alike.phase.symm.trans due.block, new.symm.trans due.new⟩

/-! ## What either tracker does alone -/

/-- The first tracker goes on with other transactions. -/
theorem spared (share : SameShare txid rates t u) (spares : Spares txid rates t t') :
    SameShare txid rates t' u where
  left := spares.regular
  right := share.right
  silent := spares.silent share.silent
  setting := share.setting.trans spares.setting.symm
  length := by rw [spares.numbers]; exact share.length
  sightings := by
    intro place number here
    rw [spares.numbers] at here
    rw [spares.sightings number (List.mem_of_getElem? here)]
    exact share.sightings place number here
  subscriptions := by
    rw [spares.subscriptions]
    refine share.subscriptions.imp fun sub sub' alike => ⟨alike.output, ?_⟩
    rintro id id' ⟨place, number, s, s', here, found, paired⟩
    rw [spares.numbers] at here
    rw [spares.sightings number (List.mem_of_getElem? here)] at found
    exact alike.held id id' ⟨place, number, s, s', here, found, paired⟩
  credits := share.credits.trans spares.credits.symm

theorem noted_left (share : SameShare txid rates t u) {events : List TrackingEvent}
    (quiet : History.Quiet events) : SameShare txid rates (t.noted events) u :=
  share.spared ((Spares.refl share.left).noted quiet)

theorem noted_right (share : SameShare txid rates t u) {events : List TrackingEvent}
    (quiet : History.Quiet events) : SameShare txid rates t (u.noted events) where
  left := share.left
  right := share.right.noted quiet
  silent := share.silent
  setting := share.setting
  length := share.length
  sightings := share.sightings
  subscriptions := share.subscriptions.imp fun _ _ alike => ⟨alike.output, alike.held⟩
  credits := (creditsOf_of_credits (credits_noted u quiet)).trans share.credits

theorem noted (share : SameShare txid rates t u) {events events' : List TrackingEvent}
    (quiet : History.Quiet events) (quiet' : History.Quiet events') :
    SameShare txid rates (t.noted events) (u.noted events') :=
  (share.noted_left quiet).noted_right quiet'

theorem logged (share : SameShare txid rates t u) (record record' : LogRecord) :
    SameShare txid rates (t.noted [.logged record]) (u.noted [.logged record']) :=
  share.noted (History.quiet_singleton rfl) (History.quiet_singleton rfl)

/-! ## What both trackers do -/

/-- Sightings in the same place change in the same way. -/
theorem changed (share : SameShare txid rates t u)
    (here : (t.numbersOf txid)[place]? = some number) {f : Sighting → Sighting}
    (mild : Sighting.Mild f) (left : t'.Regular rates) (right : u'.Regular rates)
    (setting : t'.setting = t.setting) (setting' : u'.setting = u.setting)
    (found : ∀ m : Nat,
      t'.sightings[m]? = t.sightings[m]?.map fun s => if number = m then f s else s)
    (found' : ∀ m : Nat,
      u'.sightings[m]? = u.sightings[m]?.map fun s => if place = m then f s else s)
    (subscriptions : List.Forall₂ (Matches txid t u) (t'.feed.concernedBy txid)
      (u'.feed.concernedBy txid))
    (credits : u'.creditsOf txid = t'.creditsOf txid) : SameShare txid rates t' u' := by
  have numbers : t'.numbersOf txid = t.numbersOf txid := by
    refine numbersOf_of_outputs fun m => ?_
    rw [found]
    exact outputs_of_map (fun s => by split; exacts [mild.output s, rfl]) _
  have length : u'.sightings.length = u.sightings.length := by
    refine length_of_outputs fun m => ?_
    rw [found']
    exact outputs_of_map (fun s => by split; exacts [mild.output s, rfl]) _
  have both {place' number' : Nat} (there : (t.numbersOf txid)[place']? = some number') :
      number = number' ↔ place = place' := by
    constructor
    · rintro rfl
      exact (List.getElem?_inj (List.getElem?_eq_some_iff.mp here).1 (t.nodup_numbersOf txid)).mp
        (here.trans there.symm)
    · rintro rfl
      exact Option.some.inj (here.symm.trans there)
  refine ⟨left, right, ?_, ?_, ?_, ?_, ?_, credits⟩
  · have manner : t'.manner = t.manner := congrArg Prod.fst setting
    rw [manner]
    exact share.silent
  · rw [setting, setting', share.setting]
  · rw [length, numbers, share.length]
  · intro place' number' there
    rw [numbers] at there
    obtain ⟨s, s', old, old', alike⟩ := share.sightings place' number' there
    rw [found, found', old, old']
    refine ⟨_, _, rfl, rfl, ?_⟩
    simp only
    by_cases same : place = place'
    · rw [if_pos ((both there).mpr same), if_pos same]
      exact mild.resembles alike
    · rw [if_neg fun there' => same ((both there).mp there'), if_neg same]
      exact alike
  · refine subscriptions.imp fun sub sub' alike => ⟨alike.output, ?_⟩
    rintro id id' ⟨place', number', s, s', there, new, new', held, held'⟩
    rw [numbers] at there
    rw [found] at new
    rw [found'] at new'
    obtain ⟨s₀, old, rfl⟩ := Option.map_eq_some_iff.mp new
    obtain ⟨s₀', old', rfl⟩ := Option.map_eq_some_iff.mp new'
    refine alike.held id id' ⟨place', number', s₀, s₀', there, old, old', ?_, ?_⟩
    · split at held
      exacts [mild.fewer held, held]
    · split at held'
      exacts [mild.fewer held', held']

/-- A report reaches an open sighting in both trackers. -/
theorem reported (share : SameShare txid rates t u) {s s' : Sighting}
    (here : (t.numbersOf txid)[place]? = some number) (found : t.sightings[number]? = some s)
    (found' : u.sightings[place]? = some s') (isOpen : s.phase.isOpen = true)
    (confidence : Confidence) (height : Option Int) :
    SameShare txid rates
      ((t.noted [.reported number confidence height]).phased number
        (s.phase.advance confidence height))
      ((u.noted [.reported place confidence height]).phased place
        (s'.phase.advance confidence height)) := by
  have alike := share.resembles here found found'
  have isOpen' : s'.phase.isOpen = true := by
    rw [alike.phase]
    exact isOpen
  have noted : SameShare txid rates (t.noted [.reported number confidence height])
      (u.noted [.reported place confidence height]) :=
    share.noted (History.quiet_singleton rfl) (History.quiet_singleton rfl)
  have right := share.right.reported found' isOpen' confidence height
  rw [alike.phase] at right ⊢
  exact noted.changed here (Sighting.mild_phase _)
    (share.left.reported found isOpen confidence height) right rfl rfl
    (fun m => phased_getElem? _ number m _) (fun m => phased_getElem? _ place m _)
    noted.subscriptions noted.credits

/-- The subscriptions of sightings that have come to their end are given up. -/
theorem released (share : SameShare txid rates t u)
    (here : (t.numbersOf txid)[place]? = some number)
    (closed : ∀ s, t.sightings[number]? = some s → s.phase.isOpen = false) :
    SameShare txid rates (Run.after (release number) t) (Run.after (release place) u) := by
  obtain ⟨s, s', found, found', alike⟩ := share.sightings place number here
  have closed' : ∀ s, u.sightings[place]? = some s → s.phase.isOpen = false := by
    intro s₀ found₀
    rw [found'] at found₀
    cases found₀
    rw [alike.phase]
    exact closed s found
  refine share.changed here Sighting.mild_release (share.left.released closed)
    (share.right.released closed') (setting_release t number) (setting_release u place)
    (release_getElem? t number) (release_getElem? u place) ?_ ?_
  · cases held : s.subscription with
    | none =>
      have held' : s'.subscription = none := by
        rw [← Option.not_isSome_iff_eq_none, alike.holds, held]
        exact Bool.false_ne_true
      rw [after_release_none (by rw [found, Option.bind_some, held]),
        after_release_none (by rw [found', Option.bind_some, held'])]
      exact share.subscriptions
    | some id =>
      obtain ⟨id', held'⟩ : ∃ id', s'.subscription = some id' := by
        rw [← Option.isSome_iff_exists, alike.holds, held]
        rfl
      rw [concernedBy_release_some (by rw [found, Option.bind_some, held]),
        concernedBy_release_some (by rw [found', Option.bind_some, held'])]
      refine List.rel_filter (fun sub sub' alike => ?_) share.subscriptions
      have paired := alike.held id id' ⟨place, number, s, s', here, found, found', held, held'⟩
      simp only [share.manner, ne_eq, paired]
  · rw [creditsOf_of_credits (credits_release number t),
      creditsOf_of_credits (credits_release place u)]
    exact share.credits

/-- Sightings in the same place are credited with the same amount. -/
theorem credited (share : SameShare txid rates t u) {c c' : Credit} {total total' : Decimal}
    (here : (t.numbersOf txid)[c'.number]? = some c.number) (terms : c'.terms = c.terms)
    (left : (t.crediting c.number c.output c.height c.rate c.usd total).Regular rates)
    (right : (u.crediting c'.number c'.output c'.height c'.rate c'.usd total').Regular rates) :
    SameShare txid rates (t.crediting c.number c.output c.height c.rate c.usd total)
      (u.crediting c'.number c'.output c'.height c'.rate c'.usd total') := by
  refine share.changed here (Sighting.mild_phase .credited) left right rfl rfl
    (fun m => phased_getElem? _ c.number m _) (fun m => phased_getElem? _ c'.number m _)
    share.subscriptions ?_
  have output : c'.output = c.output := congrArg Prod.fst terms
  rw [creditsOf_crediting, creditsOf_crediting, share.credits, terms, output]

/-- What is held in the same place after a sighting begins was held before, or is new in both. -/
theorem paired_opening (share : SameShare txid rates t u) {output : Output}
    (own : output.outpoint.txid = txid) {id id' : Nat}
    (paired : Paired txid (t.opening output) (u.opening output) id id') :
    Paired txid t u id id' ∨ t.handle? output = some id ∧ u.handle? output = some id' := by
  obtain ⟨place, number, s, s', here, found, found', held, held'⟩ := paired
  rw [numbersOf_opening, if_pos own, List.getElem?_append] at here
  rw [opening_sightings] at found found'
  split at here
  · rename_i before
    obtain ⟨s₀, s₀', old, old', -⟩ := share.sightings place number here
    rw [List.getElem?_append_left (List.getElem?_eq_some_iff.mp old).1] at found
    rw [List.getElem?_append_left (List.getElem?_eq_some_iff.mp old').1] at found'
    exact .inl ⟨place, number, s, s', here, found, found', held, held'⟩
  · rw [List.getElem?_singleton] at here
    split at here
    · have last : place = u.sightings.length := by
        rw [share.length]
        omega
      cases here
      rw [last] at found'
      rw [List.getElem?_concat_length] at found found'
      cases found
      cases found'
      exact .inr ⟨held, held'⟩
    · cases here

theorem matches_opening (share : SameShare txid rates t u) {output : Output}
    (own : output.outpoint.txid = txid) {sub sub' : Subscription Callback}
    (alike : Matches txid t u sub sub') (known : sub ∈ t.feed.subscriptions)
    (known' : sub' ∈ u.feed.subscriptions) :
    Matches txid (t.opening output) (u.opening output) sub sub' := by
  refine ⟨alike.output, fun id id' paired => ?_⟩
  rcases share.paired_opening own paired with old | ⟨fresh, fresh'⟩
  · exact alike.held id id' old
  · rw [eq_of_handle? fresh, eq_of_handle? fresh']
    exact iff_of_false (Nat.ne_of_lt (share.left.wired.numbered sub known))
      (Nat.ne_of_lt (share.right.wired.numbered sub' known'))

/-- The new subscriptions are held by the new sightings, and by no others. -/
theorem matches_new (share : SameShare txid rates t u) {output : Output}
    (own : output.outpoint.txid = txid) :
    Matches txid (t.opening output) (u.opening output)
      ⟨t.feed.nextId, output.outpoint, .confidence output.outpoint⟩
      ⟨u.feed.nextId, output.outpoint, .confidence output.outpoint⟩ := by
  refine ⟨rfl, fun id id' paired => ?_⟩
  rcases share.paired_opening own paired with old | ⟨fresh, fresh'⟩
  · obtain ⟨place, number, s, s', -, found, found', held, held'⟩ := old
    exact iff_of_false (Nat.ne_of_gt (share.left.wired.held number s id found held).used)
      (Nat.ne_of_gt (share.right.wired.held place s' id' found' held').used)
  · exact iff_of_true (eq_of_handle? fresh).symm (eq_of_handle? fresh').symm

/-- A sighting of the transaction begins in both trackers. -/
theorem opened (share : SameShare txid rates t u) {output : Output}
    (own : output.outpoint.txid = txid) (new : t.isProcessed output.outpoint = false)
    (watched : t.feed.isWatched output.address = true)
    (unknown : t.open? output.outpoint = none) :
    SameShare txid rates (t.opening output) (u.opening output) := by
  have unknown' : u.open? output.outpoint = none := by
    rcases share.open? own with ⟨-, unknown'⟩ | ⟨number, place, known, -⟩
    · exact unknown'
    · rw [unknown] at known
      cases known
  refine ⟨share.left.opened new watched unknown,
    share.right.opened ((share.isProcessed own).trans new)
      ((share.isWatched output.address).trans watched) unknown', ?_, ?_, ?_, ?_, ?_, ?_⟩
  · have manner : (t.opening output).manner = t.manner :=
      congrArg Prod.fst (setting_opening t output)
    rw [manner]
    exact share.silent
  · rw [setting_opening, setting_opening, share.setting]
  · rw [opening_sightings, numbersOf_opening, if_pos own, List.length_append, List.length_append,
      share.length]
    rfl
  · intro place number here
    rw [numbersOf_opening, if_pos own, List.getElem?_append] at here
    rw [opening_sightings, opening_sightings]
    split at here
    · obtain ⟨s, s', old, old', alike⟩ := share.sightings place number here
      refine ⟨s, s', ?_, ?_, alike⟩
      · rw [List.getElem?_append_left (List.getElem?_eq_some_iff.mp old).1, old]
      · rw [List.getElem?_append_left (List.getElem?_eq_some_iff.mp old').1, old']
    · rw [List.getElem?_singleton] at here
      split at here
      · have last : place = u.sightings.length := by
          rw [share.length]
          omega
        cases here
        rw [last, List.getElem?_concat_length, List.getElem?_concat_length]
        refine ⟨_, _, rfl, rfl, rfl, rfl, ?_⟩
        unfold handle?
        split <;> rfl
      · cases here
  · have kept : List.Forall₂ (Matches txid (t.opening output) (u.opening output))
        (t.feed.concernedBy txid) (u.feed.concernedBy txid) := by
      refine List.forall₂_iff_zip.mpr ⟨share.subscriptions.length_eq, fun inside => ?_⟩
      obtain ⟨known, known'⟩ := List.of_mem_zip inside
      exact share.matches_opening own (List.forall₂_zip share.subscriptions inside)
        (List.mem_filter.mp known).1 (List.mem_filter.mp known').1
    rw [opening_feed, opening_feed]
    split
    · rw [Feed.concernedBy_subscribe, Feed.concernedBy_subscribe, if_pos own, if_pos own]
      exact List.rel_append kept (.cons (share.matches_new own) .nil)
    · exact kept
  · rw [creditsOf_of_credits (credits_opening t output),
      creditsOf_of_credits (credits_opening u output), share.credits]

/-- An address is watched by both trackers. -/
theorem watched (share : SameShare txid rates t u) (new : Watched) :
    SameShare txid rates { t with feed := (t.feed.watch new).1 }
      { u with feed := (u.feed.watch new).1 } where
  left := share.left.watched new
  right := share.right.watched new
  silent := share.silent
  setting := by
    have watched : u.feed.watched = t.feed.watched := congrArg (·.2.1) share.setting
    have receivers : u.feed.receivers = t.feed.receivers := congrArg (·.2.2) share.setting
    unfold Tracking.setting
    rw [share.manner, Feed.watch_watched watched, Feed.watch_receivers, Feed.watch_receivers,
      receivers]
  length := share.length
  sightings := share.sightings
  subscriptions := by
    unfold Feed.concernedBy
    rw [Feed.watch_subscriptions, Feed.watch_subscriptions]
    exact share.subscriptions.imp fun _ _ alike => ⟨alike.output, alike.held⟩
  credits := share.credits

/-- What lies outside changes for both trackers. -/
theorem exchanged (share : SameShare txid rates t u) (other : ω) :
    SameShare txid other { t with outside := other } { u with outside := other } where
  left := share.left.exchanged other
  right := share.right.exchanged other
  silent := share.silent
  setting := share.setting
  length := share.length
  sightings := share.sightings
  subscriptions := share.subscriptions.imp fun _ _ alike => ⟨alike.output, alike.held⟩
  credits := share.credits

end SameShare

end Tracking

end Paywatch
