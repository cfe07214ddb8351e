import Paywatch.Proofs.Payment.Tied

/-!
# Operations keep a tracker behind

The operations on outputs and those of the operator keep one tracker behind
another one, whatever the feed announces while it is subscribed to.  A sighting
begins in both trackers or in neither of them, and both try again whatever waits.
-/

namespace Paywatch

namespace Tracking

variable {early late : RateList} {p d : Tracking RateList}

/-! ## Sightings that begin -/

/-- A subscription is kept with a sighting in both trackers, or given up in both. -/
theorem Behind.kept (behind : Behind early late p d) {number id : Nat} {s : Sighting}
    (found : p.sightings[number]? = some s) (owns : p.Owns s.outpoint id)
    (owns' : d.Owns s.outpoint id) :
    Behind early late (Run.after (keep number id) p) (Run.after (keep number id) d) := by
  have held := behind.held found owns owns'
  have left := holding_getElem? p number number (some id)
  rw [found, Option.map_some, if_pos rfl] at left
  obtain ⟨s', right, -⟩ := held.found_right left
  rw [after_keep, after_keep, left, right, Option.map_some, Option.map_some]
  by_cases ended : s.phase = .discarded
  · have same := held.found_same left (by rw [ended]; exact fun same => by cases same)
    rw [right] at same
    cases same
    rw [if_pos (congrArg some ended), if_pos (congrArg some ended)]
    exact held.released left ended
  · have ended' : s'.phase ≠ .discarded := by
      rcases held.same number _ s' left right with rfl | credited
      · exact ended
      · rcases held.waiting left credited right with credited' | ⟨c, -, -, block, -⟩
        · rw [credited']
          exact fun same => by cases same
        · rw [block]
          exact fun same => by cases same
    rw [if_neg fun same => ended (Option.some.inj same),
      if_neg fun same => ended' (Option.some.inj same)]
    exact held

/-- Whatever happens between a subscription and the time when it is kept. -/
theorem Behind.kept_after (behind : Behind early late p d) {x : Run (Tracking RateList) PUnit}
    (tied : Tied x) (spanning : Spanning {} x) {number id : Nat} {s : Sighting}
    (found : p.sightings[number]? = some s) (owns : p.Owns s.outpoint id)
    (owns' : d.Owns s.outpoint id)
    (sound : (Run.after (x >>= fun _ => keep number id) p).Sound) :
    Joint early late (x >>= fun _ => keep number id) p (x >>= fun _ => keep number id) d := by
  obtain ⟨s', found', same, -⟩ := (spanning.moves p).kept found
  have output : s'.outpoint = s.outpoint := congrArg Output.outpoint same
  have kept : Moves (Run.after x p) (Run.after (x >>= fun _ => keep number id) p) := by
    rw [Run.after_bind]
    cases Run.outcome x p with
    | error failure => exact .refl
    | ok _ => exact moves_keep (List.getElem?_eq_some_iff.mp found').1 id
  have joint := tied behind (sound.before kept)
  exact joint.seq ⟨⟨(), outcome_keep ..⟩, ⟨(), outcome_keep ..⟩,
    joint.behind.kept found' (output ▸ (spanning.moves p).owns owns) (output ▸ (spanning.moves d).owns owns')⟩

theorem tied_announcing (t : Tracking RateList) (output : Outpoint) :
    Tied (announcing lookup t output) :=
  Tied.forM (fun _ => tied_announce _ _ _)
    (fun _ => (spanning_announce spanning_lookup _ _ _).discard) _

/-- Both trackers subscribe to an undecided output. -/
theorem Behind.followed {number : Nat} {s : Sighting} (wired : p.Wired) (wired' : d.Wired)
    (behind : Behind early late (p.subscribing s.outpoint) (d.subscribing s.outpoint))
    (found : p.sightings[number]? = some s)
    (sound : (Run.after (follow lookup number s.output) p).Sound) :
    Joint early late (follow lookup number s.output) p (follow lookup number s.output) d := by
  have ids : d.feed.nextId = p.feed.nextId := Nat.succ.inj behind.feeds.nextId
  have alike : announcing lookup d s.output.outpoint = announcing lookup p s.output.outpoint := by
    have manner : d.manner = p.manner := behind.feeds.manner
    unfold announcing
    rw [manner]
  obtain ⟨record, left⟩ := follow_eq lookup p number s.output
  obtain ⟨record', right⟩ := follow_eq lookup d number s.output
  rw [alike, ids] at right
  have owns := (wired.owns_next s.outpoint).of_fewer
    (u := (p.subscribing s.outpoint).noted [.logged record]) rfl fun _ inside => inside
  have owns' := (wired'.owns_next s.outpoint).of_fewer
    (u := (d.subscribing s.outpoint).noted [.logged record']) rfl fun _ inside => inside
  rw [ids] at owns'
  rw [left.after] at sound
  have joint := (behind.logged record record').kept_after (tied_announcing p _)
    (spanning_announcing spanning_lookup p _) found owns owns' sound
  exact joint.of_alike left right

/-- Both trackers see an output for the first time, or anew after it has been discarded. -/
theorem Behind.observed (behind : Behind early late p d) {output : Output}
    (new : p.isProcessed output.outpoint = false) (new' : d.isProcessed output.outpoint = false)
    (watched : p.feed.isWatched output.address = true)
    (unknown : p.open? output.outpoint = none) (unknown' : d.open? output.outpoint = none)
    (sound : (Run.after (observe lookup output) p).Sound) :
    Joint early late (observe lookup output) p (observe lookup output) d := by
  have sighted := behind.sighted new new' watched unknown unknown'
  have left := observe_eq lookup p output
  have right := observe_eq lookup d output
  rw [behind.length_eq] at right
  rw [left.after] at sound
  refine Joint.of_alike ?_ left right
  unfold sighting at sighted
  cases first : Phase.atFirst output.confidence output.height with
  | observed =>
    rw [if_pos first, if_pos first] at sighted
    rw [first] at sound
    let s : Sighting := ⟨output, Phase.atFirst output.confidence output.height, none⟩
    have found : (p.beginning output).sightings[p.sightings.length]? = some s := by
      rw [beginning, List.getElem?_concat_length]
    have wired := behind.left.wired.beginning output
    have wired' := behind.right.wired.beginning output
    exact Behind.followed (s := s) wired wired' sighted found sound
  | confirmed height =>
    have decided : Phase.atFirst output.confidence output.height ≠ .observed := by
      rw [first]
      exact fun same => by cases same
    rw [if_neg decided, if_neg decided] at sighted
    rw [first] at sound
    exact (tied_credit _).discard sighted sound
  | discarded =>
    have decided : Phase.atFirst output.confidence output.height ≠ .observed := by
      rw [first]
      exact fun same => by cases same
    rw [if_neg decided, if_neg decided] at sighted
    exact ⟨⟨(), rfl⟩, ⟨(), rfl⟩, sighted.logged _ _⟩
  | credited => exact absurd first (Phase.atFirst_ne_credited _ _)

/-! ## Reports of outputs -/

theorem tied_outputReceived (output : Output) : Tied (outputReceived lookup output) := by
  intro early late p d behind sound
  have alike : d.feed.isWatched output.address = p.feed.isWatched output.address :=
    behind.feeds.isWatched output.address
  cases watched : p.feed.isWatched output.address with
  | false =>
    have left := outputReceived_none lookup (.inr watched)
    have right := outputReceived_none lookup (.inr (alike.trans watched))
    exact (behind.joint_pure ()).of_alike left right
  | true =>
    have watched' := alike.trans watched
    cases processed : p.isProcessed output.outpoint with
    | true =>
      have left := outputReceived_none lookup (.inl processed)
      cases processed' : d.isProcessed output.outpoint with
      | true =>
        have right := outputReceived_none lookup (.inl processed')
        exact (behind.joint_pure ()).of_alike left right
      | false =>
        cases known : d.open? output.outpoint with
        | none => exact absurd known (behind.waiting_of_processed processed processed')
        | some number =>
          have right := outputReceived_known lookup processed' watched' known
          exact (behind.reacted_right processed known _ _).of_alike left right
    | false =>
      have processed' : d.isProcessed output.outpoint = false := by
        rw [Bool.eq_false_iff]
        intro before
        rw [behind.processed before] at processed
        cases processed
      have same := behind.open?_eq processed
      cases known : p.open? output.outpoint with
      | none =>
        have unknown := same.trans known
        have left := outputReceived_unknown lookup processed watched known
        have right := outputReceived_unknown lookup processed' watched' unknown
        rw [left.after] at sound
        exact (behind.observed processed processed' watched known unknown sound).of_alike left right
      | some number =>
        obtain ⟨s, found, isOpen, -⟩ := open?_found known
        have left := outputReceived_known lookup processed watched known
        have right := outputReceived_known lookup processed' watched' (same.trans known)
        rw [left.after] at sound
        exact (behind.reacted found isOpen _ _ sound).of_alike left right

/-- A step that looks at no more of the state than what both trackers have in common. -/
theorem Tied.of_get {β : Type} {f : Tracking RateList → Run (Tracking RateList) β}
    (same : ∀ {early late p d}, Behind early late p d → f d = f p) (tied : ∀ t, Tied (f t)) :
    Tied (do let t ← get; f t) := by
  intro early late p d behind sound
  have joint := tied p behind sound
  have right : Run.Alike (do let t ← get; f t) d (f p) d := by
    rw [← same behind]
    exact ⟨rfl, rfl⟩
  exact joint.of_alike ⟨rfl, rfl⟩ right

theorem tied_receive (outputs : List Output) : Tied (receive lookup outputs) := by
  unfold receive Feed.deliver
  apply Tied.of_get
  · intro early late p d behind
    have concerns : d.feed.concerns outputs = p.feed.concerns outputs := by
      unfold Feed.concerns
      simp only [behind.feeds.isWatched]
    have deliveries : d.feed.deliveries outputs = p.feed.deliveries outputs := by
      unfold Feed.deliveries
      rw [behind.feeds.receivers]
    simp only [concerns, deliveries]
  · intro t
    simp only
    split
    · refine Tied.seq (Tied.forM (fun delivery => ?_) (fun delivery => ?_) _) (tied_pure _)
        (spanning_pure _)
      · cases delivery.1 with
        | received => exact tied_outputReceived delivery.2
        | confidence output => exact tied_pure _
      · cases delivery.1 with
        | received => exact spanning_outputReceived spanning_lookup delivery.2 trivial
        | confidence output => exact spanning_pure _
    · exact tied_pure _

/-! ## What the operator does -/

theorem tied_addAddress (address : String) (since : Int) :
    Tied (addAddress address since : Run (Tracking RateList) Unit) := by
  intro early late p d behind sound
  have watched (record record' : LogRecord) :=
    (behind.logged record record').watched ⟨address, since, Feed.defaultCurrency⟩
  exact ⟨⟨(), rfl⟩, ⟨(), rfl⟩, (watched _ _).logged _ _⟩

/-- What waits in both trackers is tried again in both. -/
theorem Behind.retried (behind : Behind early late p d)
    (sound : (Run.after (p.awaitingCredit.forM fun number =>
      discard (credit lookup number)) p).Sound) :
    Joint early late (p.awaitingCredit.forM fun number => discard (credit lookup number)) p
      (d.awaitingCredit.forM fun number => discard (credit lookup number)) d := by
  let live (number : Nat) : Bool :=
    !(p.sightings[number]?.any fun s => decide (s.phase = .credited))
  have same : d.awaitingCredit.filter live = p.awaitingCredit.filter live := by
    rw [awaitingCredit_eq, awaitingCredit_eq, behind.length_eq, List.filter_filter,
      List.filter_filter]
    apply List.filter_congr
    intro number inside
    rw [List.mem_range] at inside
    have found : p.sightings[number]? = some p.sightings[number] := List.getElem?_eq_getElem inside
    generalize p.sightings[number] = s at found
    by_cases credited : s.phase = .credited
    · simp only [live, found, Option.any_some, decide_eq_true credited, Bool.not_true,
        Bool.false_and]
    · rw [behind.found_same found credited, found]
  have idle : ∀ number, live number = false → ∀ u, Moves p u →
      Run.Alike (discard (credit lookup number)) u (pure ()) u := by
    intro number dead u moves
    obtain ⟨s, found, credited⟩ : ∃ s, p.sightings[number]? = some s ∧ s.phase = .credited := by
      cases found : p.sightings[number]? with
      | none => simp only [live, found, Option.any_none, Bool.not_false, Bool.true_eq_false] at dead
      | some s =>
        simp only [live, found, Option.any_some, Bool.not_eq_false', decide_eq_true_eq] at dead
        exact ⟨s, rfl, dead⟩
    obtain ⟨s', found', output, -⟩ := moves.kept found
    have processed := moves.isProcessed (behind.left.orderly.processed number s found credited)
    exact credit_idle found' (by rw [Sighting.outpoint, output]; exact processed)
  have spanning (number : Nat) : Spanning {} (discard (credit lookup number)) :=
    (spanning_credit spanning_lookup number).discard
  have tied (number : Nat) : Tied (discard (credit lookup number)) := (tied_credit number).discard
  exact behind.forM_live spanning tied idle same sound

theorem tied_retry : Tied (discard (retry lookup)) := by
  intro early late p d behind sound
  obtain ⟨events, quiet, left⟩ := retry_eq lookup p
  obtain ⟨events', quiet', right⟩ := retry_eq lookup d
  rw [left.after] at sound
  exact (((behind.noted_left quiet).noted_right quiet').retried sound).of_alike left right

/-! ## Operations -/

/-- Every operation keeps a tracker behind another one. -/
theorem Operation.tied_perform (operation : Operation) : Tied (operation.perform lookup) := by
  cases operation with
  | addAddress address since => exact tied_addAddress address since
  | receive outputs => exact (tied_receive outputs).discard
  | output reported => exact tied_outputReceived reported
  | announce txid confidence height => exact tied_announce txid confidence height
  | callback outpoint confidence height => exact tied_confidenceChanged outpoint confidence height
  | retry => exact tied_retry

end Tracking

end Paywatch
