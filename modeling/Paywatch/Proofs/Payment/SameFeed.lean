import Paywatch.Proofs.Payment.Wiring

/-!
# Feeds that call alike

Two trackers are called alike when their feeds differ only in subscriptions on
outputs that the first one has in its ledger.  A call about such an output is of
no concern to the first tracker.
-/

namespace Paywatch

namespace Feed

variable {κ : Type}

/-- Subscriptions that do not count may be given up. -/
theorem filter_unsubscribe (feed : Feed κ) {id : Nat} {counts : Subscription κ → Bool}
    (idle : ∀ sub ∈ feed.subscriptions, sub.id = id → counts sub = false) :
    (feed.unsubscribe id).subscriptions.filter counts = feed.subscriptions.filter counts := by
  rw [unsubscribe, List.filter_filter]
  apply List.filter_congr
  intro sub inside
  by_cases here : sub.id = id
  · simp [here, idle sub inside here]
  · simp [here]

theorem filter_unsubscribe_comm (feed : Feed κ) (id : Nat) (counts : Subscription κ → Bool) :
    (feed.unsubscribe id).subscriptions.filter counts =
      (feed.subscriptions.filter counts).filter (·.id ≠ id) := by
  rw [unsubscribe, List.filter_filter, List.filter_filter]
  apply List.filter_congr
  intro sub _
  exact Bool.and_comm _ _

/-- Which addresses are watched next depends on those that are watched. -/
theorem watch_watched {feed feed' : Feed κ} (same : feed'.watched = feed.watched) (new : Watched) :
    (feed'.watch new).1.watched = (feed.watch new).1.watched := by
  simp only [watch, entry?, same]
  split
  · rfl
  · split
    · exact same
    · rfl

end Feed

namespace Tracking

variable {ω : Type} {p p' d d' : Tracking ω}

/-- Is the subscription on an output that is not in the ledger? -/
def follows (t : Tracking ω) (sub : Subscription Callback) : Bool :=
  !t.isProcessed sub.output

theorem follows_of_ledger (ledger : p'.ledger = p.ledger) : p'.follows = p.follows := by
  funext sub
  rw [follows, follows, isProcessed, isProcessed, ledger]

/-- Feeds that differ only in subscriptions on outputs that the first tracker has credited. -/
structure SameFeed (p d : Tracking ω) : Prop where
  manner : d.manner = p.manner
  watched : d.feed.watched = p.feed.watched
  receivers : d.feed.receivers = p.feed.receivers
  nextId : d.feed.nextId = p.feed.nextId
  followed : d.feed.subscriptions.filter p.follows = p.feed.subscriptions.filter p.follows

namespace SameFeed

theorem refl (p : Tracking ω) : p.SameFeed p :=
  ⟨rfl, rfl, rfl, rfl, rfl⟩

/-- Nothing changes in the feeds. -/
theorem of_same (feeds : p.SameFeed d) (ledger : p'.ledger = p.ledger)
    (manner : p'.manner = p.manner) (feed : p'.feed = p.feed) (manner' : d'.manner = d.manner)
    (feed' : d'.feed = d.feed) : p'.SameFeed d' := by
  refine ⟨?_, ?_, ?_, ?_, ?_⟩
  · rw [manner, manner', feeds.manner]
  · rw [feed, feed', feeds.watched]
  · rw [feed, feed', feeds.receivers]
  · rw [feed, feed', feeds.nextId]
  · rw [follows_of_ledger ledger, feed, feed', feeds.followed]

/-- More outputs are in the ledger. -/
theorem of_more (feeds : p.SameFeed d)
    (more : ∀ output, p.isProcessed output = true → p'.isProcessed output = true)
    (manner : p'.manner = p.manner) (feed : p'.feed = p.feed) : p'.SameFeed d := by
  have both : p'.follows = fun sub => p'.follows sub && p.follows sub := by
    funext sub
    unfold follows
    cases before : p.isProcessed sub.output with
    | true => rw [more _ before]; rfl
    | false => exact (Bool.and_true _).symm
  refine ⟨?_, ?_, ?_, ?_, ?_⟩
  · rw [manner, feeds.manner]
  · rw [feed, feeds.watched]
  · rw [feed, feeds.receivers]
  · rw [feed, feeds.nextId]
  · rw [both, ← List.filter_filter, ← List.filter_filter, feed, feeds.followed]

/-! ## Subscriptions that are given up -/

theorem cancelling_left (feeds : p.SameFeed d) {id : Nat}
    (idle : ∀ sub ∈ p.feed.subscriptions, sub.id = id → p.follows sub = false) :
    (p.cancelling id).SameFeed d := by
  unfold cancelling
  split
  · exact feeds
  · refine ⟨feeds.manner, feeds.watched, feeds.receivers, feeds.nextId, ?_⟩
    exact feeds.followed.trans (Feed.filter_unsubscribe p.feed idle).symm

theorem cancelling_right (feeds : p.SameFeed d) {id : Nat}
    (idle : ∀ sub ∈ d.feed.subscriptions, sub.id = id → p.follows sub = false) :
    p.SameFeed (d.cancelling id) := by
  unfold cancelling
  split
  · exact feeds
  · refine ⟨feeds.manner, feeds.watched, feeds.receivers, feeds.nextId, ?_⟩
    exact (Feed.filter_unsubscribe d.feed idle).trans feeds.followed

theorem cancelling_both (feeds : p.SameFeed d) (id : Nat) :
    (p.cancelling id).SameFeed (d.cancelling id) := by
  have keeps : d.manner.keepsCancelled = p.manner.keepsCancelled := by rw [feeds.manner]
  unfold cancelling
  rw [keeps]
  split
  · exact feeds
  · refine ⟨feeds.manner, feeds.watched, feeds.receivers, feeds.nextId, ?_⟩
    have followed := congrArg (List.filter fun sub => decide (sub.id ≠ id)) feeds.followed
    rw [← Feed.filter_unsubscribe_comm, ← Feed.filter_unsubscribe_comm] at followed
    exact followed

theorem release_left (feeds : p.SameFeed d) (wired : p.Wired) {number : Nat} {s : Sighting}
    (found : p.sightings[number]? = some s) (processed : p.isProcessed s.outpoint = true) :
    (Run.after (release number) p).SameFeed d := by
  cases held : p.sightings[number]?.bind (·.subscription) with
  | none =>
    rw [after_release_none held]
    exact feeds
  | some id =>
    rw [after_release_some held]
    rw [found, Option.bind_some] at held
    have owns := wired.held number s id found held
    have given : ((p.holding number none).noted [.cancelled id]).SameFeed d :=
      feeds.of_same rfl rfl rfl rfl rfl
    refine given.cancelling_left fun sub inside here => ?_
    rw [follows, owns.output sub inside here]
    exact congrArg (!·) processed

theorem release_right (feeds : p.SameFeed d) (wired : d.Wired) {number : Nat} {s : Sighting}
    (found : d.sightings[number]? = some s) (processed : p.isProcessed s.outpoint = true) :
    p.SameFeed (Run.after (release number) d) := by
  cases held : d.sightings[number]?.bind (·.subscription) with
  | none =>
    rw [after_release_none held]
    exact feeds
  | some id =>
    rw [after_release_some held]
    rw [found, Option.bind_some] at held
    have owns := wired.held number s id found held
    have given : p.SameFeed ((d.holding number none).noted [.cancelled id]) :=
      feeds.of_same rfl rfl rfl rfl rfl
    refine given.cancelling_right fun sub inside here => ?_
    rw [follows, owns.output sub inside here]
    exact congrArg (!·) processed

theorem release_both (feeds : p.SameFeed d) {number : Nat}
    (same : d.sightings[number]? = p.sightings[number]?) :
    (Run.after (release number) p).SameFeed (Run.after (release number) d) := by
  cases held : p.sightings[number]?.bind (·.subscription) with
  | none =>
    rw [after_release_none held, after_release_none (by rw [same]; exact held)]
    exact feeds
  | some id =>
    rw [after_release_some held, after_release_some (by rw [same]; exact held)]
    have given : ((p.holding number none).noted [.cancelled id]).SameFeed
        ((d.holding number none).noted [.cancelled id]) :=
      feeds.of_same rfl rfl rfl rfl rfl
    exact given.cancelling_both id

/-! ## Subscriptions and addresses that are new -/

theorem subscribing (feeds : p.SameFeed d) (output : Outpoint) :
    (p.subscribing output).SameFeed (d.subscribing output) := by
  refine ⟨feeds.manner, feeds.watched, feeds.receivers, congrArg (· + 1) feeds.nextId, ?_⟩
  have same : (p.subscribing output).follows = p.follows := follows_of_ledger rfl
  rw [same]
  simp only [Tracking.subscribing, Feed.subscribe, List.filter_append, feeds.followed, feeds.nextId]

theorem sighting (feeds : p.SameFeed d) (output : Output) :
    (p.sighting output).SameFeed (d.sighting output) := by
  have begun : (p.beginning output).SameFeed (d.beginning output) :=
    feeds.of_same rfl rfl rfl rfl rfl
  unfold Tracking.sighting
  split
  · exact begun.subscribing output.outpoint
  · exact begun

theorem isWatched (feeds : p.SameFeed d) (address : String) :
    d.feed.isWatched address = p.feed.isWatched address := by
  unfold Feed.isWatched Feed.entry?
  rw [feeds.watched]

theorem watch (feeds : p.SameFeed d) (new : Watched) :
    SameFeed { p with feed := (p.feed.watch new).1 } { d with feed := (d.feed.watch new).1 } := by
  refine ⟨feeds.manner, Feed.watch_watched feeds.watched new, ?_, ?_, ?_⟩
  · rw [Feed.watch_receivers, Feed.watch_receivers, feeds.receivers]
  · rw [Feed.watch_nextId, Feed.watch_nextId, feeds.nextId]
  · have same : ({ p with feed := (p.feed.watch new).1 } : Tracking ω).follows = p.follows :=
      follows_of_ledger rfl
    rw [same, Feed.watch_subscriptions, Feed.watch_subscriptions, feeds.followed]

end SameFeed

end Tracking

end Paywatch
