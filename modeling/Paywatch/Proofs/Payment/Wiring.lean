import Paywatch.Proofs.Payment.Settled

/-!
# Subscriptions and their sightings

Every subscription of the tracker calls it about the output that it is on.  The
numbers are used once, so that the one that a sighting holds is on its output,
whatever else is subscribed to later.
-/

namespace Paywatch

namespace Tracking

variable {ω : Type} {t u : Tracking ω} {output : Outpoint} {id : Nat}

/-! ## The feed after a move -/

theorem cancelling_feed (t : Tracking ω) (id : Nat) :
    (t.cancelling id).feed =
      if t.manner.keepsCancelled then t.feed else t.feed.unsubscribe id := by
  unfold cancelling
  split <;> rfl

theorem mem_cancelling {sub : Subscription Callback}
    (inside : sub ∈ (t.cancelling id).feed.subscriptions) : sub ∈ t.feed.subscriptions := by
  rw [cancelling_feed] at inside
  split at inside
  · exact inside
  · exact (List.mem_filter.mp inside).1

theorem cancelling_nextId (t : Tracking ω) (id : Nat) :
    (t.cancelling id).feed.nextId = t.feed.nextId := by
  rw [cancelling_feed]
  split <;> rfl

theorem sighting_feed (t : Tracking ω) (output : Output) :
    (t.sighting output).feed = t.feed ∨
      (t.sighting output).feed = (t.subscribing output.outpoint).feed := by
  unfold sighting
  split
  · exact .inr rfl
  · exact .inl rfl

/-! ## Numbers -/

/-- A number has been used, and a subscription of this number is on an output. -/
structure Owns (t : Tracking ω) (output : Outpoint) (id : Nat) : Prop where
  used : id < t.feed.nextId
  output : ∀ sub ∈ t.feed.subscriptions, sub.id = id → sub.output = output

theorem Owns.of_fewer (owns : t.Owns output id) (next : u.feed.nextId = t.feed.nextId)
    (fewer : ∀ sub ∈ u.feed.subscriptions, sub ∈ t.feed.subscriptions) : u.Owns output id where
  used := by rw [next]; exact owns.used
  output := fun sub inside => owns.output sub (fewer sub inside)

theorem Owns.subscribing (owns : t.Owns output id) (other : Outpoint) :
    (t.subscribing other).Owns output id where
  used := Nat.lt_succ_of_lt owns.used
  output := by
    intro sub inside same
    rcases List.mem_append.mp inside with old | new
    · exact owns.output sub old same
    · rw [List.mem_singleton.mp new] at same
      exact absurd owns.used (same ▸ Nat.lt_irrefl _)

/-- A number stays with its output. -/
theorem Move.owns (move : Move t u) (owns : t.Owns output id) : u.Owns output id := by
  cases move with
  | logged | outside | held | reported | asked | answered | credited | unsummed =>
    exact owns.of_fewer rfl fun _ inside => inside
  | watched new =>
    refine owns.of_fewer (Feed.watch_nextId _ _) fun sub inside => ?_
    rw [Feed.watch_subscriptions] at inside
    exact inside
  | cancelled number given =>
    have before : ((t.holding number none).noted [.cancelled given]).Owns output id :=
      owns.of_fewer rfl fun _ inside => inside
    exact before.of_fewer (cancelling_nextId _ given) fun _ inside => mem_cancelling inside
  | sighted other =>
    rcases sighting_feed t other with same | more
    · refine owns.of_fewer (by rw [same]) fun sub inside => ?_
      rw [same] at inside
      exact inside
    · have more' := owns.subscribing other.outpoint
      exact more'.of_fewer (by rw [more]) fun sub inside => by rw [more] at inside; exact inside

theorem Moves.owns (moves : Moves t u) (owns : t.Owns output id) : u.Owns output id := by
  induction moves with
  | refl => exact owns
  | tail _ move ih => exact move.owns ih

/-! ## Wiring -/

/-- Subscriptions are numbered, call about their outputs, and are held by sightings of them. -/
structure Wired (t : Tracking ω) : Prop where
  numbered : ∀ sub ∈ t.feed.subscriptions, sub.id < t.feed.nextId
  callback : ∀ sub ∈ t.feed.subscriptions, sub.callback = .confidence sub.output
  held : ∀ (number : Nat) (s : Sighting) (id : Nat), t.sightings[number]? = some s →
    s.subscription = some id → t.Owns s.outpoint id

theorem wired_start (manner : FeedManner) (outside : ω) : (start manner outside).Wired where
  numbered := fun _ inside => by cases inside
  callback := fun _ inside => by cases inside
  held := fun _ _ _ found => by cases found

namespace Wired

/-- Fewer subscriptions, and no other ones that are held. -/
theorem of_fewer (wired : t.Wired) (next : u.feed.nextId = t.feed.nextId)
    (fewer : ∀ sub ∈ u.feed.subscriptions, sub ∈ t.feed.subscriptions)
    (held : ∀ (number : Nat) (s' : Sighting) (id : Nat), u.sightings[number]? = some s' →
      s'.subscription = some id →
      ∃ s, t.sightings[number]? = some s ∧ s.output = s'.output ∧ s.subscription = some id) :
    u.Wired := by
  refine ⟨?_, ?_, ?_⟩
  · intro sub inside
    rw [next]
    exact wired.numbered sub (fewer sub inside)
  · intro sub inside
    exact wired.callback sub (fewer sub inside)
  · intro number s' id found' subscribed
    obtain ⟨s, found, same, subscribed'⟩ := held number s' id found' subscribed
    have owns := wired.held number s id found subscribed'
    rw [Sighting.outpoint, same] at owns
    exact owns.of_fewer next fewer

theorem of_same (wired : t.Wired) (feed : u.feed = t.feed) (sightings : u.sightings = t.sightings) :
    u.Wired := by
  refine wired.of_fewer (by rw [feed]) (fun sub inside => by rw [feed] at inside; exact inside) ?_
  intro number s id found subscribed
  rw [sightings] at found
  exact ⟨s, found, rfl, subscribed⟩

theorem phased (wired : t.Wired) (number : Nat) (phase : Phase) :
    (t.phased number phase).Wired := by
  refine wired.of_fewer rfl (fun _ inside => inside) ?_
  intro m s' id found' subscribed
  rw [phased_getElem?] at found'
  obtain ⟨s, found, rfl⟩ := Option.map_eq_some_iff.mp found'
  refine ⟨s, found, ?_⟩
  split at subscribed
  · rename_i here
    rw [if_pos here]
    exact ⟨rfl, subscribed⟩
  · rename_i elsewhere
    rw [if_neg elsewhere]
    exact ⟨rfl, subscribed⟩

theorem crediting (wired : t.Wired) (number : Nat) (output : Output) (height : Int)
    (rate usd total : Decimal) :
    (t.crediting number output height rate usd total).Wired := by
  have entered : ((t.entering output.outpoint total).noted
      [.credited number output height rate usd]).Wired := wired.of_same rfl rfl
  exact entered.phased number .credited

theorem holding_none (wired : t.Wired) (number : Nat) : (t.holding number none).Wired := by
  refine wired.of_fewer rfl (fun _ inside => inside) ?_
  intro m s' id found' subscribed
  rw [holding_getElem?] at found'
  obtain ⟨s, found, rfl⟩ := Option.map_eq_some_iff.mp found'
  refine ⟨s, found, ?_⟩
  split at subscribed
  · cases subscribed
  · rename_i elsewhere
    rw [if_neg elsewhere]
    exact ⟨rfl, subscribed⟩

theorem holding_some (wired : t.Wired) {number : Nat} {s : Sighting} {id : Nat}
    (found : t.sightings[number]? = some s) (owns : t.Owns s.outpoint id) :
    (t.holding number (some id)).Wired := by
  refine ⟨wired.numbered, wired.callback, ?_⟩
  intro m s' id' found' subscribed
  rw [holding_getElem?] at found'
  obtain ⟨s'', found'', rfl⟩ := Option.map_eq_some_iff.mp found'
  split at subscribed
  · rename_i here
    rw [here, found''] at found
    cases found
    cases subscribed
    rw [if_pos here]
    exact owns.of_fewer rfl fun _ inside => inside
  · rename_i elsewhere
    rw [if_neg elsewhere]
    exact (wired.held m s'' id' found'' subscribed).of_fewer rfl fun _ inside => inside

theorem cancelling (wired : t.Wired) (id : Nat) : (t.cancelling id).Wired := by
  refine wired.of_fewer (cancelling_nextId t id) (fun _ inside => mem_cancelling inside) ?_
  intro number s id' found subscribed
  rw [cancelling_sightings] at found
  exact ⟨s, found, rfl, subscribed⟩

theorem release (wired : t.Wired) (number : Nat) :
    (Run.after (Tracking.release number) t).Wired := by
  cases held : t.sightings[number]?.bind (·.subscription) with
  | none =>
    rw [after_release_none held]
    exact wired
  | some id =>
    rw [after_release_some held]
    have given : ((t.holding number none).noted [.cancelled id]).Wired :=
      (wired.holding_none number).of_same rfl rfl
    exact given.cancelling id

/-- A number that is used next. -/
theorem owns_next (wired : t.Wired) (output : Outpoint) :
    (t.subscribing output).Owns output t.feed.nextId where
  used := Nat.lt_succ_self _
  output := by
    intro sub inside same
    rcases List.mem_append.mp inside with old | new
    · exact absurd (wired.numbered sub old) (same ▸ Nat.lt_irrefl _)
    · rw [List.mem_singleton.mp new]

theorem subscribing (wired : t.Wired) (output : Outpoint) : (t.subscribing output).Wired := by
  refine ⟨?_, ?_, ?_⟩
  · intro sub inside
    rcases List.mem_append.mp inside with old | new
    · exact Nat.lt_succ_of_lt (wired.numbered sub old)
    · rw [List.mem_singleton.mp new]
      exact Nat.lt_succ_self _
  · intro sub inside
    rcases List.mem_append.mp inside with old | new
    · exact wired.callback sub old
    · rw [List.mem_singleton.mp new]
  · intro number s id found subscribed
    exact (wired.held number s id found subscribed).subscribing output

theorem beginning (wired : t.Wired) (output : Output) : (t.beginning output).Wired := by
  refine wired.of_fewer rfl (fun _ inside => inside) ?_
  intro number s id found subscribed
  rw [Tracking.beginning, List.getElem?_append] at found
  split at found
  · exact ⟨s, found, rfl, subscribed⟩
  · rw [List.getElem?_singleton] at found
    split at found
    · cases found
      cases subscribed
    · cases found

theorem sighting (wired : t.Wired) (output : Output) : (t.sighting output).Wired := by
  unfold Tracking.sighting
  split
  · exact (wired.beginning output).subscribing output.outpoint
  · exact wired.beginning output

end Wired

/-- An announcement tells every subscription on the transaction. -/
theorem announce_eq (ask : Int → Run (Tracking ω) Decimal) (wired : t.Wired) (txid : String)
    (confidence : Confidence) (height : Option Int) :
    Run.Alike (discard (announce ask txid confidence height)) t
      ((t.feed.concernedBy txid).forM fun sub =>
        confidenceChanged ask sub.output confidence height) t := by
  unfold announce
  refine (Feed.announce_eq _ _ txid t).of_eq (Run.forM_congr fun sub inside => ?_)
  rw [wired.callback sub (List.mem_filter.mp inside).1]

end Tracking

end Paywatch
