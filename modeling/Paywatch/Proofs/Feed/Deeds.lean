import Mathlib.Data.List.Induction
import Paywatch.Proofs.Feed.Earliest

/-!
# What a feed has been through

A feed changes in four ways only: an address is watched, a receiver is added, and a
subscription is made or given up.  Of all that was done to it, in the order in which
it was done, the feed keeps the receivers, the addresses that are watched, and the
subscriptions that have not been given up since they were made.
-/

namespace Paywatch

inductive FeedDeed (κ : Type) where
  | watched (new : Watched)
  | listened (callback : κ)
  | subscribed (output : Outpoint) (callback : κ)
  | unsubscribed (id : Nat)

namespace FeedDeed

variable {κ : Type}

def receiver? : FeedDeed κ → Option κ
  | listened callback => some callback
  | _ => none

def subscribes : FeedDeed κ → Bool
  | subscribed _ _ => true
  | _ => false

end FeedDeed

namespace Feed

variable {κ : Type}

/-- The feed after something is done to it. -/
def undergo (feed : Feed κ) : FeedDeed κ → Feed κ
  | .watched new => (feed.watch new).1
  | .listened callback => feed.addReceiver callback
  | .subscribed output callback => (feed.subscribe output callback).2
  | .unsubscribed id => feed.unsubscribe id

def throughout (feed : Feed κ) (deeds : List (FeedDeed κ)) : Feed κ :=
  deeds.foldl undergo feed

theorem throughout_append (feed : Feed κ) (earlier later : List (FeedDeed κ)) :
    feed.throughout (earlier ++ later) = (feed.throughout earlier).throughout later :=
  List.foldl_append

/-- What a new feed has become. -/
def reached (deeds : List (FeedDeed κ)) : Feed κ :=
  throughout {} deeds

theorem reached_concat (deeds : List (FeedDeed κ)) (deed : FeedDeed κ) :
    reached (deeds ++ [deed]) = (reached deeds).undergo deed :=
  throughout_append {} deeds [deed]

/-! ## Receivers and addresses -/

theorem undergo_receivers (feed : Feed κ) (deed : FeedDeed κ) :
    (feed.undergo deed).receivers = feed.receivers ++ deed.receiver?.toList := by
  cases deed with
  | watched new => exact (watch_receivers feed new).trans (List.append_nil _).symm
  | listened callback => rfl
  | subscribed output callback => exact (List.append_nil _).symm
  | unsubscribed id => exact (List.append_nil _).symm

/-- The receivers are those that were added, in the order in which they were added. -/
theorem receivers_reached (deeds : List (FeedDeed κ)) :
    (reached deeds).receivers = deeds.filterMap FeedDeed.receiver? := by
  induction deeds using List.reverseRecOn with
  | nil => rfl
  | append_singleton deeds deed ih =>
    rw [reached_concat, undergo_receivers, ih, List.filterMap_append]
    cases deed <;> rfl

theorem isWatched_undergo (feed : Feed κ) (deed : FeedDeed κ) (address : String) :
    (feed.undergo deed).isWatched address = true ↔
      (∃ new, deed = .watched new ∧ new.address = address) ∨ feed.isWatched address = true := by
  cases deed with
  | watched new =>
    refine (isWatched_watch_iff feed new address).trans (or_congr_left ⟨?_, ?_⟩)
    · intro same
      exact ⟨new, rfl, same⟩
    · rintro ⟨_, ⟨⟩, same⟩
      exact same
  | listened | subscribed | unsubscribed =>
    refine (or_iff_right ?_).symm
    rintro ⟨_, ⟨⟩, _⟩

/-- The addresses are those that a feed was asked to watch. -/
theorem isWatched_reached (deeds : List (FeedDeed κ)) (address : String) :
    (reached deeds).isWatched address = true ↔
      ∃ new, .watched new ∈ deeds ∧ new.address = address := by
  induction deeds using List.reverseRecOn with
  | nil =>
    refine ⟨nofun, ?_⟩
    rintro ⟨_, inside, _⟩
    cases inside
  | append_singleton deeds deed ih =>
    rw [reached_concat, isWatched_undergo, ih]
    simp only [List.mem_append, List.mem_singleton, or_and_right, exists_or, eq_comm (a := deed)]
    exact or_comm

/-! ## Subscriptions -/

/--
A subscription has been made and not been given up since then.  Its number says how many
were made up to it.
-/
def Live (deeds : List (FeedDeed κ)) (sub : Subscription κ) : Prop :=
  ∃ earlier later, deeds = earlier ++ .subscribed sub.output sub.callback :: later ∧
    sub.id = earlier.countP FeedDeed.subscribes + 1 ∧ .unsubscribed sub.id ∉ later

/-- What is done last makes a subscription, or gives one up, or leaves them all. -/
theorem live_concat (deeds : List (FeedDeed κ)) (deed : FeedDeed κ) (sub : Subscription κ) :
    Live (deeds ++ [deed]) sub ↔
      Live deeds sub ∧ deed ≠ .unsubscribed sub.id ∨
      deed = .subscribed sub.output sub.callback ∧
        sub.id = deeds.countP FeedDeed.subscribes + 1 := by
  constructor
  · rintro ⟨earlier, later, parts, number, kept⟩
    cases later using List.reverseRecOn with
    | nil =>
      obtain ⟨rfl, last⟩ := List.append_inj' parts rfl
      cases last
      exact .inr ⟨rfl, number⟩
    | append_singleton later last =>
      rw [← List.cons_append, ← List.append_assoc] at parts
      obtain ⟨rfl, last⟩ := List.append_inj' parts rfl
      cases last
      rw [List.mem_append, List.mem_singleton, not_or] at kept
      exact .inl ⟨⟨earlier, later, rfl, number, kept.1⟩, Ne.symm kept.2⟩
  · rintro (⟨⟨earlier, later, rfl, number, kept⟩, other⟩ | ⟨rfl, number⟩)
    · refine ⟨earlier, later ++ [deed], by simp, number, ?_⟩
      rw [List.mem_append, List.mem_singleton, not_or]
      exact ⟨kept, Ne.symm other⟩
    · exact ⟨deeds, [], rfl, number, List.not_mem_nil⟩

/-- The subscriptions are the live ones, by their numbers, and the next number is unused. -/
structure Subscribed (deeds : List (FeedDeed κ)) (feed : Feed κ) : Prop where
  nextId : feed.nextId = deeds.countP FeedDeed.subscribes + 1
  live : ∀ sub, sub ∈ feed.subscriptions ↔ Live deeds sub
  ordered : feed.subscriptions.Pairwise (·.id < ·.id)
  bounded : ∀ sub ∈ feed.subscriptions, sub.id < feed.nextId

theorem subscribed_nil : Subscribed [] ({} : Feed κ) where
  nextId := rfl
  live := by
    refine fun sub => ⟨nofun, ?_⟩
    rintro ⟨earlier, later, parts, -⟩
    cases earlier <;> cases parts
  ordered := List.Pairwise.nil
  bounded := nofun

namespace Subscribed

variable {deeds : List (FeedDeed κ)} {feed : Feed κ}

/-- Neither addresses nor receivers change the subscriptions. -/
theorem spare (subscribed : Subscribed deeds feed) {other : Feed κ} {deed : FeedDeed κ}
    (subscriptions : other.subscriptions = feed.subscriptions)
    (nextId : other.nextId = feed.nextId) (makes : deed.subscribes = false)
    (gives : ∀ id, deed ≠ .unsubscribed id) : Subscribed (deeds ++ [deed]) other where
  nextId := by
    rw [nextId, subscribed.nextId, List.countP_append, List.countP_singleton, makes]
    rfl
  live := by
    intro sub
    rw [subscriptions, subscribed.live, live_concat]
    refine ⟨fun live => .inl ⟨live, gives _⟩, ?_⟩
    rintro (⟨live, -⟩ | ⟨rfl, -⟩)
    · exact live
    · cases makes
  ordered := subscriptions ▸ subscribed.ordered
  bounded := by
    rw [subscriptions, nextId]
    exact subscribed.bounded

theorem subscribe (subscribed : Subscribed deeds feed) (output : Outpoint) (callback : κ) :
    Subscribed (deeds ++ [.subscribed output callback]) (feed.subscribe output callback).2 where
  nextId := by
    rw [List.countP_append]
    exact congrArg (· + 1) subscribed.nextId
  live := by
    intro sub
    change sub ∈ feed.subscriptions ++ [⟨feed.nextId, output, callback⟩] ↔ _
    rw [List.mem_append, List.mem_singleton, subscribed.live, live_concat, subscribed.nextId]
    refine or_congr (and_iff_left nofun).symm ?_
    cases sub
    simp only [Subscription.mk.injEq, FeedDeed.subscribed.injEq]
    tauto
  ordered := by
    refine List.pairwise_append.mpr ⟨subscribed.ordered, List.pairwise_singleton _ _, ?_⟩
    intro sub inside new last
    rw [List.mem_singleton.mp last]
    exact subscribed.bounded sub inside
  bounded := by
    intro sub inside
    rcases List.mem_append.mp inside with before | last
    · exact (subscribed.bounded sub before).trans (Nat.lt_succ_self _)
    · rw [List.mem_singleton.mp last]
      exact Nat.lt_succ_self _

theorem unsubscribe (subscribed : Subscribed deeds feed) (id : Nat) :
    Subscribed (deeds ++ [.unsubscribed id]) (feed.unsubscribe id) where
  nextId := by
    rw [List.countP_append]
    exact subscribed.nextId
  live := by
    intro sub
    rw [live_concat, ← subscribed.live, or_iff_left nofun]
    change sub ∈ feed.subscriptions.filter (·.id ≠ id) ↔ _
    rw [List.mem_filter, decide_eq_true_iff, Ne, Ne, FeedDeed.unsubscribed.injEq, eq_comm]
  ordered := subscribed.ordered.filter _
  bounded := fun sub inside => subscribed.bounded sub (List.mem_of_mem_filter inside)

theorem undergo (subscribed : Subscribed deeds feed) (deed : FeedDeed κ) :
    Subscribed (deeds ++ [deed]) (feed.undergo deed) := by
  cases deed with
  | watched new =>
    exact subscribed.spare (watch_subscriptions feed new) (watch_nextId feed new) rfl
      (fun _ => nofun)
  | listened callback => exact subscribed.spare rfl rfl rfl (fun _ => nofun)
  | subscribed output callback => exact subscribed.subscribe output callback
  | unsubscribed id => exact subscribed.unsubscribe id

theorem reached (deeds : List (FeedDeed κ)) : Subscribed deeds (reached deeds) := by
  induction deeds using List.reverseRecOn with
  | nil => exact subscribed_nil
  | append_singleton deeds deed ih =>
    rw [reached_concat]
    exact ih.undergo deed

end Subscribed

end Feed

end Paywatch
