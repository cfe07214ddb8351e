import Mathlib.Data.List.Induction
import Paywatch.Proofs.Feed.Earliest

/-!
# The order of the watched addresses

An address is entered when it is asked for first and keeps its place from then on.
Its entry is the first of those that were asked for it with its earliest time.  So
only an earlier time changes what is paid to it, and asking again for what was
asked for changes nothing.
-/

namespace Paywatch

namespace Feed

variable {κ : Type}

def watchAll (feed : Feed κ) (asked : List Watched) : Feed κ :=
  asked.foldl (fun feed new => (feed.watch new).1) feed

theorem watchAll_concat (feed : Feed κ) (asked : List Watched) (new : Watched) :
    feed.watchAll (asked ++ [new]) = ((feed.watchAll asked).watch new).1 := by
  rw [watchAll, List.foldl_append]
  rfl

/-- Addresses that are watched stay so, whatever else is asked for. -/
theorem isWatched_watchAll (feed : Feed κ) (later : List Watched) {address : String}
    (watched : feed.isWatched address = true) : (feed.watchAll later).isWatched address = true := by
  induction later generalizing feed with
  | nil => exact watched
  | cons new later ih => exact ih _ (isWatched_watch feed new watched)

/-! ## The entry of an address -/

/-- The entry is the first that was asked for its address with the earliest time. -/
structure Stands (asked : List Watched) (entry : Watched) : Prop where
  first : asked.find? (fun new => new.address == entry.address && new.since == entry.since) =
    some entry
  earliest : ∀ new ∈ asked, new.address = entry.address → entry.since ≤ new.since

namespace Stands

variable {asked : List Watched} {entry : Watched}

theorem mem (stands : Stands asked entry) : entry ∈ asked :=
  List.mem_of_find?_eq_some stands.first

/-- An entry stands while no earlier time is asked for. -/
theorem concat (stands : Stands asked entry) {new : Watched}
    (late : new.address = entry.address → entry.since ≤ new.since) :
    Stands (asked ++ [new]) entry where
  first := by rw [List.find?_append, stands.first, Option.some_or]
  earliest := by
    intro other inside same
    rcases List.mem_append.mp inside with before | last
    · exact stands.earliest other before same
    · cases List.mem_singleton.mp last
      exact late same

/-- What is asked for with a time before all others stands. -/
theorem of_early {new : Watched}
    (early : ∀ old ∈ asked, old.address = new.address → new.since < old.since) :
    Stands (asked ++ [new]) new where
  first := by
    have other : asked.find? (fun old => old.address == new.address && old.since == new.since) =
        none := by
      rw [List.find?_eq_none]
      intro old inside same
      rw [Bool.and_eq_true, beq_iff_eq, beq_iff_eq] at same
      exact absurd same.2 (early old inside same.1).ne'
    rw [List.find?_append, other, Option.none_or, List.find?_singleton, if_pos (by simp)]
  earliest := by
    intro old inside same
    rcases List.mem_append.mp inside with before | last
    · exact (early old before same).le
    · rw [List.mem_singleton.mp last]

theorem isLeast (stands : Stands asked entry) :
    IsLeast {since | ∃ new ∈ asked, new.address = entry.address ∧ new.since = since}
      entry.since := by
  refine ⟨⟨entry, stands.mem, rfl, rfl⟩, ?_⟩
  rintro since ⟨new, inside, same, rfl⟩
  exact stands.earliest new inside same

end Stands

/-! ## The entries of all addresses -/

/-- The entries are those of the addresses that were asked for, in the order of the first time. -/
structure Registered (asked entries : List Watched) : Prop where
  nodup : (entries.map (·.address)).Nodup
  order : entries.map (·.address) = (asked.map (·.address)).eraseDups
  stands : ∀ entry ∈ entries, Stands asked entry

theorem registered_nil : Registered [] [] where
  nodup := List.nodup_nil
  order := List.eraseDups_nil.symm
  stands := fun _ inside => nomatch inside

/-- What is said once more at the end changes no order of first mention. -/
theorem eraseDups_concat (addresses : List String) (address : String) :
    (addresses ++ [address]).eraseDups =
      addresses.eraseDups ++ if address ∈ addresses then [] else [address] := by
  rw [List.eraseDups_append]
  by_cases known : address ∈ addresses <;> simp [List.removeAll, known, List.eraseDups_cons]

namespace Registered

variable {asked : List Watched} {feed : Feed κ}

theorem mem_addresses {entries : List Watched} (registered : Registered asked entries)
    (address : String) :
    address ∈ entries.map (·.address) ↔ ∃ new ∈ asked, new.address = address := by
  rw [registered.order, List.mem_eraseDups, List.mem_map]

/-- An address that is entered, or entered again with an earlier time. -/
theorem enter {entries : List Watched} (registered : Registered asked entries) (new : Watched)
    (early : ∀ old ∈ entries, old.address = new.address → new.since < old.since) :
    Registered (asked ++ [new]) (enter entries new) where
  nodup := nodup_enter registered.nodup new
  order := by
    rw [map_address_enter, List.map_append, List.map_singleton, eraseDups_concat, registered.order]
    simp only [List.mem_eraseDups]
  stands := by
    intro entry inside
    rcases mem_enter.mp inside with rfl | ⟨before, other⟩
    · refine .of_early fun old among same => ?_
      obtain ⟨standing, within, same'⟩ :=
        List.mem_map.mp ((registered.mem_addresses entry.address).mpr ⟨old, among, same⟩)
      exact (early standing within same').trans_le
        ((registered.stands standing within).earliest old among (same.trans same'.symm))
    · exact (registered.stands entry before).concat fun same => absurd same.symm other

theorem watch (registered : Registered asked feed.watched) (new : Watched) :
    Registered (asked ++ [new]) (feed.watch new).1.watched := by
  unfold Feed.watch
  split
  · next unknown =>
    refine registered.enter new fun old among same => ?_
    rw [← same, entry?_eq_some registered.nodup among] at unknown
    cases unknown
  · next standing found =>
    have only {old : Watched} (among : old ∈ feed.watched) (same : old.address = new.address) :
        old = standing := by
      have found' := entry?_eq_some registered.nodup among
      rw [same, found] at found'
      exact (Option.some.inj found').symm
    split
    · next late =>
      refine ⟨registered.nodup, ?_, fun entry inside => ?_⟩
      · obtain ⟨among, same⟩ := entry?_mem found
        have known : new.address ∈ asked.map (·.address) := by
          rw [← same, ← List.mem_eraseDups, ← registered.order]
          exact List.mem_map_of_mem among
        rw [List.map_append, List.map_singleton, eraseDups_concat, if_pos known, List.append_nil,
          registered.order]
      · refine (registered.stands entry inside).concat fun same => ?_
        rwa [only inside same.symm]
    · next early =>
      refine registered.enter new fun old among same => ?_
      rw [only among same]
      exact not_le.mp early

theorem watchAll (asked : List Watched) :
    Registered asked (Feed.watchAll ({} : Feed κ) asked).watched := by
  induction asked using List.reverseRecOn with
  | nil => exact registered_nil
  | append_singleton asked new ih =>
    rw [watchAll_concat]
    exact ih.watch new

/-- Asking again for what was asked for changes nothing. -/
theorem watch_again (registered : Registered asked feed.watched) {new : Watched}
    (again : new ∈ asked) : (feed.watch new).1 = feed := by
  obtain ⟨standing, inside, same⟩ :=
    List.mem_map.mp ((registered.mem_addresses new.address).mpr ⟨new, again, rfl⟩)
  have found := entry?_eq_some registered.nodup inside
  have late := (registered.stands standing inside).earliest new again same.symm
  rw [same] at found
  simp only [Feed.watch, found, if_pos late]

end Registered

/--
Whatever a feed is asked to watch, it lists every address that it was asked for, once
and in the order of the first time, and no other.  Each entry has the least of the
times for its address, and is the first that was asked for with it.  Addresses that
are watched stay so, and asking again for what was asked for changes nothing.
-/
theorem entered_once_in_order (asked : List Watched) :
    let feed : Feed κ := watchAll {} asked
    (feed.watched.map (·.address)).Nodup ∧
    feed.watched.map (·.address) = (asked.map (·.address)).eraseDups ∧
    (∀ entry ∈ feed.watched,
      IsLeast {since | ∃ new ∈ asked, new.address = entry.address ∧ new.since = since}
        entry.since ∧
      asked.find? (fun new => new.address == entry.address && new.since == entry.since) =
        some entry) ∧
    (∀ address, feed.isWatched address = true ↔ ∃ new ∈ asked, new.address = address) ∧
    (∀ later address, feed.isWatched address = true →
      (feed.watchAll later).isWatched address = true) ∧
    ∀ new ∈ asked, (feed.watch new).1 = feed := by
  intro feed
  have registered : Registered asked feed.watched := .watchAll asked
  refine ⟨registered.nodup, registered.order, fun entry inside => ?_, fun address => ?_,
    fun later address => isWatched_watchAll feed later, fun new => registered.watch_again⟩
  · have stands := registered.stands entry inside
    exact ⟨stands.isLeast, stands.first⟩
  · rw [isWatched_iff, ← List.mem_map]
    exact registered.mem_addresses address

/-- Two addresses, one of which is asked for again with an earlier time and other payments. -/
def askedAgain : List Watched :=
  [⟨"1ABCxJ5Lj1hrSy7WQ1CZYGv4iqYkB1DvQ3", 1500000020, "bitcoin"⟩,
    ⟨"1BoatSLRHtKNngkdXEeobR76b53LETtpyT", 1500000005, "bitcoin"⟩,
    ⟨"1ABCxJ5Lj1hrSy7WQ1CZYGv4iqYkB1DvQ3", 1500000010, "ether"⟩,
    ⟨"1ABCxJ5Lj1hrSy7WQ1CZYGv4iqYkB1DvQ3", 1500000010, "bitcoin"⟩,
    ⟨"1BoatSLRHtKNngkdXEeobR76b53LETtpyT", 1500000007, "ether"⟩]

/-- The first address keeps its place, and takes the third time it was asked for. -/
theorem entered_once_in_order_askedAgain :
    let feed : Feed Nat := watchAll {} askedAgain
    let entry : Watched := ⟨"1ABCxJ5Lj1hrSy7WQ1CZYGv4iqYkB1DvQ3", 1500000010, "ether"⟩
    feed.watched = [entry, ⟨"1BoatSLRHtKNngkdXEeobR76b53LETtpyT", 1500000005, "bitcoin"⟩] ∧
    IsLeast {since | ∃ new ∈ askedAgain, new.address = entry.address ∧ new.since = since}
      1500000010 ∧
    askedAgain.find? (fun new => new.address == entry.address && new.since == entry.since) =
      some entry ∧
    (feed.watch ⟨"1ABCxJ5Lj1hrSy7WQ1CZYGv4iqYkB1DvQ3", 1500000020, "bitcoin"⟩).1 = feed := by
  intro feed entry
  have watched : feed.watched =
      [entry, ⟨"1BoatSLRHtKNngkdXEeobR76b53LETtpyT", 1500000005, "bitcoin"⟩] := by
    decide +kernel
  obtain ⟨-, -, stands, -, -, again⟩ := entered_once_in_order (κ := Nat) askedAgain
  obtain ⟨least, first⟩ := stands entry (by rw [watched]; exact List.mem_cons_self)
  exact ⟨watched, least, first, again _ List.mem_cons_self⟩

end Feed

end Paywatch
