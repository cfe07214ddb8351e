import Mathlib.Algebra.Order.Group.Int
import Mathlib.Data.List.Nodup
import Mathlib.Order.Bounds.Defs
import Paywatch.Feed.Basic

/-!
# The watched addresses

However often and in whatever order addresses are asked to be watched, each has
one entry, with the earliest time for which it was asked.
-/

namespace Paywatch

namespace Feed

variable {κ : Type}

/-! ## Entering an address -/

theorem mem_enter {entries : List Watched} {new entry : Watched} :
    entry ∈ enter entries new ↔
      entry = new ∨ entry ∈ entries ∧ entry.address ≠ new.address := by
  unfold enter
  split
  · next known =>
    rw [List.any_eq_true] at known
    obtain ⟨old, among, same⟩ := known
    rw [List.mem_map]
    constructor
    · rintro ⟨old, among, rfl⟩
      split
      · exact .inl rfl
      · next other =>
        rw [beq_iff_eq] at other
        exact .inr ⟨among, other⟩
    · rintro (rfl | ⟨inside, other⟩)
      · exact ⟨old, among, if_pos same⟩
      · exact ⟨entry, inside, if_neg (by rwa [beq_iff_eq])⟩
  · next unknown =>
    rw [List.any_eq_true] at unknown
    rw [List.mem_append, List.mem_singleton]
    constructor
    · rintro (inside | rfl)
      · exact .inr ⟨inside, fun same => unknown ⟨entry, inside, beq_iff_eq.mpr same⟩⟩
      · exact .inl rfl
    · rintro (rfl | ⟨inside, -⟩)
      · exact .inr rfl
      · exact .inl inside

/-- An address that has an entry keeps its place, and any other comes last. -/
theorem map_address_enter (entries : List Watched) (new : Watched) :
    (enter entries new).map (·.address) =
      entries.map (·.address) ++
        if new.address ∈ entries.map (·.address) then [] else [new.address] := by
  have known : (entries.any fun entry => entry.address == new.address) = true ↔
      new.address ∈ entries.map (·.address) := by
    simp only [List.any_eq_true, beq_iff_eq, List.mem_map]
  unfold enter
  split
  · next inside =>
    rw [if_pos (known.mp inside), List.append_nil, List.map_map]
    refine List.map_congr_left fun old _ => ?_
    rw [Function.comp_apply]
    split
    · next same => exact (beq_iff_eq.mp same).symm
    · rfl
  · next outside =>
    rw [if_neg fun inside => outside (known.mpr inside), List.map_append, List.map_singleton]

/-- An address that is entered has one entry, and the others keep theirs. -/
theorem nodup_enter {entries : List Watched} (nodup : (entries.map (·.address)).Nodup)
    (new : Watched) : ((enter entries new).map (·.address)).Nodup := by
  rw [map_address_enter]
  split
  · rwa [List.append_nil]
  · next outside =>
    exact nodup.append (List.nodup_singleton _) (List.disjoint_singleton.mpr outside)

theorem entry?_mem {feed : Feed κ} {address : String} {old : Watched}
    (found : feed.entry? address = some old) : old ∈ feed.watched ∧ old.address = address := by
  have same := List.find?_some found
  exact ⟨List.mem_of_find?_eq_some found, beq_iff_eq.mp same⟩

/-- The only entry of an address is the one that is found. -/
theorem entry?_eq_some {feed : Feed κ} (nodup : (feed.watched.map (·.address)).Nodup)
    {entry : Watched} (inside : entry ∈ feed.watched) : feed.entry? entry.address = some entry := by
  cases found : feed.entry? entry.address with
  | none =>
    have other := List.find?_eq_none.mp found entry inside
    exact absurd (beq_self_eq_true _) other
  | some old =>
    obtain ⟨among, same⟩ := entry?_mem found
    exact congrArg some (List.inj_on_of_nodup_map nodup among inside same)

/-! ## Watched addresses -/

/-- Watching an address changes the entries only. -/
theorem watch_eq (feed : Feed κ) (new : Watched) :
    ∃ entries, (feed.watch new).1 = { feed with watched := entries } := by
  unfold watch
  split
  · exact ⟨_, rfl⟩
  · split
    · exact ⟨feed.watched, rfl⟩
    · exact ⟨_, rfl⟩

theorem watch_subscriptions (feed : Feed κ) (new : Watched) :
    (feed.watch new).1.subscriptions = feed.subscriptions := by
  obtain ⟨entries, same⟩ := watch_eq feed new
  rw [same]

theorem watch_receivers (feed : Feed κ) (new : Watched) :
    (feed.watch new).1.receivers = feed.receivers := by
  obtain ⟨entries, same⟩ := watch_eq feed new
  rw [same]

theorem watch_nextId (feed : Feed κ) (new : Watched) :
    (feed.watch new).1.nextId = feed.nextId := by
  obtain ⟨entries, same⟩ := watch_eq feed new
  rw [same]

theorem isWatched_iff (feed : Feed κ) (address : String) :
    feed.isWatched address = true ↔ ∃ entry ∈ feed.watched, entry.address = address := by
  rw [isWatched, entry?, List.find?_isSome]
  simp only [beq_iff_eq]

/-- An address is watched when it has been asked for. -/
theorem isWatched_watch_iff (feed : Feed κ) (new : Watched) (address : String) :
    (feed.watch new).1.isWatched address = true ↔
      new.address = address ∨ feed.isWatched address = true := by
  have entered : address ∈ (enter feed.watched new).map (·.address) ↔
      new.address = address ∨ address ∈ feed.watched.map (·.address) := by
    simp only [List.mem_map, mem_enter]
    constructor
    · rintro ⟨entry, rfl | ⟨before, -⟩, same⟩
      · exact .inl same
      · exact .inr ⟨entry, before, same⟩
    · rintro (rfl | ⟨entry, before, rfl⟩)
      · exact ⟨new, .inl rfl, rfl⟩
      · by_cases same : entry.address = new.address
        · exact ⟨new, .inl rfl, same.symm⟩
        · exact ⟨entry, .inr ⟨before, same⟩, rfl⟩
  rw [isWatched_iff, isWatched_iff, ← List.mem_map, ← List.mem_map]
  unfold watch
  split
  · exact entered
  · next old found =>
    split
    · obtain ⟨among, same⟩ := entry?_mem found
      exact (or_iff_right_of_imp fun asked => List.mem_map.mpr ⟨old, among, same.trans asked⟩).symm
    · exact entered

/-- An address that is watched stays so. -/
theorem isWatched_watch (feed : Feed κ) (new : Watched) {address : String}
    (watched : feed.isWatched address = true) : (feed.watch new).1.isWatched address = true :=
  (isWatched_watch_iff feed new address).mpr (.inr watched)

/-! ## The earliest times -/

/-- The entries are those of the addresses that were asked for, each since its earliest time. -/
structure Earliest (asked : List (String × Int)) (entries : List Watched) : Prop where
  nodup : (entries.map (·.address)).Nodup
  sound : ∀ entry ∈ entries, entry.currency = defaultCurrency ∧ (entry.address, entry.since) ∈ asked
  covers : ∀ address since, (address, since) ∈ asked →
    ∃ entry ∈ entries, entry.address = address ∧ entry.since ≤ since

theorem earliest_nil : Earliest [] [] where
  nodup := List.nodup_nil
  sound := fun _ inside => nomatch inside
  covers := fun _ _ inside => nomatch inside

variable {asked : List (String × Int)} {feed : Feed κ}

/-- Asking once more to watch an address keeps the earliest times. -/
theorem Earliest.watch (earliest : Earliest asked feed.watched) (address : String) (since : Int) :
    Earliest (asked ++ [(address, since)])
      (feed.watch ⟨address, since, defaultCurrency⟩).1.watched := by
  have entered (later : ∀ old ∈ feed.watched, old.address = address → since ≤ old.since) :
      Earliest (asked ++ [(address, since)])
        (enter feed.watched ⟨address, since, defaultCurrency⟩) := by
    refine ⟨nodup_enter earliest.nodup _, ?_, ?_⟩
    · intro entry inside
      rcases mem_enter.mp inside with rfl | ⟨before, -⟩
      · exact ⟨rfl, by simp⟩
      · exact ⟨(earliest.sound entry before).1, by simp [(earliest.sound entry before).2]⟩
    · intro address' since' inside
      rcases List.mem_append.mp inside with before | new
      · obtain ⟨old, among, rfl, early⟩ := earliest.covers address' since' before
        by_cases same : old.address = address
        · exact ⟨_, mem_enter.mpr (.inl rfl), same.symm, (later old among same).trans early⟩
        · exact ⟨old, mem_enter.mpr (.inr ⟨among, same⟩), rfl, early⟩
      · cases List.mem_singleton.mp new
        exact ⟨_, mem_enter.mpr (.inl rfl), rfl, le_rfl⟩
  unfold Feed.watch
  split
  · next unknown =>
    refine entered fun old among same => ?_
    rw [← same, entry?_eq_some earliest.nodup among] at unknown
    cases unknown
  · next old found =>
    obtain ⟨among, same⟩ := entry?_mem found
    split
    · next early =>
      refine ⟨earliest.nodup, ?_, ?_⟩
      · intro entry inside
        exact ⟨(earliest.sound entry inside).1, by simp [(earliest.sound entry inside).2]⟩
      · intro address' since' inside
        rcases List.mem_append.mp inside with before | new
        · exact earliest.covers address' since' before
        · cases List.mem_singleton.mp new
          exact ⟨old, among, same, early⟩
    · next late =>
      refine entered fun old' among' same' => ?_
      have only := entry?_eq_some earliest.nodup among'
      rw [same', found] at only
      cases only
      exact (not_le.mp late).le

/-- An entry stands for the least of the times for which its address was asked. -/
theorem Earliest.mem_iff {entries : List Watched} (earliest : Earliest asked entries)
    (entry : Watched) :
    entry ∈ entries ↔ entry.currency = defaultCurrency ∧
      IsLeast {since | (entry.address, since) ∈ asked} entry.since := by
  constructor
  · intro inside
    obtain ⟨currency, member⟩ := earliest.sound entry inside
    refine ⟨currency, member, fun since later => ?_⟩
    obtain ⟨other, among, same, early⟩ := earliest.covers _ since later
    rwa [← List.inj_on_of_nodup_map earliest.nodup among inside same]
  · rintro ⟨currency, member, least⟩
    obtain ⟨other, among, same, early⟩ := earliest.covers _ _ member
    obtain ⟨currency', member'⟩ := earliest.sound other among
    have late : entry.since ≤ other.since := least (by rwa [same] at member')
    have since : other.since = entry.since := le_antisymm early late
    have eq : other = entry := by
      cases other
      cases entry
      cases same
      cases currency
      cases currency'
      cases since
      rfl
    rwa [← eq]

end Feed

end Paywatch
