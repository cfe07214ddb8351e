import Mathlib.Data.List.Sort
import Paywatch.Proofs.Payment.Book
import Paywatch.Proofs.Payment.Conservation
import Paywatch.Proofs.Payment.Standing

/-!
# The book and the register

A tracker that keeps a book does what the one with the register does.  Its map
holds exactly the outputs whose sightings are open, each under its own outpoint and
in their order, and its count is that of the discarded sightings.
-/

namespace Paywatch

/-! ## Maps as lists -/

section

variable {κ ν : Type} [BEq κ] [LawfulBEq κ] {entries : List (κ × ν)} {key : κ} {value : ν}

/-- Where no key occurs twice an entry is what is found under its key. -/
theorem lookup_eq_some_iff_mem (distinct : (entries.map (·.1)).Nodup) :
    entries.lookup key = some value ↔ (key, value) ∈ entries := by
  induction entries with
  | nil => simp
  | cons entry entries ih =>
    obtain ⟨first, other⟩ := entry
    rw [List.map_cons, List.nodup_cons] at distinct
    by_cases here : key = first
    · subst here
      have once : (key, value) ∉ entries := fun inside =>
        distinct.1 (List.mem_map.mpr ⟨_, inside, rfl⟩)
      simp [once, eq_comm]
    · have elsewhere : (key == first) = false := by simpa using here
      simp [List.lookup_cons, elsewhere, here, ih distinct.2]

end

section

variable {α β : Type} {l : List α} {n : Nat} {f : α → α}

theorem getElem?_modify_self {a : α} (found : l[n]? = some a) :
    (l.modify n f)[n]? = some (f a) := by
  rw [List.getElem?_modify_eq, found]
  rfl

theorem map_modify {g : α → β} {h : β → β} (same : ∀ a, l[n]? = some a → g (f a) = h (g a)) :
    (l.modify n f).map g = (l.map g).modify n h := by
  apply List.ext_getElem?
  intro m
  simp only [List.getElem?_map, List.getElem?_modify, Option.map_eq_map, Option.map_map]
  cases found : l[m]? with
  | none => rfl
  | some a =>
    simp only [Option.map_some, Function.comp]
    split
    · rename_i here
      rw [same a (here ▸ found)]
    · rfl

theorem modify_concat (l : List α) (a : α) (f : α → α) :
    (l ++ [a]).modify l.length f = l ++ [f a] := by
  rw [List.modify_eq_set_getElem?, List.getElem?_concat_length]
  simp

/-- What a change does not touch stays as it is. -/
theorem map_modify_of_same {g : α → β} (same : ∀ a, g (f a) = g a) :
    (l.modify n f).map g = l.map g := by
  rw [map_modify (h := id) fun a _ => same a, List.modify_id]

end

/-! ## Outputs -/

namespace TrackedOutput

variable {o : TrackedOutput}

/-- What is true of every output: a height comes with a block, and a credit with both. -/
structure Valid (ledger : Ledger) (o : TrackedOutput) : Prop where
  height : o.state ≠ .confirmed → o.height = none
  credited : o.credited = true →
    o.state = .confirmed ∧ ledger.contains o.output.outpoint = true

def bare (o : TrackedOutput) : TrackedOutput :=
  { o with subscription := none }

theorem isOpen_iff : o.phase.isOpen = true ↔ o.credited = false ∧ o.state ≠ .discarded := by
  unfold phase
  cases o.credited with
  | true => simp [Phase.isOpen]
  | false => cases o.state <;> simp [Phase.isOpen]

/-- An output with a number is to be resolved unless it is open. -/
def resolving (o : TrackedOutput) (number : Nat) : Option Nat :=
  if o.phase.isOpen then none else some number

theorem isOpen_or_resolving {number : Nat} :
    (o.phase.isOpen = true ∨ o.resolving number = some number) ↔ True := by
  unfold resolving
  split <;> simp [*]

theorem resolving_ne {number m : Nat} (other : number ≠ m) :
    (o.resolving number = some m) ↔ False := by
  unfold resolving
  split <;> simp [other]

theorem exists_iff_of_bare {x y : Option TrackedOutput} (same : x.map bare = y.map bare)
    {P : TrackedOutput → Prop} (free : ∀ o, P o ↔ P o.bare) :
    (∃ o, x = some o ∧ P o) ↔ ∃ o, y = some o ∧ P o := by
  cases x with
  | none =>
    obtain rfl : y = none := by simpa using same.symm
    exact Iff.rfl
  | some o =>
    obtain ⟨o', rfl, bare⟩ := Option.map_eq_some_iff.mp same.symm
    simp only [Option.some.injEq, exists_eq_left']
    rw [free o, free o', bare]

theorem Valid.phase_eq_discarded {ledger : Ledger} (valid : o.Valid ledger) :
    o.phase = .discarded ↔ o.state = .discarded := by
  unfold phase
  cases credited : o.credited with
  | true =>
    rw [(valid.credited credited).1]
    simp
  | false => cases o.state <;> simp

theorem confirmed_of_phase {height : Option Int} (confirmed : o.phase = .confirmed height) :
    o.phase.isOpen = true ∧ o.state = .confirmed := by
  refine ⟨by rw [confirmed]; rfl, ?_⟩
  unfold phase at confirmed
  split at confirmed
  · cases confirmed
  · split at confirmed
    · cases confirmed
    · assumption
    · cases confirmed

/-- The block of an output that is not in the ledger is that of its sighting. -/
theorem Valid.height?_eq {ledger : Ledger} (valid : o.Valid ledger)
    (new : ledger.contains o.output.outpoint = false) : o.sighting.phase.height? = o.height := by
  have uncredited : o.credited = false := by
    cases credited : o.credited with
    | false => rfl
    | true =>
      rw [(valid.credited credited).2] at new
      cases new
  have unknown := valid.height
  simp only [sighting, phase, uncredited, Bool.false_eq_true, if_false]
  cases state : o.state with
  | confirmed => rfl
  | observed | discarded => exact (unknown (by rw [state]; exact TrackedState.noConfusion)).symm

/-- A report on an open output does to its phase what it does to that of a sighting. -/
theorem sighting_advance (isOpen : o.phase.isOpen = true) (confidence : Confidence)
    (height : Option Int) :
    (o.advance confidence height).1.sighting =
        { o.sighting with phase := o.phase.advance confidence height } ∧
      ((o.advance confidence height).2 = true ↔ confidence = .building) := by
  obtain ⟨output, state, block, subscription, credited⟩ := o
  obtain ⟨uncredited, kept⟩ := isOpen_iff.mp isOpen
  dsimp only at uncredited kept
  subst uncredited
  cases state with
  | discarded => exact absurd rfl kept
  | observed =>
    cases confidence <;> simp [advance, sighting, phase, Phase.advance, Confidence.isTerminal]
  | confirmed =>
    cases block <;> cases confidence <;> simp [advance, sighting, phase, Phase.advance]

/-- Only an output that was observed is discarded by a report. -/
theorem state_advance {confidence : Confidence} {height : Option Int}
    (ended : (o.advance confidence height).1.state = .discarded) (kept : o.state ≠ .discarded) :
    o.state = .observed := by
  unfold advance at ended
  split at ended
  · exact absurd ended kept
  · split at ended
    · split at ended
      · cases ended
      · split at ended <;> exact absurd ended kept
    · split at ended
      · rename_i observed
        exact observed.2
      · exact absurd ended kept

theorem credited_advance (o : TrackedOutput) (confidence : Confidence) (height : Option Int) :
    (o.advance confidence height).1.credited = o.credited := by
  unfold advance
  split_ifs <;> rfl

/-- An open output stays open unless a report discards it. -/
theorem isOpen_advance (isOpen : o.phase.isOpen = true) {confidence : Confidence}
    {height : Option Int} (lasting : (o.advance confidence height).1.state ≠ .discarded) :
    (o.advance confidence height).1.phase.isOpen = true :=
  isOpen_iff.mpr ⟨(credited_advance o _ _).trans (isOpen_iff.mp isOpen).1, lasting⟩

theorem Valid.advance {ledger : Ledger} (valid : o.Valid ledger) (confidence : Confidence)
    (height : Option Int) : (o.advance confidence height).1.Valid ledger := by
  unfold TrackedOutput.advance
  split
  · exact valid
  · rename_i neither
    have uncredited : o.credited ≠ true := fun credited => neither (.inl credited)
    split
    · split
      · exact ⟨fun other => absurd rfl other, fun credited => absurd credited uncredited⟩
      · rename_i decided
        have confirmed : o.state = .confirmed := by
          cases state : o.state with
          | observed => exact absurd state decided
          | confirmed => rfl
          | discarded => exact absurd (.inr state) neither
        split
        · exact ⟨fun other => absurd confirmed other, fun credited => absurd credited uncredited⟩
        · exact valid
    · split
      · rename_i ended
        refine ⟨fun _ => valid.height ?_, fun credited => absurd credited uncredited⟩
        rw [ended.2]
        exact TrackedState.noConfusion
      · exact valid

end TrackedOutput

/-! ## Sound books -/

namespace Book

variable {ω : Type} {b c : Book ω} {resolving : Option Nat} {number : Nat} {o : TrackedOutput}

theorem register_getElem? (b : Book ω) (number : Nat) :
    b.register.sightings[number]? = b.objects[number]?.map TrackedOutput.sighting :=
  List.getElem?_map

/-- The output that is being resolved, which may be discarded but is not yet counted. -/
def uncounted (b : Book ω) (resolving : Option Nat) : List TrackedOutput :=
  (resolving.bind (b.objects[·]?)).toList

/--
The map holds the open outputs, and beside them one that is being resolved; the
count is that of the discarded outputs without that one.
-/
structure Sound (b : Book ω) (resolving : Option Nat) : Prop where
  tracked : ∀ (output : Outpoint) (number : Nat), (output, number) ∈ b.tracked ↔
    ∃ o, b.objects[number]? = some o ∧ o.output.outpoint = output ∧
      (o.phase.isOpen = true ∨ resolving = some number)
  outpoints : (b.tracked.map (·.1)).Nodup
  numbers : (b.tracked.map (·.2)).Pairwise (· < ·)
  discarded : b.objects.countP (·.state = .discarded) =
    b.discarded + (b.uncounted resolving).countP (·.state = .discarded)
  valid : ∀ o ∈ b.objects, o.Valid b.ledger

theorem countP_uncounted (found : b.objects[number]? = some o) :
    (b.uncounted (o.resolving number)).countP (·.state = .discarded) =
      if o.state = .discarded then 1 else 0 := by
  unfold TrackedOutput.resolving
  cases isOpen : o.phase.isOpen with
  | true => simp [uncounted, (TrackedOutput.isOpen_iff.mp isOpen).2]
  | false => simp [uncounted, found, List.countP_cons]

theorem sound_start (manner : FeedManner) (outside : ω) : (start manner outside).Sound none where
  tracked := fun output number => by simp [start]
  outpoints := .nil
  numbers := .nil
  discarded := rfl
  valid := fun _ inside => absurd inside List.not_mem_nil

namespace Sound

theorem valid_at (sound : b.Sound resolving) (found : b.objects[number]? = some o) :
    o.Valid b.ledger :=
  sound.valid o (List.mem_of_getElem? found)

/-- Subscriptions may be others, and more outputs may be in the ledger. -/
theorem of_bare (sound : b.Sound resolving)
    (objects : c.objects.map TrackedOutput.bare = b.objects.map TrackedOutput.bare)
    (tracked : c.tracked = b.tracked) (discarded : c.discarded = b.discarded)
    (ledger : ∀ output, b.ledger.contains output = true → c.ledger.contains output = true) :
    c.Sound resolving := by
  have at_ (m : Nat) :
      c.objects[m]?.map TrackedOutput.bare = b.objects[m]?.map TrackedOutput.bare := by
    rw [← List.getElem?_map, ← List.getElem?_map, objects]
  have counts (l : List TrackedOutput) : l.countP (·.state = .discarded) =
      (l.map TrackedOutput.bare).countP (·.state = .discarded) := by
    rw [List.countP_map]
    rfl
  have uncounted : (c.uncounted resolving).map TrackedOutput.bare =
      (b.uncounted resolving).map TrackedOutput.bare := by
    cases resolving with
    | none => rfl
    | some m =>
      rw [Book.uncounted, Book.uncounted, ← Option.toList_map, ← Option.toList_map]
      exact congrArg Option.toList (at_ m)
  refine ⟨fun output m => ?_, tracked ▸ sound.outpoints, tracked ▸ sound.numbers, ?_, ?_⟩
  · rw [tracked, sound.tracked]
    exact (TrackedOutput.exists_iff_of_bare (at_ m) fun o => Iff.rfl).symm
  · rw [discarded, counts, objects, ← counts, sound.discarded, counts, ← uncounted, ← counts]
  · intro o inside
    have bare : o.bare ∈ b.objects.map TrackedOutput.bare :=
      objects ▸ List.mem_map_of_mem inside
    obtain ⟨o', inside', same⟩ := List.mem_map.mp bare
    have valid : o.bare.Valid b.ledger :=
      same ▸ ⟨(sound.valid o' inside').1, (sound.valid o' inside').2⟩
    exact ⟨valid.height, fun credited => (valid.credited credited).imp_right (ledger _)⟩

theorem tracked?_eq_some (sound : b.Sound resolving) {output : Outpoint} :
    b.tracked? output = some number ↔ ∃ o, b.objects[number]? = some o ∧
      o.output.outpoint = output ∧ (o.phase.isOpen = true ∨ resolving = some number) :=
  (lookup_eq_some_iff_mem sound.outpoints).trans (sound.tracked output number)

/-- What is tracked under an outpoint is its open sighting. -/
theorem tracked?_eq (sound : b.Sound none) (output : Outpoint) :
    b.tracked? output = b.register.open? output := by
  cases known : b.register.open? output with
  | none =>
    rw [Option.eq_none_iff_forall_ne_some]
    intro number tracked
    obtain ⟨o, found, same, isOpen⟩ := sound.tracked?_eq_some.mp tracked
    have inside : o.sighting ∈ b.register.sightings :=
      List.mem_map_of_mem (List.mem_of_getElem? found)
    have closed := List.findIdx?_eq_none_iff.mp known o.sighting inside
    have isOpen' : o.sighting.phase.isOpen = true := isOpen.resolve_right (by simp)
    have same' : o.sighting.outpoint = output := same
    simp [isOpen', same'] at closed
  | some number =>
    obtain ⟨s, found, isOpen, same⟩ := Tracking.open?_found known
    rw [register_getElem?] at found
    obtain ⟨o, found', rfl⟩ := Option.map_eq_some_iff.mp found
    exact sound.tracked?_eq_some.mpr ⟨o, found', same, .inl isOpen⟩

theorem discarded_at (sound : b.Sound resolving) (number : Nat) :
    b.objects[number]?.map (·.state) = some .discarded ↔
      b.register.sightings[number]?.map (·.phase) = some .discarded := by
  rw [register_getElem?]
  cases found : b.objects[number]? with
  | none => exact iff_of_false nofun nofun
  | some o => simpa [TrackedOutput.sighting] using (sound.valid_at found).phase_eq_discarded.symm

/-! ### Changes -/

/-- An open output changes; if it is then no longer open, it is the one to be resolved. -/
theorem change (sound : b.Sound none) {f : TrackedOutput → TrackedOutput}
    (found : b.objects[number]? = some o) (isOpen : o.phase.isOpen = true)
    (output : (f o).output = o.output) (valid : (f o).Valid b.ledger) :
    Book.Sound { b with objects := b.objects.modify number f } ((f o).resolving number) := by
  obtain ⟨inside, here⟩ := List.getElem?_eq_some_iff.mp found
  have set : b.objects.modify number f = b.objects.set number (f o) := by
    rw [List.modify_eq_set_getElem?, found]
    rfl
  rw [set]
  have changed : (b.objects.set number (f o))[number]? = some (f o) :=
    List.getElem?_set_self inside
  refine ⟨fun other m => (sound.tracked other m).trans ?_, sound.outpoints, sound.numbers, ?_, ?_⟩
  · by_cases same : number = m
    · subst same
      simp only [found, changed, Option.some.injEq, exists_eq_left', output, isOpen, true_or,
        and_true, TrackedOutput.isOpen_or_resolving]
    · simp only [List.getElem?_set_ne same, reduceCtorEq, or_false,
        TrackedOutput.resolving_ne same]
  · have kept := (TrackedOutput.isOpen_iff.mp isOpen).2
    rw [countP_uncounted (b := { b with objects := b.objects.set number (f o) }) changed,
      List.countP_set inside, here, sound.discarded]
    simp [uncounted, kept]
  · intro a inside
    rcases List.mem_or_eq_of_mem_set inside with before | rfl
    · exact sound.valid a before
    · exact valid

theorem number_lt (sound : b.Sound resolving) {output : Outpoint}
    (inside : (output, number) ∈ b.tracked) : number < b.objects.length := by
  obtain ⟨o, found, -⟩ := (sound.tracked output number).mp inside
  exact (List.getElem?_eq_some_iff.mp found).1

/-- A new output is entered under an outpoint that is not tracked. -/
theorem track (sound : b.Sound none) {output : Output}
    (unknown : b.tracked? output.outpoint = none) : (b.track output).Sound none := by
  have absent (number : Nat) : (output.outpoint, number) ∉ b.tracked := fun inside => by
    rw [tracked?, (lookup_eq_some_iff_mem sound.outpoints).mpr inside] at unknown
    cases unknown
  refine ⟨fun other m => ?_, ?_, ?_, ?_, ?_⟩
  · change _ ∈ b.tracked ++ [(output.outpoint, b.objects.length)] ↔
      ∃ o, (b.objects ++ [{ output := output }])[m]? = some o ∧ _
    rw [List.mem_append, sound.tracked, List.mem_singleton, Prod.mk.injEq]
    rcases Nat.lt_trichotomy m b.objects.length with less | rfl | more
    · rw [List.getElem?_append_left less]
      simp [less.ne]
    · have isOpen : ({ output := output } : TrackedOutput).phase.isOpen = true := rfl
      have before : b.objects[b.objects.length]? = none := List.getElem?_eq_none (Nat.le_refl _)
      simp only [before, List.getElem?_concat_length, reduceCtorEq, false_and, exists_false,
        false_or, and_true, Option.some.injEq, exists_eq_left', isOpen, true_or]
      exact eq_comm
    · have beyond : b.objects[m]? = none := List.getElem?_eq_none more.le
      have beyond' : (b.objects ++ [({ output := output } : TrackedOutput)])[m]? = none :=
        List.getElem?_eq_none (by rw [List.length_append]; exact more)
      simp [beyond, beyond', more.ne']
  · change (List.map _ (b.tracked ++ [_])).Nodup
    rw [List.map_append, List.nodup_append]
    refine ⟨sound.outpoints, List.nodup_singleton _, fun key inside key' here same => ?_⟩
    obtain ⟨⟨other, number⟩, entry, rfl⟩ := List.mem_map.mp inside
    obtain rfl : key' = output.outpoint := List.mem_singleton.mp here
    exact absent number (same ▸ entry)
  · change (List.map _ (b.tracked ++ [_])).Pairwise _
    rw [List.map_append, List.pairwise_append]
    refine ⟨sound.numbers, List.pairwise_singleton _ _, fun number inside last here => ?_⟩
    obtain ⟨⟨other, number⟩, entry, rfl⟩ := List.mem_map.mp inside
    obtain rfl : last = b.objects.length := List.mem_singleton.mp here
    exact sound.number_lt entry
  · change (b.objects ++ [_]).countP _ = b.discarded + 0
    rw [List.countP_append, sound.discarded]
    rfl
  · intro o inside
    rcases List.mem_append.mp inside with before | here
    · exact sound.valid o before
    · rw [List.mem_singleton.mp here]
      exact ⟨fun _ => rfl, fun credited => nomatch credited⟩

/-- The output that is being resolved is taken out of the map. -/
theorem without (sound : b.Sound (some number)) (found : b.objects[number]? = some o)
    (closed : o.phase.isOpen = false) : (b.without o).Sound none := by
  have own : b.tracked? o.output.outpoint = some number :=
    sound.tracked?_eq_some.mpr ⟨o, found, rfl, .inr rfl⟩
  refine ⟨fun output m => ?_, ?_, ?_, ?_, sound.valid⟩
  · change _ ∈ b.tracked.filter (·.1 ≠ o.output.outpoint) ↔ ∃ o, b.objects[m]? = some o ∧ _
    rw [List.mem_filter, sound.tracked, decide_eq_true_iff]
    constructor
    · rintro ⟨⟨o', found', same, reason⟩, other⟩
      refine ⟨o', found', same, .inl (reason.resolve_right ?_)⟩
      rintro ⟨⟩
      rw [found] at found'
      cases found'
      exact other same.symm
    · rintro ⟨o', found', same, reason⟩
      have isOpen := reason.resolve_right (by simp)
      refine ⟨⟨o', found', same, .inl isOpen⟩, ?_⟩
      rintro rfl
      have own' := sound.tracked?_eq_some.mpr ⟨o', found', same, .inl isOpen⟩
      rw [own] at own'
      cases own'
      rw [found] at found'
      cases found'
      rw [closed] at isOpen
      cases isOpen
  · exact sound.outpoints.sublist (List.filter_sublist.map _)
  · exact sound.numbers.sublist (List.filter_sublist.map _)
  · have counted := sound.discarded
    simp only [uncounted, Option.bind_some, found, Option.toList_some,
      List.countP_singleton] at counted
    change b.objects.countP _ = (if o.state = .discarded then b.discarded + 1 else b.discarded) + 0
    rw [counted]
    cases o.state <;> rfl

/-! ### What can be asked -/

theorem mem_numbersOf (sound : b.Sound none) {p : TrackedOutput → Bool} :
    number ∈ b.numbersOf p ↔
      ∃ o, b.objects[number]? = some o ∧ (o.phase.isOpen && p o) = true := by
  rw [numbersOf, List.mem_filter, List.mem_map, Option.any_eq_true]
  constructor
  · rintro ⟨⟨⟨output, _⟩, entry, rfl⟩, o, found, holds⟩
    obtain ⟨o', found', -, isOpen⟩ := (sound.tracked output _).mp entry
    cases found.symm.trans found'
    exact ⟨o, found, Bool.and_eq_true_iff.mpr ⟨isOpen.resolve_right nofun, holds⟩⟩
  · rintro ⟨o, found, both⟩
    obtain ⟨isOpen, holds⟩ := Bool.and_eq_true_iff.mp both
    exact ⟨⟨_, (sound.tracked _ number).mpr ⟨o, found, rfl, .inl isOpen⟩, rfl⟩, o, found, holds⟩

/-- The tracked outputs of which something holds are the sightings of which it holds, in order. -/
theorem numbersOf_eq (sound : b.Sound none) {p : TrackedOutput → Bool} {q : Sighting → Bool}
    (same : ∀ o, o.Valid b.ledger → (o.phase.isOpen && p o) = q o.sighting) :
    b.numbersOf p = (List.range b.register.sightings.length).filter fun number =>
      b.register.sightings[number]?.any q := by
  have ascending : (b.numbersOf p).Pairwise (· < ·) := sound.numbers.filter _
  refine ascending.eq_of_mem_iff (List.pairwise_lt_range.filter _) fun number => ?_
  rw [mem_numbersOf sound, List.mem_filter, List.mem_range, register_getElem?]
  constructor
  · rintro ⟨o, found, holds⟩
    refine ⟨?_, ?_⟩
    · rw [register, List.length_map]
      exact (List.getElem?_eq_some_iff.mp found).1
    · rw [found, Option.map_some, Option.any_some, ← same o (sound.valid_at found), holds]
  · rintro ⟨-, holds⟩
    obtain ⟨s, known, holds⟩ := (Option.any_eq_true _ _).mp holds
    obtain ⟨o, found, rfl⟩ := Option.map_eq_some_iff.mp known
    exact ⟨o, found, (same o (sound.valid_at found)).trans holds⟩

/-- The outputs that wait for their credit are the sightings that do. -/
theorem awaitingCredit_eq (sound : b.Sound none) :
    b.register.awaitingCredit = b.numbersOf fun o => o.state = .confirmed && !o.credited := by
  rw [Tracking.awaitingCredit_eq]
  refine (sound.numbersOf_eq fun o _ => ?_).symm
  rw [TrackedOutput.sighting, TrackedOutput.phase]
  cases o.credited with
  | true => rfl
  | false => cases o.state <;> rfl

theorem length_numbersOf (sound : b.Sound none) {p : TrackedOutput → Bool} {q : Sighting → Bool}
    (same : ∀ o, o.Valid b.ledger → (o.phase.isOpen && p o) = q o.sighting) :
    (b.numbersOf p).length = b.register.sightings.countP q := by
  rw [sound.numbersOf_eq same, Tracking.countP_eq_length_filter_range]

/-- The map is as long as there are open sightings. -/
theorem trackedCount_eq (sound : b.Sound none) : b.trackedCount = b.register.trackedCount := by
  have all : (b.numbersOf fun _ => true) = b.tracked.map (·.2) := by
    rw [numbersOf, List.filter_eq_self]
    intro number inside
    obtain ⟨⟨output, _⟩, entry, rfl⟩ := List.mem_map.mp inside
    obtain ⟨o, found, -⟩ := (sound.tracked output _).mp entry
    rw [found]
    rfl
  rw [trackedCount, ← List.length_map (f := (·.2)), ← all]
  exact sound.length_numbersOf fun o _ => Bool.and_true _

theorem pendingCount_eq (sound : b.Sound none) : b.pendingCount = b.register.pendingCount := by
  refine sound.length_numbersOf fun o _ => ?_
  rw [TrackedOutput.sighting, TrackedOutput.phase]
  cases credited : o.credited with
  | true => rfl
  | false => cases o.state <;> rfl

/-- The count is that of the discarded sightings. -/
theorem discarded_eq (sound : b.Sound none) : b.discarded = b.register.discardedCount := by
  rw [← Nat.add_zero b.discarded]
  refine sound.discarded.symm.trans ?_
  rw [Tracking.discardedCount, register, List.countP_map]
  refine List.countP_congr fun o inside => ?_
  have same : o.sighting.phase = .discarded ↔ o.state = .discarded :=
    (sound.valid o inside).phase_eq_discarded
  simp [same]

/-- What is told of an output is the same. -/
theorem state?_eq (sound : b.Sound none) (output : Outpoint) :
    b.state? output = (b.register.standing? output).map TrackedState.ofStanding := by
  rw [Tracking.standing?_eq, ← sound.tracked?_eq, state?]
  cases known : b.tracked? output with
  | none =>
    change (if _ then _ else _) = Option.map _ (if b.ledger.contains output then _ else _)
    split <;> rfl
  | some number =>
    obtain ⟨o, found, -, isOpen⟩ := sound.tracked?_eq_some.mp known
    obtain ⟨uncredited, kept⟩ := TrackedOutput.isOpen_iff.mp (isOpen.resolve_right nofun)
    rw [Option.bind_some, Option.bind_some, register_getElem?, found]
    simp only [Option.map_some, TrackedOutput.sighting, TrackedOutput.phase, uncredited]
    cases state : o.state with
    | discarded => exact absurd state kept
    | observed | confirmed => rfl

end Sound

end Book

end Paywatch
