import Paywatch.Proofs.Payment.Evolution
import Paywatch.Proofs.Payment.Wiring

/-!
# Handles

A subscription is made once for every sighting that begins undecided, and for no
other one.  The feed counts them, so that the number of a subscription tells the
sighting for which it was made, long before it is kept there.
-/

namespace Paywatch

theorem Phase.atFirst_eq_observed {confidence : Confidence} {height : Option Int} :
    Phase.atFirst confidence height = .observed ↔ confidence.isWaiting = true := by
  cases confidence <;>
    simp [Phase.atFirst, Phase.advance, Confidence.isWaiting, Confidence.isTerminal]

/-- Nothing comes before the beginning of a sighting. -/
theorem Phase.Precedes.eq_observed {phase : Phase} (precedes : Precedes phase .observed) :
    phase = .observed := by
  cases precedes with
  | refl | observed => rfl

namespace Tracking

variable {ω : Type} {t u v : Tracking ω} {scope : Scope} {number : Nat}
  {sub : Subscription Callback}

/-! ## The outputs of all sightings -/

def outputs (t : Tracking ω) : List Output :=
  t.sightings.map (·.output)

theorem outputs_getElem? (t : Tracking ω) (number : Nat) :
    t.outputs[number]? = t.sightings[number]?.map (·.output) :=
  List.getElem?_map

theorem length_outputs (t : Tracking ω) : t.outputs.length = t.sightings.length :=
  List.length_map _

theorem outputs_sighting (t : Tracking ω) (output : Output) :
    (t.sighting output).outputs = t.outputs ++ [output] := by
  rw [outputs, sighting_sightings, List.map_append]
  rfl

theorem prefix_sighting (t : Tracking ω) (output : Output) :
    t.outputs <+: (t.sighting output).outputs := by
  rw [outputs_sighting]
  exact List.prefix_append _ _

theorem outputs_holding (t : Tracking ω) (number : Nat) (subscription : Option Nat) :
    (t.holding number subscription).outputs = t.outputs := by
  apply List.ext_getElem?
  intro m
  rw [outputs_getElem?, outputs_getElem?, holding_getElem?, Option.map_map]
  congr 1
  funext s
  simp only [Function.comp]
  split <;> rfl

theorem outputs_cancelling (t : Tracking ω) (id : Nat) : (t.cancelling id).outputs = t.outputs := by
  rw [outputs, cancelling_sightings]
  rfl

theorem outputs_release (t : Tracking ω) (number : Nat) :
    (Run.after (release number) t).outputs = t.outputs := by
  cases held : t.sightings[number]?.bind (·.subscription) with
  | none => rw [after_release_none held]
  | some id =>
    rw [after_release_some held, outputs_cancelling]
    exact outputs_holding t number none

theorem outputs_keep (t : Tracking ω) (number id : Nat) :
    (Run.after (keep number id) t).outputs = t.outputs := by
  rw [after_keep]
  split
  · rw [outputs_release, outputs_holding]
  · exact outputs_holding t number (some id)

theorem Moves.outputs_prefix (moves : Moves t u) : t.outputs <+: u.outputs := by
  rw [List.prefix_iff_getElem?]
  intro n inside
  rw [length_outputs] at inside
  obtain ⟨s, found, output, -⟩ := Moves.kept moves (List.getElem?_eq_getElem inside)
  rw [outputs_getElem?, found, Option.map_some, output]
  simp [outputs]

theorem Plain.outputs_eq (plain : Plain t u) : u.outputs = t.outputs := by
  have same : t.outputs.length = u.outputs.length := by
    rw [length_outputs, length_outputs, plain.length_eq]
  exact (plain.moves.outputs_prefix.eq_of_length same).symm

/-! ## The subscription that is made for a sighting -/

/-- The number of the subscription that is made for a sighting, or for the next one after it. -/
def handle (t : Tracking ω) (number : Nat) : Nat :=
  (t.outputs.take number).countP (·.confidence.isWaiting) + 1

/-- The subscription that is made for a sighting when it begins. -/
def issued? (t : Tracking ω) (number : Nat) : Option (Subscription Callback) :=
  t.outputs[number]?.bind fun output =>
    if output.confidence.isWaiting then
      some ⟨t.handle number, output.outpoint, .confidence output.outpoint⟩
    else none

theorem handle_of_prior (prior : t.outputs <+: u.outputs) (inside : number ≤ t.outputs.length) :
    u.handle number = t.handle number := by
  obtain ⟨later, same⟩ := prior
  rw [handle, handle, ← same, List.take_append_of_le_length inside]

theorem issued?_eq_some : t.issued? number = some sub ↔
    ∃ output, t.outputs[number]? = some output ∧ output.confidence.isWaiting = true ∧
      sub = ⟨t.handle number, output.outpoint, .confidence output.outpoint⟩ := by
  rw [issued?, Option.bind_eq_some_iff]
  refine exists_congr fun output => and_congr_right fun _ => ?_
  split
  · rename_i waiting
    rw [Option.some.injEq, eq_comm]
    exact (and_iff_right waiting).symm
  · rename_i decided
    constructor
    · intro same
      cases same
    · intro waiting
      exact absurd waiting.1 decided

/-- A subscription is made once. -/
theorem issued?_of_prior (prior : t.outputs <+: u.outputs) (issued : t.issued? number = some sub) :
    u.issued? number = some sub := by
  obtain ⟨output, found, waiting, rfl⟩ := issued?_eq_some.mp issued
  have inside := (List.getElem?_eq_some_iff.mp found).1
  rw [issued?_eq_some]
  refine ⟨output, ?_, waiting, ?_⟩
  · obtain ⟨later, same⟩ := prior
    rw [← same, List.getElem?_append_left inside]
    exact found
  · rw [handle_of_prior prior (Nat.le_of_lt inside)]

theorem issued?_congr (same : u.outputs = t.outputs) (number : Nat) :
    u.issued? number = t.issued? number := by
  rw [issued?, issued?, handle, handle, same]

theorem lt_of_issued? (issued : t.issued? number = some sub) : number < t.sightings.length := by
  obtain ⟨output, found, -⟩ := issued?_eq_some.mp issued
  rw [← length_outputs]
  exact (List.getElem?_eq_some_iff.mp found).1

theorem id_of_issued? (issued : t.issued? number = some sub) : sub.id = t.handle number := by
  obtain ⟨output, -, -, rfl⟩ := issued?_eq_some.mp issued
  rfl

/-- Subscriptions are numbered in the order of their sightings. -/
theorem handle_lt {m n : Nat} (issued : t.issued? m = some sub) (lower : m < n) :
    t.handle m < t.handle n := by
  obtain ⟨output, found, waiting, -⟩ := issued?_eq_some.mp issued
  have next : t.handle (m + 1) = t.handle m + 1 := by
    rw [handle, handle, List.take_add_one, found, List.countP_append]
    simp [waiting]
  have later : t.handle (m + 1) ≤ t.handle n :=
    Nat.succ_le_succ ((List.take_sublist_take_left lower).countP_le)
  omega

/-- The number of a subscription tells the sighting for which it was made. -/
theorem issued?_inj {m n : Nat} {sub' : Subscription Callback} (issued : t.issued? m = some sub)
    (issued' : t.issued? n = some sub') (same : sub.id = sub'.id) : m = n := by
  rw [id_of_issued? issued, id_of_issued? issued'] at same
  rcases Nat.lt_trichotomy m n with lower | equal | higher
  · exact absurd same (Nat.ne_of_lt (handle_lt issued lower))
  · exact equal
  · exact absurd same.symm (Nat.ne_of_lt (handle_lt issued' higher))

/-- A sighting that begins undecided is the last one for which a subscription has been made. -/
theorem issued?_sighting (t : Tracking ω) {output : Output}
    (waiting : output.confidence.isWaiting = true) :
    (t.sighting output).issued? t.sightings.length =
      some ⟨t.handle t.sightings.length, output.outpoint, .confidence output.outpoint⟩ := by
  rw [issued?_eq_some]
  refine ⟨output, ?_, waiting, ?_⟩
  · rw [outputs_sighting, ← length_outputs, List.getElem?_concat_length]
  · rw [handle_of_prior (prefix_sighting t output) (by rw [length_outputs])]

/-! ## What a sighting holds -/

theorem held?_sighting (t : Tracking ω) (output : Output) (number : Nat) :
    (t.sighting output).held? number = t.held? number := by
  rw [held?, held?]
  cases found : (t.sighting output).sightings[number]? with
  | none =>
    rw [List.getElem?_eq_none_iff, sighting_sightings, List.length_append] at found
    rw [List.getElem?_eq_none (by omega)]
  | some s =>
    rcases sighting_found found with old | ⟨last, rfl⟩
    · rw [old]
    · rw [last, List.getElem?_eq_none (Nat.le_refl _)]
      rfl

theorem held?_holding (t : Tracking ω) (number m : Nat) (subscription : Option Nat)
    (known : number < t.sightings.length) :
    (t.holding number subscription).held? m = if number = m then subscription else t.held? m := by
  rw [held?, holding_getElem?, held?]
  split
  · rename_i here
    rw [← here, List.getElem?_eq_getElem known]
    rfl
  · rw [Option.map_id']

theorem held?_release (t : Tracking ω) (number m : Nat) :
    (Run.after (release number) t).held? m = if number = m then none else t.held? m := by
  rw [held?, release_getElem?, held?]
  split
  · cases t.sightings[m]? <;> rfl
  · rw [Option.map_id']

theorem release_subscriptions (t : Tracking ω) (number : Nat) :
    (Run.after (release number) t).feed.subscriptions =
      match t.held? number with
      | none => t.feed.subscriptions
      | some id =>
        if t.manner.keepsCancelled then t.feed.subscriptions
        else t.feed.subscriptions.filter (·.id ≠ id) := by
  cases held : t.held? number with
  | none => rw [after_release_none held]
  | some id =>
    rw [after_release_some held, cancelling_feed]
    change (if t.manner.keepsCancelled then t.feed else t.feed.unsubscribe id).subscriptions = _
    split <;> rfl

theorem release_nextId (t : Tracking ω) (number : Nat) :
    (Run.after (release number) t).feed.nextId = t.feed.nextId := by
  cases held : t.held? number with
  | none => rw [after_release_none held]
  | some id =>
    rw [after_release_some held, cancelling_nextId]
    rfl

/-! ## Live subscriptions -/

/-- The subscription that was made for a sighting is still there. -/
def Live (t : Tracking ω) (number : Nat) : Prop :=
  ∃ sub ∈ t.feed.subscriptions, t.issued? number = some sub

theorem Live.of_prior (live : t.Live number) (prior : t.outputs <+: u.outputs)
    (kept : ∀ sub ∈ t.feed.subscriptions, t.issued? number = some sub →
      sub ∈ u.feed.subscriptions) : u.Live number := by
  obtain ⟨sub, inside, issued⟩ := live
  exact ⟨sub, kept sub inside issued, issued?_of_prior prior issued⟩

/-- Subscriptions that do not change, for outputs that do not change. -/
theorem live_congr (subscriptions : u.feed.subscriptions = t.feed.subscriptions)
    (outputs : u.outputs = t.outputs) (number : Nat) : u.Live number ↔ t.Live number := by
  rw [Live, Live, subscriptions]
  exact exists_congr fun sub => and_congr_right fun _ => by rw [issued?_congr outputs]

theorem live_holding (t : Tracking ω) (number m : Nat) (subscription : Option Nat) :
    (t.holding number subscription).Live m ↔ t.Live m := by
  refine live_congr ?_ (outputs_holding t number subscription) m
  rfl

theorem Plain.live_iff (plain : Plain t u) (number : Nat) : u.Live number ↔ t.Live number :=
  live_congr plain.subscriptions plain.outputs_eq number

/--
The feed counts the subscriptions that were made for sightings.  None but these
are there, each of them once, and what a sighting holds is its own.  A sighting
that is undecided has its subscription.
-/
structure Numbered (t : Tracking ω) : Prop where
  next : t.feed.nextId = t.handle t.sightings.length
  issued : ∀ sub ∈ t.feed.subscriptions, ∃ number, t.issued? number = some sub
  distinct : (t.feed.subscriptions.map (·.id)).Nodup
  held : ∀ (number id : Nat), t.held? number = some id →
    ∃ sub, t.issued? number = some sub ∧ sub.id = id
  observed : ∀ (number : Nat) (s : Sighting), t.sightings[number]? = some s →
    s.phase = .observed → t.Live number

theorem numbered_start (manner : FeedManner) (outside : ω) : (start manner outside).Numbered where
  next := rfl
  issued := fun _ inside => by cases inside
  distinct := .nil
  held := fun _ _ held => by cases held
  observed := fun _ _ found => by cases found

namespace Numbered

theorem plain (numbered : t.Numbered) (plain : Plain t u) : u.Numbered where
  next := by
    rw [plain.nextId, numbered.next, plain.length_eq]
    exact (handle_of_prior plain.moves.outputs_prefix (by rw [length_outputs])).symm
  issued := by
    intro sub inside
    rw [plain.subscriptions] at inside
    obtain ⟨number, issued⟩ := numbered.issued sub inside
    exact ⟨number, issued?_of_prior plain.moves.outputs_prefix issued⟩
  distinct := by
    rw [plain.subscriptions]
    exact numbered.distinct
  held := by
    intro number id held
    rw [plain.held?_eq] at held
    obtain ⟨sub, issued, same⟩ := numbered.held number id held
    exact ⟨sub, issued?_of_prior plain.moves.outputs_prefix issued, same⟩
  observed := by
    intro number s' found' observed
    obtain ⟨s, found, -, precedes⟩ := plain.found found'
    rw [observed] at precedes
    rw [plain.live_iff]
    exact numbered.observed number s found precedes.eq_observed

/-! ### Subscriptions that are given up -/

theorem live_release (numbered : t.Numbered) {other : Nat} (live : t.Live other)
    (unheld : other = number → t.held? number = none) :
    (Run.after (Tracking.release number) t).Live other := by
  refine live.of_prior (by rw [outputs_release]) fun sub inside issued => ?_
  rw [release_subscriptions]
  cases held : t.held? number with
  | none => exact inside
  | some id =>
    obtain ⟨given, issued', rfl⟩ := numbered.held number id held
    dsimp only
    split
    · exact inside
    · rw [List.mem_filter, decide_eq_true_iff]
      refine ⟨inside, fun same => ?_⟩
      have none := unheld (issued?_inj issued issued' same)
      rw [held] at none
      cases none

/-- A feed that honours cancellations keeps no subscription that is given up. -/
theorem live_of_release (numbered : t.Numbered) (honoured : t.manner.keepsCancelled = false)
    {other : Nat} (live : (Run.after (Tracking.release number) t).Live other) :
    t.Live other ∧ (other = number → t.held? number = none) := by
  obtain ⟨sub, inside, issued⟩ := live
  rw [issued?_congr (outputs_release t number)] at issued
  rw [release_subscriptions] at inside
  cases held : t.held? number with
  | none =>
    rw [held] at inside
    exact ⟨⟨sub, inside, issued⟩, fun _ => rfl⟩
  | some id =>
    obtain ⟨given, issued', rfl⟩ := numbered.held number id held
    rw [held, honoured] at inside
    obtain ⟨inside, kept⟩ := List.mem_filter.mp inside
    refine ⟨⟨sub, inside, issued⟩, fun same => ?_⟩
    rw [same, issued'] at issued
    cases issued
    simp at kept

theorem release (numbered : t.Numbered)
    (decided : ∀ s, t.sightings[number]? = some s → s.phase ≠ .observed) :
    (Run.after (Tracking.release number) t).Numbered := by
  have outputs := outputs_release t number
  have fewer : (Run.after (Tracking.release number) t).feed.subscriptions.Sublist
      t.feed.subscriptions := by
    rw [release_subscriptions]
    cases t.held? number with
    | none => exact .refl _
    | some id =>
      dsimp only
      split
      · exact .refl _
      · exact List.filter_sublist
  refine ⟨?_, ?_, ?_, ?_, ?_⟩
  · rw [release_nextId, numbered.next, ← length_outputs, ← length_outputs, handle, handle, outputs]
  · intro sub inside
    obtain ⟨m, issued⟩ := numbered.issued sub (fewer.subset inside)
    exact ⟨m, (issued?_congr outputs m).trans issued⟩
  · exact numbered.distinct.sublist (fewer.map _)
  · intro m id held
    rw [held?_release] at held
    split at held
    · cases held
    · obtain ⟨sub, issued, same⟩ := numbered.held m id held
      exact ⟨sub, (issued?_congr outputs m).trans issued, same⟩
  · intro m s' found' observed
    rw [release_getElem?] at found'
    obtain ⟨s, found, rfl⟩ := Option.map_eq_some_iff.mp found'
    have phase : s.phase = .observed := by
      split at observed <;> exact observed
    refine numbered.live_release (numbered.observed m s found phase) ?_
    rintro rfl
    exact absurd phase (decided s found)

/-! ### Subscriptions that are made and kept -/

/-- A sighting begins with its subscription, if there is one for it. -/
theorem sighting_subscriptions (numbered : t.Numbered) (output : Output) :
    (t.sighting output).feed.subscriptions =
      t.feed.subscriptions ++ ((t.sighting output).issued? t.sightings.length).toList := by
  by_cases waiting : output.confidence.isWaiting = true
  · rw [issued?_sighting t waiting, ← numbered.next, Tracking.sighting,
      if_pos (Phase.atFirst_eq_observed.mpr waiting)]
    rfl
  · have decided : (t.sighting output).issued? t.sightings.length = none := by
      rw [issued?, outputs_sighting, ← length_outputs, List.getElem?_concat_length,
        Option.bind_some, if_neg waiting]
    rw [decided, Tracking.sighting,
      if_neg fun first => waiting (Phase.atFirst_eq_observed.mp first)]
    exact (List.append_nil _).symm

theorem sighting_nextId (numbered : t.Numbered) (output : Output) :
    (t.sighting output).feed.nextId =
      (t.sighting output).handle (t.sighting output).sightings.length := by
  have next : (t.sighting output).handle (t.sighting output).sightings.length =
      t.feed.nextId + if output.confidence.isWaiting then 1 else 0 := by
    rw [numbered.next, ← length_outputs, ← length_outputs, handle, handle, List.take_length,
      List.take_length, outputs_sighting, List.countP_append, List.countP_singleton,
      Nat.add_right_comm]
  rw [next, Tracking.sighting]
  by_cases waiting : output.confidence.isWaiting = true
  · rw [if_pos (Phase.atFirst_eq_observed.mpr waiting), if_pos waiting]
    rfl
  · rw [if_neg fun first => waiting (Phase.atFirst_eq_observed.mp first), if_neg waiting]
    rfl

theorem live_sighting (numbered : t.Numbered) (output : Output) (live : t.Live number) :
    (t.sighting output).Live number := by
  refine live.of_prior (prefix_sighting t output) fun sub inside _ => ?_
  rw [numbered.sighting_subscriptions]
  exact List.mem_append_left _ inside

/-- No other subscription is made than that of a sighting that begins undecided. -/
theorem live_of_sighting (numbered : t.Numbered) {output : Output}
    (live : (t.sighting output).Live number) :
    t.Live number ∨ number = t.sightings.length ∧
      Phase.atFirst output.confidence output.height = .observed := by
  obtain ⟨sub, inside, issued⟩ := live
  rw [numbered.sighting_subscriptions] at inside
  rcases List.mem_append.mp inside with old | new
  · obtain ⟨m, issued'⟩ := numbered.issued sub old
    have here := issued?_inj issued (issued?_of_prior (prefix_sighting t output) issued') rfl
    exact .inl ⟨sub, old, by rw [here]; exact issued'⟩
  · rw [Option.mem_toList] at new
    refine .inr ⟨issued?_inj issued new rfl, ?_⟩
    obtain ⟨reported, last, waiting, -⟩ := issued?_eq_some.mp new
    rw [outputs_sighting, ← length_outputs, List.getElem?_concat_length] at last
    cases last
    exact Phase.atFirst_eq_observed.mpr waiting

theorem sighting (numbered : t.Numbered) (output : Output) : (t.sighting output).Numbered := by
  have subscriptions := numbered.sighting_subscriptions output
  have prior := prefix_sighting t output
  refine ⟨numbered.sighting_nextId output, ?_, ?_, ?_, ?_⟩
  · intro sub inside
    rw [subscriptions] at inside
    rcases List.mem_append.mp inside with old | new
    · obtain ⟨number, issued⟩ := numbered.issued sub old
      exact ⟨number, issued?_of_prior prior issued⟩
    · exact ⟨_, Option.mem_toList.mp new⟩
  · rw [subscriptions, List.map_append]
    refine List.Nodup.append numbered.distinct ?_ ?_
    · cases (t.sighting output).issued? t.sightings.length with
      | none => exact .nil
      | some sub => exact List.nodup_singleton sub.id
    · intro id old new
      obtain ⟨sub, inside, rfl⟩ := List.mem_map.mp old
      obtain ⟨sub', inside', same⟩ := List.mem_map.mp new
      obtain ⟨number, issued⟩ := numbered.issued sub inside
      have here := issued?_inj (issued?_of_prior prior issued) (Option.mem_toList.mp inside')
        same.symm
      exact Nat.ne_of_lt (lt_of_issued? issued) here
  · intro number id held
    rw [held?_sighting] at held
    obtain ⟨sub, issued, same⟩ := numbered.held number id held
    exact ⟨sub, issued?_of_prior prior issued, same⟩
  · intro number s found observed
    rcases sighting_found found with old | ⟨rfl, rfl⟩
    · exact numbered.live_sighting output (numbered.observed number s old observed)
    · have issued := issued?_sighting t (Phase.atFirst_eq_observed.mp observed)
      refine ⟨_, ?_, issued⟩
      rw [subscriptions, issued]
      exact List.mem_append_right _ (.head _)

theorem holding (numbered : t.Numbered) (issued : t.issued? number = some sub) :
    (t.holding number (some sub.id)).Numbered := by
  have outputs := outputs_holding t number (some sub.id)
  refine ⟨?_, ?_, numbered.distinct, ?_, ?_⟩
  · rw [← length_outputs, handle, outputs, length_outputs]
    exact numbered.next
  · intro sub' inside
    obtain ⟨m, issued'⟩ := numbered.issued sub' inside
    exact ⟨m, (issued?_congr outputs m).trans issued'⟩
  · intro m id held
    rw [held?_holding t number m _ (lt_of_issued? issued)] at held
    split at held
    · rename_i here
      cases held
      rw [issued?_congr outputs, ← here]
      exact ⟨sub, issued, rfl⟩
    · obtain ⟨sub', issued', same⟩ := numbered.held m id held
      exact ⟨sub', (issued?_congr outputs m).trans issued', same⟩
  · intro m s' found' observed
    rw [holding_getElem?] at found'
    obtain ⟨s, found, rfl⟩ := Option.map_eq_some_iff.mp found'
    have phase : s.phase = .observed := by
      split at observed <;> exact observed
    rw [live_holding]
    exact numbered.observed m s found phase

theorem keep (numbered : t.Numbered) (issued : t.issued? number = some sub) :
    (Run.after (Tracking.keep number sub.id) t).Numbered := by
  rw [after_keep]
  split
  · rename_i ended
    refine (numbered.holding issued).release fun s found observed => ?_
    rw [found, Option.map_some, observed] at ended
    cases ended
  · exact numbered.holding issued

end Numbered

/-- Subscriptions are numbered like their sightings, whatever happens. -/
theorem Span.numbered (span : Span scope t u) (numbered : t.Numbered) : u.Numbered := by
  induction span with
  | refl => exact numbered
  | moved _ plain _ ih => exact (ih numbered).plain plain
  | ended _ plain number closed _ ih =>
    refine ((ih numbered).plain plain).release fun s found observed => ?_
    have ended := closed.isOpen_eq found
    rw [observed] at ended
    cases ended
  | outside _ announced outside _ ih =>
    obtain ⟨next, issued, distinct, held, observed⟩ := ih numbered
    exact ⟨next, issued, distinct, held, observed⟩
  | sighted _ output _ _ _ _ _ ih => exact (ih numbered).sighting output
  | @followed _ u v before output _ _ _ _ undecided inner _ ih innerIh =>
    have prior := ih numbered
    have issued := issued?_of_prior inner.moves.outputs_prefix
      (issued?_sighting u (Phase.atFirst_eq_observed.mp undecided))
    rw [← prior.next] at issued
    exact (innerIh (prior.sighting output)).keep issued

end Tracking

end Paywatch
