import Paywatch.Proofs.Payment.CatchUp

/-!
# Functions keep a tracker behind

Each function of the tracker keeps one tracker behind another one and fails in
neither of them.  The functions are taken in the order in which they call each
other.  A call about an output that only the first tracker has credited is of no
concern there, and may let the second one catch up.
-/

namespace Paywatch

namespace Tracking

variable {early late : RateList} {p d : Tracking RateList} {α β : Type}

/-! ## Steps that are tied -/

/-- Two steps give results, and keep one tracker behind the other one. -/
structure Joint (early late : RateList) (x : Run (Tracking RateList) α) (p : Tracking RateList)
    (y : Run (Tracking RateList) α) (d : Tracking RateList) : Prop where
  left : Run.Succeeds x p
  right : Run.Succeeds y d
  behind : Behind early late (Run.after x p) (Run.after y d)

/-- A step that keeps a tracker behind another one when it is taken in both of them. -/
def Tied (step : Run (Tracking RateList) α) : Prop :=
  ∀ ⦃early late : RateList⦄ ⦃p d : Tracking RateList⦄, Behind early late p d →
    (Run.after step p).Sound → Joint early late step p step d

theorem Behind.joint_pure (behind : Behind early late p d) (a : α) :
    Joint early late (pure a) p (pure a) d :=
  ⟨⟨a, rfl⟩, ⟨a, rfl⟩, behind⟩

namespace Joint

theorem of_alike {x x' y y' : Run (Tracking RateList) α} {p' d' : Tracking RateList}
    (joint : Joint early late x' p' y' d') (left : Run.Alike x p x' p')
    (right : Run.Alike y d y' d') : Joint early late x p y d := by
  refine ⟨left.succeeds joint.left, right.succeeds joint.right, ?_⟩
  rw [left.after, right.after]
  exact joint.behind

theorem seq {x y : Run (Tracking RateList) α} {x' y' : Run (Tracking RateList) β}
    (first : Joint early late x p y d)
    (rest : Joint early late x' (Run.after x p) y' (Run.after y d)) :
    Joint early late (x >>= fun _ => x') p (y >>= fun _ => y') d := by
  refine ⟨first.left.seq rest.left, first.right.seq rest.right, ?_⟩
  rw [first.left.after_seq.2, first.right.after_seq.2]
  exact rest.behind

theorem discard {x y : Run (Tracking RateList) α} (joint : Joint early late x p y d) :
    Joint early late (Functor.discard x) p (Functor.discard y) d := by
  refine ⟨joint.left.discard, joint.right.discard, ?_⟩
  rw [Run.after_discard, Run.after_discard]
  exact joint.behind

end Joint

theorem moves_bind {x : Run (Tracking RateList) α} {f : α → Run (Tracking RateList) β}
    (rest : ∀ a, Spanning {} (f a)) (t : Tracking RateList) :
    Moves (Run.after x t) (Run.after (x >>= f) t) := by
  rw [Run.after_bind]
  cases Run.outcome x t with
  | error failure => exact .refl
  | ok a => exact (rest a).moves _

theorem tied_pure (a : α) : Tied (pure a : Run (Tracking RateList) α) :=
  fun _ _ _ _ behind _ => behind.joint_pure a

theorem Tied.seq {x : Run (Tracking RateList) α} {y : Run (Tracking RateList) β} (first : Tied x)
    (rest : Tied y) (spanning : Spanning {} y) : Tied (x >>= fun _ => y) := by
  intro early late p d behind sound
  have joint := first behind (sound.before (moves_bind (fun _ => spanning) p))
  rw [joint.left.after_seq.2] at sound
  exact joint.seq (rest joint.behind sound)

theorem Tied.discard {x : Run (Tracking RateList) α} (tied : Tied x) : Tied (discard x) := by
  intro early late p d behind sound
  rw [Run.after_discard] at sound
  exact (tied behind sound).discard

theorem Tied.forM {f : α → Run (Tracking RateList) PUnit} (each : ∀ a, Tied (f a))
    (spanning : ∀ a, Spanning {} (f a)) (as : List α) : Tied (as.forM f) := by
  induction as with
  | nil => exact tied_pure PUnit.unit
  | cons a as ih => exact (each a).seq ih (Spanning.forM fun b _ => spanning b)

/-! ## Steps that only matter to the second tracker -/

/-- Steps that do nothing may be left out. -/
theorem alike_filter {f : α → Run (Tracking RateList) PUnit} {live : α → Bool}
    {t u : Tracking RateList} (spanning : ∀ a, Spanning {} (f a))
    (idle : ∀ a, live a = false → ∀ u, Moves t u → Run.Alike (f a) u (pure ()) u)
    (as : List α) (moves : Moves t u) :
    Run.Alike (as.forM f) u ((as.filter live).forM f) u := by
  induction as generalizing u with
  | nil => exact ⟨rfl, rfl⟩
  | cons a as ih =>
    have first (rest : List α) : (a :: rest).forM f = (f a >>= fun _ => rest.forM f) := rfl
    rw [first]
    cases counts : live a with
    | false =>
      have nothing := idle a counts u moves
      have skipped := (nothing.succeeds ⟨(), rfl⟩).after_seq (y := as.forM f)
      rw [nothing.after, Run.after_pure] at skipped
      rw [List.filter_cons_of_neg (by rw [counts]; exact Bool.false_ne_true)]
      exact ⟨skipped.1.trans (ih moves).outcome, skipped.2.trans (ih moves).after⟩
    | true =>
      have rest := ih (moves.trans ((spanning a).moves u))
      rw [List.filter_cons_of_pos counts, first]
      constructor
      · rw [Run.outcome_bind, Run.outcome_bind, rest.outcome]
      · rw [Run.after_bind, Run.after_bind, rest.after]

/--
Two lists of calls that differ only in calls that do nothing to the first tracker,
and keep the second one behind it.
-/
theorem Behind.forM_live {f : α → Run (Tracking RateList) PUnit} {live : α → Bool}
    (behind : Behind early late p d) (spanning : ∀ a, Spanning {} (f a)) (tied : ∀ a, Tied (f a))
    (idle : ∀ a, live a = false → ∀ u, Moves p u → Run.Alike (f a) u (pure ()) u)
    {as bs : List α} (same : bs.filter live = as.filter live)
    (sound : (Run.after (as.forM f) p).Sound) :
    Joint early late (as.forM f) p (bs.forM f) d := by
  have left := alike_filter spanning idle as .refl
  have right := alike_filter spanning idle bs .refl
  rw [same] at right
  rw [left.after, ← right.after] at sound
  have joint := Tied.forM tied spanning bs behind sound
  refine ⟨left.succeeds (right.symm.succeeds joint.left), joint.right, ?_⟩
  rw [left.after, ← right.after]
  exact joint.behind

/-! ## Credits -/

theorem tied_credit (number : Nat) : Tied (credit lookup number) := by
  intro early late p d behind sound
  obtain ⟨left, behind', made⟩ := behind.credit_left sound
  have already : ∀ s height rate, d.Due number s height → late.rateAt height = .ok rate →
      ∃ c ∈ (Run.after (credit lookup number) p).credits, c.number = number := by
    intro s height rate due rated
    obtain ⟨s₀, found₀, -⟩ := behind.found_left due.found
    rcases behind.same number s₀ s found₀ due.found with rfl | credited
    · have isOpen : s.phase.isOpen = true := by
        rw [due.block]
        rfl
      exact made s height rate ⟨found₀, due.block, behind.left.unprocessed found₀ isOpen⟩
        (behind.rates.known height rate rated)
    · obtain ⟨c, old, here⟩ := behind.left.settled.credited number s₀ found₀ credited
      exact ⟨c, Moves.credits_subset ((spanning_credit spanning_lookup number).moves p) old, here⟩
  obtain ⟨right, behind''⟩ := behind'.credit_right already
  exact ⟨left, right, behind''⟩

/-- A sighting whose output is in the ledger is not tried again. -/
theorem credit_idle {t : Tracking RateList} {number : Nat} {s : Sighting}
    (found : t.sightings[number]? = some s) (processed : t.isProcessed s.outpoint = true) :
    Run.Alike (discard (credit lookup number)) t (pure ()) t := by
  unfold credit
  constructor <;> simp [Run.discard_eq, found, processed]

/-! ## Reports -/

theorem tied_attempt (number : Nat) (confidence : Confidence) :
    Tied (attempt lookup number confidence) := by
  unfold attempt
  split
  · exact (tied_credit number).discard
  · exact tied_pure ()

/-- A report on a sighting that is open in both trackers. -/
theorem Behind.reacted (behind : Behind early late p d) {number : Nat} {s : Sighting}
    (found : p.sightings[number]? = some s) (isOpen : s.phase.isOpen = true)
    (confidence : Confidence) (height : Option Int)
    (sound : (Run.after (react lookup number confidence height) p).Sound) :
    Joint early late (react lookup number confidence height) p
      (react lookup number confidence height) d := by
  have found' := behind.found_same found (Phase.ne_credited isOpen)
  obtain ⟨record, left⟩ := react_eq lookup found confidence height
  obtain ⟨record', right⟩ := react_eq lookup found' confidence height
  rw [left.after] at sound
  refine (tied_attempt number confidence ?_ sound).of_alike left right
  have reported := behind.reported found isOpen confidence height
  split
  · rename_i ended
    have phased := phased_getElem? (p.noted [.reported number confidence height]) number number
      (s.phase.advance confidence height)
    rw [noted_sightings, found, Option.map_some, if_pos rfl] at phased
    exact (reported.logged record record').released phased ended
  · exact reported

theorem phased_self {t : Tracking RateList} {number : Nat} {s : Sighting}
    (found : t.sightings[number]? = some s) : t.phased number s.phase = t := by
  have same : t.sightings.modify number (fun s' => { s' with phase := s.phase }) = t.sightings := by
    apply List.ext_getElem?
    intro m
    rw [List.getElem?_modify]
    by_cases here : number = m
    · rw [← here, found, Option.map_eq_map, Option.map_some, if_pos rfl]
    · rw [Option.map_eq_map]
      simp only [if_neg here, Option.map_id']
  rw [phased, same]

/-- A report on a sighting that only the first tracker has credited may make up for that credit. -/
theorem Behind.reacted_right (behind : Behind early late p d) {output : Outpoint} {number : Nat}
    (processed : p.isProcessed output = true) (known : d.open? output = some number)
    (confidence : Confidence) (height : Option Int) :
    Joint early late (pure ()) p (react lookup number confidence height) d := by
  obtain ⟨s', found', isOpen, rfl⟩ := open?_found known
  obtain ⟨s, found, same⟩ := behind.found_left found'
  have credited : s.phase = .credited := by
    rcases behind.same number s s' found found' with rfl | credited
    · rw [behind.left.unprocessed found isOpen] at processed
      cases processed
    · exact credited
  rcases behind.waiting found credited found' with credited' | ⟨c, made, here, block, -⟩
  · exact absurd credited' (Phase.ne_credited isOpen)
  · -- the block is known, so that the report changes nothing but may lead to the credit
    have kept : s'.phase.advance confidence height = s'.phase := by
      rw [block]
      rfl
    have reported : Behind early late p (d.noted [.reported number confidence height]) :=
      behind.noted_right (History.quiet_singleton rfl)
    have same : (d.noted [.reported number confidence height]).phased number s'.phase =
        d.noted [.reported number confidence height] := phased_self found'
    obtain ⟨record, right⟩ := react_eq lookup found' confidence height
    rw [kept, same, if_neg (by rw [block]; exact fun same => by cases same)] at right
    refine Joint.of_alike ?_ ⟨rfl, rfl⟩ right
    unfold attempt
    split
    · obtain ⟨succeeds, behind'⟩ := reported.credit_right fun _ _ _ _ _ => ⟨c, made, here⟩
      rw [← Run.after_discard] at behind'
      exact ⟨⟨(), rfl⟩, succeeds.discard, behind'⟩
    · exact reported.joint_pure ()

/-! ## Announcements -/

theorem tied_confidenceChanged (output : Outpoint) (confidence : Confidence)
    (height : Option Int) : Tied (confidenceChanged lookup output confidence height) := by
  intro early late p d behind sound
  cases processed : p.isProcessed output with
  | true =>
    have left := confidenceChanged_none lookup (behind.left.unknown .refl processed) confidence
      height
    cases known : d.open? output with
    | none =>
      have right := confidenceChanged_none lookup known confidence height
      exact (behind.joint_pure ()).of_alike left right
    | some number =>
      have right := confidenceChanged_some lookup known confidence height
      exact (behind.reacted_right processed known confidence height).of_alike left right
  | false =>
    have alike := behind.open?_eq processed
    cases known : p.open? output with
    | none =>
      have left := confidenceChanged_none lookup known confidence height
      have right := confidenceChanged_none lookup (alike.trans known) confidence height
      exact (behind.joint_pure ()).of_alike left right
    | some number =>
      obtain ⟨s, found, isOpen, -⟩ := open?_found known
      have left := confidenceChanged_some lookup known confidence height
      have right := confidenceChanged_some lookup (alike.trans known) confidence height
      rw [left.after] at sound
      exact (behind.reacted found isOpen confidence height sound).of_alike left right

theorem tied_announce (txid : String) (confidence : Confidence) (height : Option Int) :
    Tied (discard (announce lookup txid confidence height)) := by
  intro early late p d behind sound
  have left := announce_eq lookup behind.left.wired txid confidence height
  have right := announce_eq lookup behind.right.wired txid confidence height
  rw [left.after] at sound
  have same : (d.feed.concernedBy txid).filter p.follows =
      (p.feed.concernedBy txid).filter p.follows := by
    unfold Feed.concernedBy
    rw [List.filter_comm, behind.feeds.followed, List.filter_comm]
  have idle : ∀ sub, p.follows sub = false → ∀ u, Moves p u →
      Run.Alike (confidenceChanged lookup sub.output confidence height) u (pure ()) u := by
    intro sub unfollowed u moves
    have processed : p.isProcessed sub.output = true := by
      rw [follows, Bool.not_eq_false'] at unfollowed
      exact unfollowed
    exact confidenceChanged_none lookup
      (behind.left.unknown moves (moves.isProcessed processed)) confidence height
  have spanning (sub : Subscription Callback) :
      Spanning {} (confidenceChanged lookup sub.output confidence height) :=
    spanning_confidenceChanged spanning_lookup sub.output confidence height
  have tied (sub : Subscription Callback) :
      Tied (confidenceChanged lookup sub.output confidence height) :=
    tied_confidenceChanged sub.output confidence height
  exact (behind.forM_live spanning tied idle same sound).of_alike left right

end Tracking

end Paywatch
