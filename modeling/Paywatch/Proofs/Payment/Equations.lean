import Mathlib.Data.List.Basic
import Paywatch.Proofs.Payment.History
import Paywatch.Proofs.Payment.Steps

/-!
# What the functions of the tracker do

Each function of the tracker is taken apart: it is said for every state which
other function goes on, and from which state.  The functions are taken in the
order in which they call each other.
-/

namespace Paywatch

theorem Feed.announce_eq {σ κ : Type} (feedOf : σ → Feed κ) (call : Subscription κ → Run σ Unit)
    (txid : String) (s : σ) :
    Run.Alike (discard (announce feedOf call txid)) s (((feedOf s).concernedBy txid).forM call) s := by
  unfold announce
  constructor
  · simp only [Run.discard_eq, Run.outcome_bind, Run.outcome_get, Run.after_get, Run.after_bind]
    cases Run.outcome (((feedOf s).concernedBy txid).forM call) s <;> rfl
  · simp only [Run.after_discard, Run.after_bind, Run.outcome_get, Run.after_get]
    cases Run.outcome (((feedOf s).concernedBy txid).forM call) s <;> rfl

namespace Tracking

variable {ω : Type} (ask : Int → Run (Tracking ω) Decimal) {t : Tracking ω}

/-! ## Reports -/

/-- What a report on an open sighting leads to in the end. -/
def attempt (number : Nat) (confidence : Confidence) : Run (Tracking ω) Unit :=
  if confidence = .building then discard (credit ask number) else pure ()

/-- A report is applied to a sighting, and the subscription of one that it ends is given up. -/
theorem react_eq {number : Nat} {s : Sighting} (found : t.sightings[number]? = some s)
    (confidence : Confidence) (height : Option Int) :
    let reported := (t.noted [.reported number confidence height]).phased number
      (s.phase.advance confidence height)
    ∃ record, Run.Alike (react ask number confidence height) t (attempt ask number confidence)
      (if s.phase.advance confidence height = .discarded then
        Run.after (release number) (reported.noted [.logged record])
      else reported) := by
  refine ⟨⟨.info, s!"PAYMENT_TRACKER: Discarding {s.outpoint.text} ({s.output.satoshi} satoshi), "
    ++ s!"confidence became {confidence.text}", none⟩, ?_⟩
  by_cases ended : s.phase.advance confidence height = .discarded
  · rw [if_pos ended]
    constructor <;> simp [react, attempt, found, ended, after_change_phase]
  · rw [if_neg ended]
    constructor <;> simp [react, attempt, found, ended, after_change_phase]

/-- The number that is given for an output is that of an open sighting of it. -/
theorem open?_found {output : Outpoint} {number : Nat} (known : t.open? output = some number) :
    ∃ s, t.sightings[number]? = some s ∧ s.phase.isOpen = true ∧ s.outpoint = output := by
  obtain ⟨inside, isOpen, -⟩ := List.findIdx?_eq_some_iff_getElem.mp known
  rw [Bool.and_eq_true, beq_iff_eq] at isOpen
  exact ⟨t.sightings[number], List.getElem?_eq_getElem inside, isOpen.1, isOpen.2⟩

theorem isOpen_of_open? {output : Outpoint} {number : Nat} {s : Sighting}
    (known : t.open? output = some number) (found : t.sightings[number]? = some s) :
    s.phase.isOpen = true := by
  obtain ⟨s', found', isOpen, -⟩ := open?_found known
  rw [found] at found'
  cases found'
  exact isOpen

theorem confidenceChanged_none {output : Outpoint} (unknown : t.open? output = none)
    (confidence : Confidence) (height : Option Int) :
    Run.Alike (confidenceChanged ask output confidence height) t (pure ()) t := by
  unfold confidenceChanged
  constructor <;> simp [unknown]

theorem confidenceChanged_some {output : Outpoint} {number : Nat}
    (known : t.open? output = some number) (confidence : Confidence) (height : Option Int) :
    Run.Alike (confidenceChanged ask output confidence height) t
      (react ask number confidence height) t := by
  unfold confidenceChanged
  constructor <;> simp [known]

/-! ## Outputs -/

/-- What the feed announces while an output is being subscribed to. -/
def announcing (t : Tracking ω) (output : Outpoint) : Run (Tracking ω) PUnit :=
  ((t.manner.announcedAtOnce.lookup output.txid).getD []).forM fun (confidence, height) =>
    discard (announce ask output.txid confidence height)

/-- Keep a subscription with its sighting, or give it up if that has been discarded. -/
def keep (number id : Nat) : Run (Tracking ω) Unit := do
  change number fun s => { s with subscription := some id }
  if ((← get).sightings[number]?.map (·.phase)) = some .discarded then
    release number

theorem outcome_keep (t : Tracking ω) (number id : Nat) :
    Run.outcome (keep number id) t = .ok () := by
  simp only [keep, Run.outcome_bind, outcome_change, after_change_subscription, Run.outcome_get,
    Run.after_get]
  split
  · exact outcome_release number _
  · rfl

theorem after_keep (t : Tracking ω) (number id : Nat) :
    let u := t.holding number (some id)
    Run.after (keep number id) t =
      if u.sightings[number]?.map (·.phase) = some .discarded then Run.after (release number) u
      else u := by
  simp only [keep, Run.after_bind, outcome_change, after_change_subscription, Run.outcome_get,
    Run.after_get]
  split <;> rfl

/-- To follow an output is to subscribe to it, hear what is announced, and keep the subscription. -/
theorem follow_eq (t : Tracking ω) (number : Nat) (output : Output) :
    ∃ record, Run.Alike (follow ask number output) t
      (announcing ask t output.outpoint >>= fun _ => keep number t.feed.nextId)
      ((t.subscribing output.outpoint).noted [.logged record]) := by
  let rest := (announcing ask t output.outpoint >>= fun _ => pure t.feed.nextId) >>=
    fun id => keep number id
  have once : rest = announcing ask t output.outpoint >>= fun _ => keep number t.feed.nextId := by
    simp only [rest, bind_assoc, pure_bind]
  rw [← once]
  exact ⟨_, rfl, rfl⟩

/-- What is done about a sighting once its first report has been noted. -/
def proceed (number : Nat) (output : Output) : Phase → Run (Tracking ω) Unit
  | .confirmed _ => discard (credit ask number)
  | .discarded => log .warning <|
      s!"PAYMENT_TRACKER: Ignoring {output.outpoint.text} received with confidence " ++
        output.confidence.text
  | _ => follow ask number output

theorem observe_eq (t : Tracking ω) (output : Output) :
    Run.Alike (observe ask output) t
      (proceed ask t.sightings.length output (Phase.atFirst output.confidence output.height))
      (t.beginning output) := by
  have begun : Run.after (do
      modify fun t : Tracking ω => { t with sightings := t.sightings ++
        [⟨output, Phase.atFirst output.confidence output.height, none⟩] }
      note (.sighted t.sightings.length output)
      note (.reported t.sightings.length output.confidence output.height)) t =
        t.beginning output := by
    simp [noted, beginning]
  simp only [Run.after_bind, Run.outcome_modify, Run.after_modify, outcome_note,
    after_note] at begun
  constructor
  · simp only [observe, Run.outcome_bind, Run.outcome_get, Run.after_get, Run.outcome_modify,
      Run.after_modify, outcome_note, after_note, begun]
    cases Phase.atFirst output.confidence output.height <;> rfl
  · simp only [observe, Run.after_bind, Run.outcome_get, Run.after_get, Run.outcome_modify,
      Run.after_modify, outcome_note, after_note, begun]
    cases Phase.atFirst output.confidence output.height <;> rfl

/-- A report that concerns no one. -/
theorem outputReceived_none {output : Output}
    (idle : t.isProcessed output.outpoint = true ∨ t.feed.isWatched output.address = false) :
    Run.Alike (outputReceived ask output) t (pure ()) t := by
  unfold outputReceived
  cases processed : t.isProcessed output.outpoint with
  | true => constructor <;> simp [processed]
  | false =>
    rcases idle with processed' | unwatched
    · rw [processed] at processed'
      cases processed'
    · constructor <;> simp [processed, unwatched]

/-- A report of an output that is followed. -/
theorem outputReceived_known {output : Output} {number : Nat}
    (new : t.isProcessed output.outpoint = false)
    (watched : t.feed.isWatched output.address = true)
    (known : t.open? output.outpoint = some number) :
    Run.Alike (outputReceived ask output) t
      (react ask number output.confidence output.height) t := by
  unfold outputReceived
  constructor <;> simp [new, watched, known]

/-- A report of a watched output that is neither credited nor followed. -/
theorem outputReceived_unknown {output : Output} (new : t.isProcessed output.outpoint = false)
    (watched : t.feed.isWatched output.address = true)
    (unknown : t.open? output.outpoint = none) :
    Run.Alike (outputReceived ask output) t (observe ask output) t := by
  unfold outputReceived
  constructor <;> simp [new, watched, unknown]

/-! ## What the operator does -/

/-- The sightings that wait for their credit, as numbers in their order. -/
theorem awaitingCredit_eq (t : Tracking ω) :
    t.awaitingCredit = (List.range t.sightings.length).filter fun number =>
      t.sightings[number]?.any (·.phase.isConfirmed) := by
  rw [List.range_eq_range', ← List.zipIdx_map_snd, List.filter_map, awaitingCredit]
  congr 1
  apply List.filter_congr
  intro entry inside
  rw [Function.comp, List.mem_zipIdx_iff_getElem?.mp inside, Option.any_some]

/-- To credit some sightings is to try each of them. -/
theorem discard_creditAll (numbers : List Nat) :
    discard (creditAll ask numbers) = numbers.forM fun number => discard (credit ask number) := by
  induction numbers with
  | nil => rfl
  | cons number numbers ih =>
    change discard (creditAll ask (number :: numbers)) =
      (discard (credit ask number) >>= fun _ => numbers.forM _)
    rw [← ih]
    simp only [creditAll, Run.discard_eq, bind_assoc, pure_bind]

/-- To retry is to try each sighting that waits. -/
theorem retry_eq (t : Tracking ω) :
    ∃ events, History.Quiet events ∧ Run.Alike (discard (retry ask)) t
      (t.awaitingCredit.forM fun number => discard (credit ask number)) (t.noted events) := by
  rw [← discard_creditAll]
  let announced : Run (Tracking ω) Nat := do
    if !t.awaitingCredit.isEmpty then
      log .info s!"PAYMENT_TRACKER: Retrying {t.awaitingCredit.length} uncredited confirmed outputs"
    creditAll ask t.awaitingCredit
  have told : Run.Alike (discard (retry ask)) t (discard announced) t := ⟨rfl, rfl⟩
  unfold announced at told
  split at told
  · exact ⟨[_], History.quiet_singleton rfl, told.outcome, told.after⟩
  · have same : t = t.noted [] := by rw [noted, List.append_nil]
    refine ⟨[], History.quiet_nil, ?_⟩
    rw [← same]
    exact told

end Tracking

end Paywatch
