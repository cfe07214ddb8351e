import Paywatch.Proofs.Payment.Consistency

/-!
# Attempts that credit nothing

A try to credit ends without a credit when the block is not known, when no rate is
told for it, or when the payment cannot be converted at that rate or be entered.
In the first two cases nothing fails; in the others the operation that tries does.
Either way the ledger, the register and the feed stay as they are, so that the
sighting keeps waiting for its credit.  All this is said of questions during which
nothing else happens to the tracker.
-/

namespace Paywatch

def TrackingEvent.isRemark : TrackingEvent → Bool
  | .logged _ | .asked .. | .answered .. => true
  | _ => false

namespace Tracking

variable {ω : Type} {t u v : Tracking ω}

/-! ## Nothing but remarks -/

/-- Nothing has happened but remarks in the journal and changes outside. -/
structure Unmoved (t u : Tracking ω) : Prop where
  feed : u.feed = t.feed
  manner : u.manner = t.manner
  sightings : u.sightings = t.sightings
  ledger : u.ledger = t.ledger
  journal : ∃ remarks : List TrackingEvent,
    u.journal = t.journal ++ remarks ∧ ∀ event ∈ remarks, event.isRemark

namespace Unmoved

theorem refl (t : Tracking ω) : Unmoved t t :=
  ⟨rfl, rfl, rfl, rfl, [], (List.append_nil _).symm, by simp⟩

theorem trans (first : Unmoved t u) (second : Unmoved u v) : Unmoved t v := by
  obtain ⟨remarks, journal, allowed⟩ := first.journal
  obtain ⟨remarks', journal', allowed'⟩ := second.journal
  refine ⟨second.feed.trans first.feed, second.manner.trans first.manner,
    second.sightings.trans first.sightings, second.ledger.trans first.ledger,
    remarks ++ remarks', ?_, ?_⟩
  · rw [journal', journal, List.append_assoc]
  · intro event inside
    exact (List.mem_append.mp inside).elim (allowed event) (allowed' event)

theorem noted (before : Unmoved t u) (event : TrackingEvent) (remark : event.isRemark) :
    Unmoved t (u.noted [event]) :=
  before.trans ⟨rfl, rfl, rfl, rfl, [event], rfl, by simpa using remark⟩

theorem isProcessed_eq (unmoved : Unmoved t u) (output : Outpoint) :
    u.isProcessed output = t.isProcessed output := by
  rw [isProcessed, isProcessed, unmoved.ledger]

theorem awaitingCredit_eq (unmoved : Unmoved t u) : u.awaitingCredit = t.awaitingCredit := by
  rw [awaitingCredit, awaitingCredit, unmoved.sightings]

end Unmoved

/--
A step stands aside from the tracker: the log may be told something and what lies
outside may change, but no operation is performed.
-/
def StandsAside {α : Type} (step : Run (Tracking ω) α) (t : Tracking ω) : Prop :=
  ∃ (records : List LogRecord) (outside : ω),
    Run.after step t = { t.noted (records.map .logged) with outside := outside }

namespace StandsAside

variable {α : Type} {step : Run (Tracking ω) α}

theorem of_after_eq (same : Run.after step t = t) : StandsAside step t := by
  refine ⟨[], t.outside, ?_⟩
  rw [same, List.map_nil, Tracking.noted, List.append_nil]

theorem unmoved (aside : StandsAside step t) : Unmoved t (Run.after step t) := by
  obtain ⟨records, outside, after⟩ := aside
  rw [after]
  refine ⟨rfl, rfl, rfl, rfl, records.map .logged, rfl, ?_⟩
  intro event inside
  obtain ⟨record, -, rfl⟩ := List.mem_map.mp inside
  rfl

theorem span {scope : Scope} (aside : StandsAside step t)
    (admits : scope.Admits t.manner.announcedAtOnce) : Span scope t (Run.after step t) := by
  obtain ⟨records, outside, after⟩ := aside
  have told (records : List LogRecord) : Span scope t (t.noted (records.map .logged)) := by
    induction records using List.reverseRecOn with
    | nil =>
      rw [List.map_nil, Tracking.noted, List.append_nil]
      exact .refl t
    | append_singleton records record ih =>
      have last : t.noted ((records ++ [record]).map .logged) =
          (t.noted (records.map .logged)).noted [.logged record] := by
        rw [List.map_append, Tracking.noted, Tracking.noted, Tracking.noted, List.append_assoc]
        rfl
      rw [last]
      exact ih.noted (.logged _ record)
  rw [after]
  exact (told records).outside _ outside admits

end StandsAside

/-- Questions during which no operation is performed. -/
def Aside (ask : Int → Run (Tracking ω) Decimal) : Prop :=
  ∀ (height : Int) (t : Tracking ω), StandsAside (ask height) t

theorem Aside.spanning {scope : Scope} {ask : Int → Run (Tracking ω) Decimal} (aside : Aside ask)
    (height : Int) : Spanning scope (Run.attempt (ask height)) :=
  fun t admits _ => (aside height t).span admits

/-! ## What a try comes to -/

/-- What a rate makes of the credit for an output: it is made unless it cannot be. -/
def verdictAt (output : Output) (rate : Decimal) : Except Failure Bool :=
  match convertToUsd output.satoshi rate with
  | .error signal => .error (.arithmetic signal)
  | .ok usd =>
    match usd.isNegative with
    | .error signal => .error (.arithmetic signal)
    | .ok true => .error (.negativeCredit usd output.outpoint)
    | .ok false => .ok true

/-- What a block and the answer on its rate make of the credit for an output. -/
def verdict (output : Output) (block : Option Int) (answer : Int → Except Failure Decimal) :
    Except Failure Bool :=
  match block with
  | none => .ok false
  | some height =>
    match answer height with
    | .error _ => .ok false
    | .ok rate => verdictAt output rate

/-- A credit is settled as its rate allows, where no sum is refused. -/
theorem outcome_settle (number : Nat) {output : Output} (height : Int) {rate : Decimal}
    (new : t.isProcessed output.outpoint = false)
    (summable : ∀ usd signal, convertToUsd output.satoshi rate = .ok usd →
      usd.isNegative = .ok false → t.ledger.total.add usd ≠ .error signal) :
    Run.outcome (settle number output height rate) t = verdictAt output rate ∧
      (verdictAt output rate ≠ .ok true →
        Run.after (settle number output height rate) t = t) := by
  unfold verdictAt
  cases converted : convertToUsd output.satoshi rate with
  | error signal => simp [settle, converted, ofArithmetic]
  | ok usd =>
    dsimp only
    cases negative : usd.isNegative with
    | error signal => simp [settle, converted, ofArithmetic, new, enter, Ledger.commit, negative]
    | ok below =>
      cases below with
      | true => simp [settle, converted, ofArithmetic, new, enter, Ledger.commit, negative]
      | false =>
        refine ⟨?_, fun uncredited => absurd rfl uncredited⟩
        have comes := settles t number output height rate
        generalize Run.outcome (settle number output height rate) t = result at comes ⊢
        generalize Run.after (settle number output height rate) t = u at comes
        cases comes with
        | failed failure other refused => exact absurd negative (refused usd converted)
        | concurrent record processed => rw [new] at processed; cases processed
        | unsummed usd' signal _ converted' nonneg refused =>
          exact absurd refused (summable usd' signal converted' nonneg)
        | credited => rfl

/-- A try to credit a confirmed sighting gives its verdict, and without a credit nothing moves. -/
theorem outcome_credit {ask : Int → Run (Tracking ω) Decimal} {number : Nat}
    (aside : ∀ height, StandsAside (ask height) (t.noted [.asked number height]))
    (coherent : t.Coherent) {s : Sighting} {block : Option Int}
    (found : t.sightings[number]? = some s) (confirmed : s.phase = .confirmed block) :
    Run.outcome (credit ask number) t =
        verdict s.output block (fun height => Run.outcome (ask height) (t.noted [.asked number height])) ∧
      (Run.outcome (credit ask number) t ≠ .ok true →
        Unmoved t (Run.after (credit ask number) t)) := by
  have new := coherent.unprocessed found (by rw [confirmed]; rfl)
  cases block with
  | none =>
    have unknown : s.phase.height? = none := by rw [confirmed]; rfl
    constructor
    · simp [credit, found, new, unknown, verdict]
    · intro _
      simp only [credit, found, new, unknown, Run.after_bind, Run.outcome_get, Run.after_get,
        Bool.false_eq_true, if_false, outcome_log, after_log, Run.after_pure]
      exact (Unmoved.refl t).noted _ rfl
  | some height =>
    have known : s.phase.height? = some height := by rw [confirmed]; rfl
    have asked := ((Unmoved.refl t).noted (.asked number height) rfl).trans
      (aside height).unmoved
    simp only [credit, found, new, known, Run.outcome_bind, Run.after_bind, Run.outcome_get,
      Run.after_get, Bool.false_eq_true, if_false, outcome_note, after_note, Run.outcome_attempt,
      Run.after_attempt, verdict]
    cases told : Run.outcome (ask height) (t.noted [.asked number height]) with
    | error failure =>
      obtain ⟨level, text, cause, logged⟩ := logNoRate_eq_log (ω := ω) s.output height failure
      simp only [logged, Run.outcome_bind, Run.after_bind, outcome_log, after_log,
        Run.outcome_pure, Run.after_pure, true_and]
      exact fun _ => (asked.noted _ rfl).noted _ rfl
    | ok rate =>
      dsimp only
      have answered := asked.noted (.answered number height (some rate)) rfl
      have new' := (answered.isProcessed_eq s.output.outpoint).trans new
      obtain ⟨outcome, after⟩ := outcome_settle number height new' fun usd signal converted nonneg => by
        rw [answered.ledger]
        exact coherent.balanced.not_refused converted nonneg
      refine ⟨outcome, fun uncredited => ?_⟩
      rw [Except.toOption, after (outcome ▸ uncredited)]
      exact answered

/-! ## Where operations try -/

def building (t : Tracking ω) (number : Nat) (s : Sighting) (height : Option Int) : Tracking ω :=
  (t.noted [.reported number .building height]).phased number (s.phase.advance .building height)

def retrying (t : Tracking ω) : Tracking ω :=
  t.noted [.logged ⟨.info,
    s!"PAYMENT_TRACKER: Retrying {t.awaitingCredit.length} uncredited confirmed outputs", none⟩]

/--
An operation that is performed from `t` tries to credit a sighting, in the state `u`,
and goes on with the rest if that does not fail.
-/
inductive Calls (ask : Int → Run (Tracking ω) Decimal) (t : Tracking ω) :
    Operation → Nat → Tracking ω → Run (Tracking ω) Unit → Prop
  /-- An output that is followed is reported in a block. -/
  | reported {output : Output} {number : Nat} {s : Sighting}
      (new : t.isProcessed output.outpoint = false)
      (watched : t.feed.isWatched output.address = true)
      (known : t.open? output.outpoint = some number) (found : t.sightings[number]? = some s)
      (block : output.confidence = .building) :
      Calls ask t (.output output) number (t.building number s output.height) (pure ())
  /-- An output is reported in a block at first sight. -/
  | sighted {output : Output} (new : t.isProcessed output.outpoint = false)
      (watched : t.feed.isWatched output.address = true)
      (unknown : t.open? output.outpoint = none) (block : output.confidence = .building) :
      Calls ask t (.output output) t.sightings.length (t.beginning output) (pure ())
  /-- A callback tells that an output is in a block. -/
  | called {outpoint : Outpoint} {number : Nat} {s : Sighting} {height : Option Int}
      (known : t.open? outpoint = some number) (found : t.sightings[number]? = some s) :
      Calls ask t (.callback outpoint .building height) number (t.building number s height)
        (pure ())
  /-- The turn of a sighting comes when all waiting ones are tried. -/
  | retried {before after : List Nat} {number count : Nat}
      (waiting : t.awaitingCredit = before ++ number :: after)
      (passed : Run.outcome (creditAll ask before) t.retrying = .ok count) :
      Calls ask t .retry number (Run.after (creditAll ask before) t.retrying)
        (discard (creditAll ask after))

theorem advance_building {phase : Phase} (isOpen : phase.isOpen = true) (height : Option Int) :
    ∃ block, phase.advance .building height = .confirmed block := by
  cases phase with
  | observed => exact ⟨height, rfl⟩
  | confirmed block =>
    cases block with
    | none => exact ⟨height, rfl⟩
    | some block => exact ⟨some block, rfl⟩
  | credited | discarded => cases isOpen

theorem react_building (ask : Int → Run (Tracking ω) Decimal) {number : Nat} {s : Sighting}
    (found : t.sightings[number]? = some s) (isOpen : s.phase.isOpen = true)
    (height : Option Int) :
    Run.Alike (react ask number .building height) t (discard (credit ask number))
      (t.building number s height) := by
  obtain ⟨record, alike⟩ := react_eq ask found .building height
  obtain ⟨block, confirmed⟩ := advance_building isOpen height
  rw [if_neg (by rw [confirmed]; exact nofun)] at alike
  exact alike

/-- Credits one after the other may be parted anywhere. -/
theorem creditAll_append (ask : Int → Run (Tracking ω) Decimal) (before after : List Nat) :
    discard (creditAll ask (before ++ after)) =
      (discard (creditAll ask before) >>= fun _ => discard (creditAll ask after)) := by
  simp only [discard_creditAll]
  exact List.forM_append

theorem retry_alike (ask : Int → Run (Tracking ω) Decimal) (waiting : t.awaitingCredit ≠ []) :
    Run.Alike (retry ask) t (creditAll ask t.awaitingCredit) t.retrying := by
  unfold retry retrying
  constructor <;> simp [waiting]

/-- What an operation is from the try on. -/
theorem Calls.alike {ask : Int → Run (Tracking ω) Decimal} {operation : Operation} {number : Nat}
    {rest : Run (Tracking ω) Unit} (calls : Calls ask t operation number u rest) :
    Run.Alike (operation.perform ask) t (discard (credit ask number) >>= fun _ => rest) u := by
  cases calls with
  | @reported output number s new watched known found block =>
    have isOpen := isOpen_of_open? known found
    have received := outputReceived_known ask new watched known
    rw [block] at received
    rw [bind_pure_unit]
    exact received.trans (react_building ask found isOpen output.height)
  | @sighted output new watched unknown block =>
    have observes := observe_eq ask t output
    rw [block] at observes
    rw [bind_pure_unit]
    exact (outputReceived_unknown ask new watched unknown).trans observes
  | @called outpoint number s height known found =>
    have isOpen := isOpen_of_open? known found
    rw [bind_pure_unit]
    exact (confidenceChanged_some ask known .building height).trans
      (react_building ask found isOpen height)
  | @retried before after number count waiting passed =>
    have retries := (retry_alike ask (t := t) (by rw [waiting]; simp)).discard
    rw [waiting, creditAll_append] at retries
    have first : Run.Succeeds (discard (creditAll ask before)) t.retrying :=
      Run.Succeeds.discard ⟨count, passed⟩
    have next : discard (creditAll ask (number :: after)) =
        (discard (credit ask number) >>= fun _ => discard (creditAll ask after)) := by
      rw [discard_creditAll, discard_creditAll]
      rfl
    rw [next] at retries
    have goes := first.after_seq (y := discard (credit ask number) >>= fun _ =>
      discard (creditAll ask after))
    rw [Run.after_discard] at goes
    exact retries.trans ⟨goes.1, goes.2⟩

/-! ## Where failures come from -/

/-- A try to credit failed in a state that moves led to, and left the tracker as it is now. -/
def FailedTry (ask : Int → Run (Tracking ω) Decimal) (t : Tracking ω) (failure : Failure)
    (now : Tracking ω) : Prop :=
  ∃ number u, Moves t u ∧ Run.outcome (credit ask number) u = .error failure ∧
    Run.after (credit ask number) u = now

/-- A step fails only with a try to credit, from any state. -/
def Blames {α : Type} (ask : Int → Run (Tracking ω) Decimal) (step : Run (Tracking ω) α) : Prop :=
  ∀ t failure, Run.outcome step t = .error failure → FailedTry ask t failure (Run.after step t)

section

variable {α β : Type} {ask : Int → Run (Tracking ω) Decimal}

theorem FailedTry.later {failure : Failure} (moves : Moves t u) (failed : FailedTry ask u failure v) :
    FailedTry ask t failure v := by
  obtain ⟨number, u', moves', outcome, after⟩ := failed
  exact ⟨number, u', moves.trans moves', outcome, after⟩

/-- From a state that moves led to, a step fails as one from there does. -/
theorem FailedTry.of_alike {x y : Run (Tracking ω) α} {failure : Failure}
    (alike : Run.Alike x v y u) (moves : Moves t u) (blames : Blames ask y)
    (failed : Run.outcome x v = .error failure) : FailedTry ask t failure (Run.after x v) := by
  rw [alike.after]
  exact (blames u failure (alike.outcome ▸ failed)).later moves

theorem blames_pure (a : α) : Blames ask (pure a : Run (Tracking ω) α) := by
  intro t failure failed
  cases failed

theorem Blames.bind {x : Run (Tracking ω) α} {f : α → Run (Tracking ω) β} (first : Blames ask x)
    (moves : ∀ t, Moves t (Run.after x t)) (rest : ∀ a, Blames ask (f a)) :
    Blames ask (x >>= f) := by
  intro t failure failed
  rw [Run.outcome_bind] at failed
  rw [Run.after_bind]
  cases result : Run.outcome x t with
  | error failure' =>
    rw [result] at failed
    cases failed
    exact first t failure result
  | ok a =>
    rw [result] at failed
    exact (rest a _ failure failed).later (moves t)

theorem Blames.discard {x : Run (Tracking ω) α} (blames : Blames ask x)
    (moves : ∀ t, Moves t (Run.after x t)) : Blames ask (discard x) := by
  rw [Run.discard_eq]
  exact blames.bind moves fun _ => blames_pure ()

theorem Blames.forM {f : α → Run (Tracking ω) PUnit} {as : List α}
    (each : ∀ a ∈ as, Blames ask (f a)) (moves : ∀ a ∈ as, ∀ t, Moves t (Run.after (f a) t)) :
    Blames ask (as.forM f) := by
  induction as with
  | nil => exact blames_pure PUnit.unit
  | cons a as ih =>
    exact (each a (.head as)).bind (moves a (.head as)) fun _ =>
      ih (fun b inside => each b (.tail a inside)) fun b inside => moves b (.tail a inside)

theorem blames_get : Blames ask (get : Run (Tracking ω) (Tracking ω)) := by
  intro t failure failed
  cases failed

theorem blames_credit (number : Nat) : Blames ask (credit ask number) :=
  fun t _ failed => ⟨number, t, .refl, failed, rfl⟩

variable (aside : Aside ask)

include aside

theorem Aside.moves_credit (number : Nat) (t : Tracking ω) :
    Moves t (Run.after (credit ask number) t) :=
  (spanning_credit aside.spanning number).moves t

theorem blames_react {t : Tracking ω} {number : Nat} {output : Outpoint}
    (known : t.open? output = some number) (confidence : Confidence) (height : Option Int)
    {failure : Failure}
    (failed : Run.outcome (react ask number confidence height) t = .error failure) :
    FailedTry ask t failure (Run.after (react ask number confidence height) t) := by
  obtain ⟨s, found, isOpen, -⟩ := open?_found known
  by_cases block : confidence = .building
  · subst block
    have reported : Moves t (t.building number s height) :=
      .single (.reported t number s .building height found isOpen)
    exact .of_alike (react_building ask found isOpen height) reported
      ((blames_credit number).discard (aside.moves_credit number)) failed
  · -- Only a block leads to a try.
    obtain ⟨record, alike⟩ := react_eq ask found confidence height
    rw [alike.outcome, attempt, if_neg block] at failed
    cases failed

theorem blames_confidenceChanged (output : Outpoint) (confidence : Confidence)
    (height : Option Int) : Blames ask (confidenceChanged ask output confidence height) := by
  intro t failure failed
  cases known : t.open? output with
  | none =>
    rw [(confidenceChanged_none ask known confidence height).outcome] at failed
    cases failed
  | some number =>
    have alike := confidenceChanged_some ask known confidence height
    rw [alike.outcome] at failed
    rw [alike.after]
    exact blames_react aside known confidence height failed

theorem blames_announce (txid : String) (confidence : Confidence) (height : Option Int) :
    Blames ask (announce ask txid confidence height) := by
  unfold announce Feed.announce
  refine blames_get.bind (fun t => .refl) fun t => Blames.bind (.forM ?_ ?_) ?_ fun _ => blames_pure _
  · intro sub _
    cases sub.callback with
    | received => exact blames_pure ()
    | confidence output => exact blames_confidenceChanged aside output confidence height
  · intro sub _
    cases sub.callback with
    | received => exact fun t => .refl
    | confidence output =>
      exact (spanning_confidenceChanged aside.spanning output confidence height).moves
  · refine (Spanning.forM fun sub _ => ?_).moves
    cases sub.callback with
    | received => exact spanning_pure ()
    | confidence output => exact spanning_confidenceChanged aside.spanning output confidence height

theorem blames_announcing (t : Tracking ω) (output : Outpoint) :
    Blames ask (announcing ask t output) := by
  have moves (confidence : Confidence) (height : Option Int) :
      Spanning {} (announce ask output.txid confidence height) :=
    spanning_announce aside.spanning output.txid confidence height
  refine .forM (fun report _ => ?_) fun report _ => ?_
  · exact (blames_announce aside _ _ _).discard (moves report.1 report.2).moves
  · exact (moves report.1 report.2).discard.moves

theorem blames_observe {t : Tracking ω} {output : Output}
    (new : t.isProcessed output.outpoint = false)
    (watched : t.feed.isWatched output.address = true)
    (unknown : t.open? output.outpoint = none) {failure : Failure}
    (failed : Run.outcome (observe ask output) t = .error failure) :
    FailedTry ask t failure (Run.after (observe ask output) t) := by
  have alike := observe_eq ask t output
  have sighted : Moves t (t.sighting output) := .single (.sighted t output new watched unknown)
  rw [alike.outcome] at failed
  rw [alike.after]
  unfold sighting at sighted
  cases first : Phase.atFirst output.confidence output.height with
  | observed =>
    rw [if_pos first] at sighted
    rw [first] at failed
    obtain ⟨record, follows⟩ := follow_eq ask (t.beginning output) t.sightings.length output
    refine .of_alike follows (sighted.tail (.logged _ record)) ?_ failed
    refine (blames_announcing aside _ _).bind (spanning_announcing aside.spanning _ _).moves fun _ => ?_
    intro u failure failed
    rw [outcome_keep] at failed
    cases failed
  | confirmed block =>
    rw [if_neg (by rw [first]; exact nofun)] at sighted
    rw [first] at failed
    have blames : Blames ask (discard (credit ask t.sightings.length)) :=
      (blames_credit _).discard (aside.moves_credit _)
    exact (blames _ failure failed).later sighted
  | discarded =>
    rw [first] at failed
    cases failed
  | credited => exact absurd first (Phase.atFirst_ne_credited _ _)

theorem blames_outputReceived (output : Output) : Blames ask (outputReceived ask output) := by
  intro t failure failed
  by_cases idle : t.isProcessed output.outpoint = true ∨ t.feed.isWatched output.address = false
  · rw [(outputReceived_none ask idle).outcome] at failed
    cases failed
  · rw [not_or, Bool.not_eq_true, Bool.not_eq_false] at idle
    cases known : t.open? output.outpoint with
    | none =>
      have alike := outputReceived_unknown ask idle.1 idle.2 known
      rw [alike.outcome] at failed
      rw [alike.after]
      exact blames_observe aside idle.1 idle.2 known failed
    | some number =>
      have alike := outputReceived_known ask idle.1 idle.2 known
      rw [alike.outcome] at failed
      rw [alike.after]
      exact blames_react aside known _ _ failed

theorem blames_receive (outputs : List Output) : Blames ask (receive ask outputs) := by
  unfold receive Feed.deliver
  refine blames_get.bind (fun t => .refl) fun t => ?_
  dsimp only
  split
  · refine Blames.bind (.forM ?_ ?_) ?_ fun _ => blames_pure _
    · rintro ⟨callback, output⟩ _
      cases callback with
      | received => exact blames_outputReceived aside output
      | confidence => exact blames_pure ()
    · rintro ⟨callback, output⟩ _
      cases callback with
      | received => exact (spanning_outputReceived aside.spanning output trivial).moves
      | confidence => exact fun t => .refl
    · refine (Spanning.forM ?_).moves
      rintro ⟨callback, output⟩ _
      cases callback with
      | received => exact spanning_outputReceived aside.spanning output trivial
      | confidence => exact spanning_pure ()
  · exact blames_pure _

theorem blames_creditAll (numbers : List Nat) : Blames ask (discard (creditAll ask numbers)) := by
  rw [discard_creditAll]
  refine .forM (fun number _ => ?_) fun number _ => ?_
  · exact (blames_credit number).discard (aside.moves_credit number)
  · intro t
    rw [Run.after_discard]
    exact aside.moves_credit number t

theorem blames_retry : Blames ask (discard (retry ask)) := by
  intro t failure failed
  by_cases waiting : t.awaitingCredit = []
  · simp [Run.discard_eq, retry, waiting, creditAll] at failed
  · exact .of_alike (retry_alike ask waiting).discard (.single (.logged t _))
      (blames_creditAll aside t.awaitingCredit) failed

/-- An operation fails only when it tries to credit a sighting and that fails. -/
theorem Operation.blames_perform (operation : Operation) : Blames ask (operation.perform ask) := by
  cases operation with
  | addAddress address since =>
    intro t failure failed
    cases failed
  | receive outputs =>
    exact (blames_receive aside outputs).discard
      (spanning_receive aside.spanning outputs fun _ _ => trivial).moves
  | output reported => exact blames_outputReceived aside reported
  | announce txid confidence height =>
    exact (blames_announce aside txid confidence height).discard
      (spanning_announce aside.spanning txid confidence height).moves
  | callback outpoint confidence height =>
    exact blames_confidenceChanged aside outpoint confidence height
  | retry => exact blames_retry aside

end

/-! ## Waiting for a credit -/

theorem mem_awaitingCredit {number : Nat} : number ∈ t.awaitingCredit ↔
    ∃ s block, t.sightings[number]? = some s ∧ s.phase = .confirmed block := by
  rw [Tracking.awaitingCredit_eq, List.mem_filter, List.mem_range]
  constructor
  · rintro ⟨inside, confirmed⟩
    rw [List.getElem?_eq_getElem inside, Option.any_some] at confirmed
    cases phase : t.sightings[number].phase with
    | confirmed block => exact ⟨_, block, List.getElem?_eq_getElem inside, phase⟩
    | observed | credited | discarded => rw [phase] at confirmed; cases confirmed
  · rintro ⟨s, block, found, confirmed⟩
    refine ⟨(List.getElem?_eq_some_iff.mp found).1, ?_⟩
    rw [found, Option.any_some, confirmed]
    rfl

/-- The sightings that wait are numbered as they began. -/
theorem pairwise_awaitingCredit (t : Tracking ω) : t.awaitingCredit.Pairwise (· < ·) := by
  rw [Tracking.awaitingCredit_eq]
  exact List.pairwise_lt_range.filter _

theorem nodup_awaitingCredit (t : Tracking ω) : t.awaitingCredit.Nodup :=
  t.pairwise_awaitingCredit.imp Nat.ne_of_lt

/-- A settled credit concerns one sighting. -/
theorem Settles.elsewhere {number m : Nat} {output : Output} {height : Int} {rate : Decimal}
    {result : Except Failure Bool} (settles : Settles t number output height rate result u)
    (other : m ≠ number) : u.sightings[m]? = t.sightings[m]? := by
  cases settles with
  | failed | concurrent | unsummed => rfl
  | credited usd total =>
    rw [noted_sightings, release_getElem?, crediting, phased_getElem?, noted_sightings,
      entering_sightings, Option.map_map]
    cases t.sightings[m]? <;> simp [Ne.symm other]

/-- A try to credit concerns one sighting. -/
theorem Aside.elsewhere {ask : Int → Run (Tracking ω) Decimal} (aside : Aside ask) (t : Tracking ω)
    {number m : Nat} (other : m ≠ number) :
    (Run.after (credit ask number) t).sightings[m]? = t.sightings[m]? := by
  have comes := tries ask t number
  generalize Run.outcome (credit ask number) t = result at comes
  generalize Run.after (credit ask number) t = u at comes
  cases comes with
  | idle | deferred => rfl
  | unanswered s height due failure record failed =>
    rw [noted_sightings, noted_sightings, (aside height _).unmoved.sightings, noted_sightings]
  | answered s height due rate told settles =>
    rw [settles.elsewhere other, noted_sightings, (aside height _).unmoved.sightings,
      noted_sightings]

theorem Aside.elsewhere_creditAll {ask : Int → Run (Tracking ω) Decimal} (aside : Aside ask)
    {numbers : List Nat} {m : Nat} (other : m ∉ numbers) (t : Tracking ω) :
    (Run.after (creditAll ask numbers) t).sightings[m]? = t.sightings[m]? := by
  rw [← Run.after_discard, discard_creditAll]
  let sighting (t : Tracking ω) := t.sightings[m]?
  refine (Run.part_after_forM (fun number inside s => ?_) t : sighting _ = sighting t)
  rw [Run.after_discard]
  exact aside.elsewhere s fun same => other (same ▸ inside)

/-- The sighting that is tried is confirmed. -/
theorem Calls.confirmed {ask : Int → Run (Tracking ω) Decimal} (aside : Aside ask)
    {operation : Operation} {number : Nat} {rest : Run (Tracking ω) Unit}
    (calls : Calls ask t operation number u rest) : number ∈ u.awaitingCredit := by
  rw [mem_awaitingCredit]
  have reported {number : Nat} {s : Sighting} {output : Outpoint} (height : Option Int)
      (known : t.open? output = some number) (found : t.sightings[number]? = some s) :
      ∃ s' block, (t.building number s height).sightings[number]? = some s' ∧
        s'.phase = .confirmed block := by
    have isOpen := isOpen_of_open? known found
    obtain ⟨block, confirmed⟩ := advance_building isOpen height
    refine ⟨{ s with phase := s.phase.advance .building height }, block, ?_, confirmed⟩
    rw [building, phased_getElem?, noted_sightings, found, Option.map_some, if_pos rfl]
  cases calls with
  | reported new watched known found block => exact reported _ known found
  | called known found => exact reported _ known found
  | @sighted output new watched unknown block =>
    refine ⟨_, output.height, List.getElem?_concat_length, ?_⟩
    rw [block]
    rfl
  | @retried before after number count waiting passed =>
    have apart := t.nodup_awaitingCredit
    rw [waiting] at apart
    have other : number ∉ before := fun inside =>
      (List.nodup_append.mp apart).2.2 number inside number (.head _) rfl
    rw [aside.elsewhere_creditAll other]
    have here : number ∈ t.awaitingCredit := by rw [waiting]; simp
    exact mem_awaitingCredit.mp here

theorem Calls.moves {ask : Int → Run (Tracking ω) Decimal} (aside : Aside ask)
    {operation : Operation} {number : Nat} {rest : Run (Tracking ω) Unit}
    (calls : Calls ask t operation number u rest) : Moves t u := by
  cases calls with
  | @reported output number s new watched known found block =>
    have isOpen := isOpen_of_open? known found
    exact .single (.reported t number s .building output.height found isOpen)
  | @called outpoint number s height known found =>
    have isOpen := isOpen_of_open? known found
    exact .single (.reported t number s .building height found isOpen)
  | @sighted output new watched unknown block =>
    have sighted := Move.sighted t output new watched unknown
    rw [sighting, block, if_neg (by simp [Phase.atFirst, Phase.advance])] at sighted
    exact .single sighted
  | @retried before after number count waiting passed =>
    have told : Moves t t.retrying := .single (.logged t _)
    exact told.trans ((spanning_creditAll aside.spanning before).moves _)

/-! ## All attempts -/

/-- A try to credit in the state `u`, and what it does to the operation from `t` that makes it. -/
structure Attempted (ask : Int → Run (Tracking ω) Decimal) (t : Tracking ω) (operation : Operation)
    (number : Nat) (u : Tracking ω) (rest : Run (Tracking ω) Unit) : Prop where
  /-- Block, rate, conversion and sign decide what comes of it, and nothing else does. -/
  verdict : ∃ s block, u.sightings[number]? = some s ∧ s.phase = .confirmed block ∧
    Run.outcome (credit ask number) u = Tracking.verdict s.output block fun height =>
      Run.outcome (ask height) (u.noted [.asked number height])
  /-- Without a credit everything is as before, and the sighting waits. -/
  unmoved : Run.outcome (credit ask number) u ≠ .ok true →
    Unmoved u (Run.after (credit ask number) u) ∧
      number ∈ (Run.after (credit ask number) u).awaitingCredit
  /-- A failure ends the operation at once. -/
  fails : ∀ failure, Run.outcome (credit ask number) u = .error failure →
    Run.outcome (operation.perform ask) t = .error failure ∧
      Run.after (operation.perform ask) t = Run.after (credit ask number) u
  /-- Otherwise the rest decides how the operation ends. -/
  goesOn : ∀ done, Run.outcome (credit ask number) u = .ok done →
    Run.outcome (operation.perform ask) t = Run.outcome rest (Run.after (credit ask number) u) ∧
      Run.after (operation.perform ask) t = Run.after rest (Run.after (credit ask number) u)

/-- A try to credit a sighting failed: its rate was told, but it cannot be credited at that rate. -/
def Refused (ask : Int → Run (Tracking ω) Decimal) (failure : Failure) (now : Tracking ω) : Prop :=
  ∃ number u s height rate, u.sightings[number]? = some s ∧ s.phase = .confirmed (some height) ∧
    Run.outcome (ask height) (u.noted [.asked number height]) = .ok rate ∧
    verdictAt s.output rate = .error failure ∧ Unmoved u now ∧ number ∈ now.awaitingCredit

/-- Only a rate that has been told can make a try fail. -/
theorem FailedTry.refused {ask : Int → Run (Tracking ω) Decimal} (aside : Aside ask)
    (coherent : t.Coherent) {failure : Failure} {now : Tracking ω}
    (failed : FailedTry ask t failure now) : Refused ask failure now := by
  obtain ⟨number, u, moves, outcome, rfl⟩ := failed
  have coherent' := Moves.coherent moves coherent
  have comes := tries ask u number
  rw [outcome] at comes
  obtain ⟨s, height, due, rate, told⟩ : ∃ s height, u.Due number s height ∧ ∃ rate,
      Run.outcome (ask height) (u.noted [.asked number height]) = .ok rate := by
    generalize Run.after (credit ask number) u = v at comes
    cases comes with
    | answered s height due rate told => exact ⟨s, height, due, rate, told⟩
  obtain ⟨decided, unmoved⟩ := outcome_credit (fun height => aside height _) coherent' due.found due.block
  rw [outcome, verdict, told] at decided
  replace unmoved := unmoved (by rw [outcome]; exact nofun)
  refine ⟨number, u, s, height, rate, due.found, due.block, told, decided.symm, unmoved, ?_⟩
  rw [unmoved.awaitingCredit_eq]
  exact mem_awaitingCredit.mpr ⟨s, some height, due.found, due.block⟩

/--
A try to credit that does not credit leaves the ledger, the register, the feed and its
subscriptions as they are, so that the sighting keeps waiting.  It fails neither when
no block is known nor when no rate is told.  Where the payment cannot be converted
or entered at the rate that is told, the try fails, and with it the operation; no
operation fails for any other reason.
-/
theorem uncredited_unmoved (manner : FeedManner) (outside : ω) {t : Tracking ω}
    (passed : Moves (start manner outside) t) {ask : Int → Run (Tracking ω) Decimal}
    (aside : Aside ask) :
    (∀ operation number u rest, Calls ask t operation number u rest →
      Attempted ask t operation number u rest) ∧
    ∀ (operation : Operation) (failure : Failure),
      Run.outcome (operation.perform ask) t = .error failure →
        Refused ask failure (Run.after (operation.perform ask) t) := by
  have coherent := Moves.coherent passed (coherent_start manner outside)
  refine ⟨fun operation number u rest calls => ?_, fun operation failure failed =>
    (operation.blames_perform aside t failure failed).refused aside coherent⟩
  have alike := calls.alike
  have waits := calls.confirmed aside
  obtain ⟨s, block, found, confirmed⟩ := mem_awaitingCredit.mp waits
  obtain ⟨outcome, unmoved⟩ := outcome_credit (fun height => aside height _)
    (Moves.coherent (calls.moves aside) coherent) found confirmed
  refine ⟨⟨s, block, found, confirmed, outcome⟩, fun uncredited => ?_, fun failure failed => ?_,
    fun done succeeded => ?_⟩
  · rw [(unmoved uncredited).awaitingCredit_eq]
    exact ⟨unmoved uncredited, waits⟩
  · rw [alike.outcome, alike.after, Run.discard_eq]
    simp [failed]
  · rw [alike.outcome, alike.after, Run.discard_eq]
    simp [succeeded]

/-- A rate for one block only, which no payment can be converted at. -/
def uncertain (height : Int) : Run (Tracking Unit) Decimal :=
  if height = 7 then return .infinite false else throw (.noRate height)

theorem aside_uncertain : Aside uncertain := by
  intro height t
  refine .of_after_eq ?_
  unfold uncertain
  split <;> rfl

/-- The first output is still undecided, and the second one waits for its rate. -/
def undecided : Tracking Unit :=
  Run.after ((part 1 .building (some 8)).perform uncertain)
    (Run.after ((part 0 .pending none).perform uncertain)
      (Run.after ((Operation.addAddress "address" 0).perform uncertain) (start {} ())))

def firstInBlock : Operation :=
  .callback ⟨"tx", 0⟩ .building (some 7)

/-- A rate that is too great fails the callback, and both outputs wait. -/
theorem uncredited_unmoved_undecided :
    Moves (start {} ()) undecided ∧ Aside uncertain ∧ undecided.awaitingCredit = [1] ∧
    Run.outcome (firstInBlock.perform uncertain) undecided = .error (.arithmetic .invalidOperation) ∧
    (Run.after (firstInBlock.perform uncertain) undecided).awaitingCredit = [0, 1] ∧
    (Run.after (firstInBlock.perform uncertain) undecided).ledger = {} ∧
    (Run.after (firstInBlock.perform uncertain) undecided).feed = undecided.feed := by
  have reentrant : ∀ height s, Evolves s (Run.after (uncertain height) s) := by
    intro height s
    unfold uncertain
    split <;> exact .refl s
  have evolves : Evolves (start {} ()) undecided :=
    .perform (.perform (.perform (.refl _) _ reentrant _) _ reentrant _) _ reentrant _
  obtain ⟨attempts, -⟩ := uncredited_unmoved {} () evolves.moves aside_uncertain
  have known : undecided.open? ⟨"tx", 0⟩ = some 0 := by decide +kernel
  let s : Sighting := ⟨⟨⟨"tx", 0⟩, "address", 100000000, .pending, none⟩, .observed, some 1⟩
  have found : undecided.sightings[0]? = some s := by decide +kernel
  have calls : Calls uncertain undecided firstInBlock 0 (undecided.building 0 s (some 7)) (pure ()) :=
    .called known found
  have attempted := attempts _ _ _ _ calls
  have failed : Run.outcome (credit uncertain 0) (undecided.building 0 s (some 7)) =
      .error (.arithmetic .invalidOperation) := by
    decide +kernel
  obtain ⟨outcome, after⟩ := attempted.fails _ failed
  obtain ⟨unmoved, -⟩ := attempted.unmoved (by rw [failed]; exact nofun)
  rw [after, unmoved.ledger, unmoved.awaitingCredit_eq, unmoved.feed]
  exact ⟨evolves.moves, aside_uncertain, by decide +kernel, outcome, by decide +kernel,
    by decide +kernel, rfl⟩

end Tracking

end Paywatch
