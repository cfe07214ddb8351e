import Paywatch.Proofs.Feed.Earliest
import Paywatch.Proofs.Payment.Span

/-!
# Functions are made of spans

Each function of the tracker stays in a scope, whatever state it is called in, as
long as the questions that are asked during it do.  The functions are taken in the
order in which they call each other.
-/

namespace Paywatch

namespace Tracking

variable {ω : Type} {α : Type} {scope : Scope}

/-! ## Steps that stay in a scope -/

/-- A step stays in a scope, whatever state it starts in, unless it fails where nothing may. -/
def Spanning (scope : Scope) (step : Run (Tracking ω) α) : Prop :=
  ∀ t, scope.Admits t.manner.announcedAtOnce → scope.failing ∨ Run.Succeeds step t →
    Span scope t (Run.after step t)

theorem spanning_pure (a : α) : Spanning scope (pure a : Run (Tracking ω) α) :=
  fun t _ _ => .refl t

theorem spanning_get : Spanning scope (get : Run (Tracking ω) (Tracking ω)) :=
  fun t _ _ => .refl t

theorem Spanning.bind {β : Type} {x : Run (Tracking ω) α} {f : α → Run (Tracking ω) β}
    (first : Spanning scope x) (rest : ∀ a, Spanning scope (f a)) : Spanning scope (x >>= f) := by
  intro t admits ends
  rw [Run.after_bind]
  cases result : Run.outcome x t with
  | error failure =>
    refine first t admits (ends.imp_right fun succeeds => ?_)
    obtain ⟨b, ok⟩ := succeeds
    rw [Run.outcome_bind, result] at ok
    cases ok
  | ok a =>
    have begun := first t admits (.inr ⟨a, result⟩)
    refine begun.trans (rest a _ (begun.admits admits) (ends.imp_right fun succeeds => ?_))
    obtain ⟨b, ok⟩ := succeeds
    rw [Run.outcome_bind, result] at ok
    exact ⟨b, ok⟩

theorem Spanning.discard {x : Run (Tracking ω) α} (spanning : Spanning scope x) :
    Spanning scope (discard x) := by
  rw [Run.discard_eq]
  exact spanning.bind fun _ => spanning_pure ()

theorem Spanning.forM {f : α → Run (Tracking ω) PUnit} {as : List α}
    (each : ∀ a ∈ as, Spanning scope (f a)) : Spanning scope (as.forM f) := by
  induction as with
  | nil => exact spanning_pure PUnit.unit
  | cons a as ih =>
    exact (each a (.head as)).bind fun _ => ih fun b inside => each b (.tail a inside)

/-- What stays in the scope of everything moves the tracker. -/
theorem Spanning.moves {step : Run (Tracking ω) α} (spanning : Spanning {} step) (t : Tracking ω) :
    Moves t (Run.after step t) :=
  (spanning t (fun _ _ _ _ => trivial) (.inl trivial)).moves

theorem succeeds_or {x y : Run (Tracking ω) α} {s t : Tracking ω}
    (alike : Run.Alike x s y t) (ends : scope.failing ∨ Run.Succeeds x s) :
    scope.failing ∨ Run.Succeeds y t :=
  ends.imp_right alike.symm.succeeds

theorem spanning_log (level : Level) (text : String) (cause : Option Failure) :
    Spanning scope (log level text cause : Run (Tracking ω) Unit) :=
  fun t _ _ => (Span.refl t).noted (.logged t _)

/-! ## Crediting -/

/--
Crediting at a rate that has just been told, for a question that was asked when
the credit was due.
-/
theorem Settles.span {t u : Tracking ω} {number : Nat} {output : Output} {height : Int}
    {rate : Decimal} {result : Except Failure Bool}
    (settles : Settles t number output height rate result u)
    (stillDue : t.isProcessed output.outpoint = false →
      ∃ s, s.output = output ∧ t.Due number s height)
    (told : t.journal.getLast? = some (.answered number height (some rate))) :
    Span scope t u := by
  cases settles with
  | failed => exact .refl t
  | concurrent record => exact (Span.refl t).noted (.logged t record)
  | unsummed usd signal new converted nonneg refused =>
    obtain ⟨s, rfl, due⟩ := stillDue new
    have entered := Move.unsummed t number s height rate usd signal due converted nonneg refused
    exact (Span.refl t).moved (.of_same (.single entered) rfl rfl rfl) fun _ closed => closed
  | credited usd total record new converted nonneg added =>
    obtain ⟨s, rfl, due⟩ := stillDue new
    have credited := Move.credited t number s height rate usd total due told converted nonneg added
    have plain : Plain t (t.crediting number s.output height rate usd total) :=
      .phased (.single credited) rfl rfl rfl
    refine ((Span.refl t).ended plain number ?_ ?_).noted (.logged _ record)
    · refine ⟨{ s with phase := .credited }, ?_, rfl⟩
      rw [crediting, phased_getElem?, noted_sightings, entering_sightings, due.found,
        Option.map_some, if_pos rfl]
    · rintro other elsewhere ⟨s', found, closed⟩
      rw [crediting, phased_getElem?, noted_sightings, entering_sightings] at found
      obtain ⟨s'', found', rfl⟩ := Option.map_eq_some_iff.mp found
      rw [if_neg (Ne.symm elsewhere)] at closed
      exact ⟨s'', found', closed⟩

/-- A try to credit stays in a scope as far as its question does. -/
theorem Tries.span {ask : Int → Run (Tracking ω) Decimal} {t u : Tracking ω} {number : Nat}
    {result : Except Failure Bool} (tries : Tries ask t number result u)
    (asking : ∀ height, Span scope (t.noted [.asked number height])
      (Run.after (ask height) (t.noted [.asked number height]))) : Span scope t u := by
  cases tries with
  | idle => exact .refl t
  | deferred record => exact (Span.refl t).noted (.logged t record)
  | unanswered s height due failure record =>
    have asked := ((Span.refl t).noted (.asked t number s height due)).trans (asking height)
    exact (asked.noted (.answered _ number height none)).noted (.logged _ record)
  | answered s height due rate ok settles =>
    have asked := ((Span.refl t).noted (.asked t number s height due)).trans (asking height)
    have answered := asked.noted (.answered _ number height (some rate))
    exact answered.trans (settles.span (Moves.due answered.moves due) List.getLast?_concat)

/-! ## What is announced without a block -/

section

variable (ask : Int → Run (Tracking ω) Decimal) {t : Tracking ω} {confidence : Confidence}

theorem release_ledger (t : Tracking ω) (number : Nat) :
    (Run.after (release number) t).ledger = t.ledger := by
  cases held : t.sightings[number]?.bind (·.subscription) with
  | none => rw [after_release_none held]
  | some id =>
    rw [after_release_some held, cancelling_ledger]
    rfl

/-- A report without a block leads to no credit. -/
theorem react_ledger (other : confidence ≠ .building) (t : Tracking ω) (number : Nat)
    (height : Option Int) :
    (Run.after (react ask number confidence height) t).ledger = t.ledger := by
  cases found : t.sightings[number]? with
  | none => simp [react, found]
  | some s =>
    obtain ⟨record, -, after⟩ := react_eq ask found confidence height
    rw [after, attempt, if_neg other, Run.after_pure]
    split
    · rw [release_ledger]
      rfl
    · rfl

theorem confidenceChanged_ledger (other : confidence ≠ .building) (t : Tracking ω)
    (output : Outpoint) (height : Option Int) :
    (Run.after (confidenceChanged ask output confidence height) t).ledger = t.ledger := by
  cases known : t.open? output with
  | none =>
    rw [(confidenceChanged_none ask known confidence height).after]
    rfl
  | some number =>
    rw [(confidenceChanged_some ask known confidence height).after]
    exact react_ledger ask other t number height

theorem announce_ledger (other : confidence ≠ .building) (t : Tracking ω) (txid : String)
    (height : Option Int) :
    (Run.after (discard (announce ask txid confidence height)) t).ledger = t.ledger := by
  unfold announce
  rw [(Feed.announce_eq _ _ txid t).after]
  apply Run.part_after_forM
  intro sub _ u
  cases sub.callback with
  | received => rfl
  | confidence output => exact confidenceChanged_ledger ask other u output height

/-- Nothing is credited while an output is subscribed to unless a block is announced then. -/
theorem announcing_ledger (admits : scope.Admits t.manner.announcedAtOnce)
    (quiet : ¬ scope.announced .building) (output : Outpoint) (u : Tracking ω) :
    (Run.after (announcing ask t output) u).ledger = u.ledger := by
  apply Run.part_after_forM
  rintro ⟨confidence, height⟩ inside u
  refine announce_ledger ask ?_ u output.txid height
  rintro rfl
  cases known : t.manner.announcedAtOnce.lookup output.txid with
  | none =>
    rw [known] at inside
    cases inside
  | some reports =>
    rw [known] at inside
    obtain ⟨before, after, entries, -⟩ := List.lookup_eq_some_iff.mp known
    have listed : (output.txid, reports) ∈ t.manner.announcedAtOnce := by
      rw [entries]
      exact List.mem_append_right _ (.head _)
    exact quiet (admits _ listed _ inside)

end

/-! ## Functions that ask -/

section

variable {ask : Int → Run (Tracking ω) Decimal}
  (asking : ∀ height, Spanning scope (Run.attempt (ask height)))

include asking

theorem spanning_credit (number : Nat) : Spanning scope (credit ask number) :=
  fun t admits _ => (tries ask t number).span fun height => asking height _ admits (.inr ⟨_, rfl⟩)

theorem spanning_attempt (number : Nat) (confidence : Confidence) :
    Spanning scope (attempt ask number confidence) := by
  unfold attempt
  split
  · exact (spanning_credit asking number).discard
  · exact spanning_pure ()

/-- A report on an open sighting. -/
theorem span_react {t : Tracking ω} {number : Nat} {output : Outpoint}
    (known : t.open? output = some number) (confidence : Confidence) (height : Option Int)
    (admits : scope.Admits t.manner.announcedAtOnce)
    (ends : scope.failing ∨ Run.Succeeds (react ask number confidence height) t) :
    Span scope t (Run.after (react ask number confidence height) t) := by
  obtain ⟨s, found, isOpen, -⟩ := open?_found known
  obtain ⟨record, alike⟩ := react_eq ask found confidence height
  have reported := Move.reported t number s confidence height found isOpen
  have elsewhere {other : Nat} (distinct : other ≠ number)
      (closed : ((t.noted [.reported number confidence height]).phased number
        (s.phase.advance confidence height)).Closed other) : t.Closed other := by
    obtain ⟨s', found', ended⟩ := closed
    rw [phased_getElem?, noted_sightings] at found'
    obtain ⟨s'', found'', rfl⟩ := Option.map_eq_some_iff.mp found'
    rw [if_neg (Ne.symm distinct)] at ended
    exact ⟨s'', found'', ended⟩
  replace ends := succeeds_or alike ends
  rw [alike.after]
  by_cases ended : s.phase.advance confidence height = .discarded
  · rw [if_pos ended] at ends ⊢
    have plain : Plain t ((t.noted [.reported number confidence height]).phased number
        (s.phase.advance confidence height)) := .phased (.single reported) rfl rfl rfl
    have logged := plain.trans (.of_same (.single (.logged _ record)) rfl rfl rfl)
    refine ((Span.refl t).ended logged number ?_ fun other => elsewhere).trans
      (spanning_attempt asking number confidence _ ?_ ends)
    · refine ⟨{ s with phase := s.phase.advance confidence height }, ?_, ?_⟩
      · rw [noted_sightings, phased_getElem?, noted_sightings, found, Option.map_some, if_pos rfl]
      · rw [ended]
        rfl
    · rw [release_manner]
      exact admits
  · rw [if_neg ended] at ends ⊢
    refine Span.trans
      ((Span.refl t).moved (.phased (.single reported) rfl rfl rfl) fun other closed => ?_)
      (spanning_attempt asking number confidence _ admits ends)
    by_cases here : other = number
    · obtain ⟨s', found', closed'⟩ := closed
      rw [here] at found'
      rw [phase_of_phased found'] at closed'
      exact absurd (Phase.isOpen_advance isOpen ended) (by rw [closed']; exact Bool.false_ne_true)
    · exact elsewhere here closed

/-- A report on the confidence of an output. -/
theorem spanning_confidenceChanged (output : Outpoint) (confidence : Confidence)
    (height : Option Int) : Spanning scope (confidenceChanged ask output confidence height) := by
  intro t admits ends
  cases known : t.open? output with
  | none =>
    rw [(confidenceChanged_none ask known confidence height).after]
    exact .refl t
  | some number =>
    have alike := confidenceChanged_some ask known confidence height
    rw [alike.after]
    exact span_react asking known confidence height admits (succeeds_or alike ends)

theorem spanning_announce (txid : String) (confidence : Confidence) (height : Option Int) :
    Spanning scope (announce ask txid confidence height) := by
  unfold announce Feed.announce
  refine spanning_get.bind fun t => Spanning.bind (.forM fun s _ => ?_) fun _ => spanning_pure _
  cases s.callback with
  | received => exact spanning_pure ()
  | confidence output => exact spanning_confidenceChanged asking output confidence height

theorem spanning_announcing (t : Tracking ω) (output : Outpoint) :
    Spanning scope (announcing ask t output) :=
  .forM fun _ _ => (spanning_announce asking _ _ _).discard

/-- A first report of an output that is watched and neither credited nor followed. -/
theorem span_observe (t : Tracking ω) (output : Output)
    (new : t.isProcessed output.outpoint = false)
    (watched : t.feed.isWatched output.address = true)
    (unknown : t.open? output.outpoint = none) (delivered : scope.delivered output)
    (admits : scope.Admits t.manner.announcedAtOnce)
    (ends : scope.failing ∨ Run.Succeeds (observe ask output) t) :
    Span scope t (Run.after (observe ask output) t) := by
  have begun := (Span.refl t).sighted output new watched unknown delivered
  have alike := observe_eq ask t output
  replace ends := succeeds_or alike ends
  rw [alike.after]
  unfold sighting at begun
  cases first : Phase.atFirst output.confidence output.height with
  | observed =>
    rw [if_pos first] at begun
    rw [first] at ends
    obtain ⟨record, follows⟩ := follow_eq ask (t.beginning output) t.sightings.length output
    replace ends := succeeds_or follows ends
    have subscribed : (t.beginning output).subscribing output.outpoint = t.sighting output := by
      rw [sighting, if_pos first]
    rw [subscribed] at ends follows
    change Span scope t (Run.after (follow ask t.sightings.length output) (t.beginning output))
    rw [follows.after, Run.after_bind]
    have told : Span scope (t.sighting output) ((t.sighting output).noted [.logged record]) :=
      (Span.refl _).noted (.logged _ record)
    have announced := spanning_announcing asking (t.beginning output) output.outpoint
      ((t.sighting output).noted [.logged record])
      (told.admits (by rw [sighting_manner]; exact admits))
    cases result : Run.outcome (announcing ask (t.beginning output) output.outpoint)
        ((t.sighting output).noted [.logged record]) with
    | error failure =>
      have fails : scope.failing := by
        refine ends.resolve_right fun succeeds => ?_
        obtain ⟨a, ok⟩ := succeeds.of_seq.1
        rw [result] at ok
        cases ok
      rw [subscribed] at begun
      exact (begun (.inr fails)).trans (told.trans (announced (.inl fails)))
    | ok _ =>
      refine (Span.refl t).followed output new watched unknown delivered first
        (told.trans (announced (.inr ⟨_, result⟩))) fun quiet => ?_
      rw [announcing_ledger ask (t := t.beginning output) admits quiet, noted_ledger,
        sighting_ledger]
  | confirmed height =>
    have decided : Phase.atFirst output.confidence output.height ≠ .observed := by
      rw [first]
      exact fun same => by cases same
    rw [if_neg decided] at begun
    rw [first] at ends
    exact (begun (.inl decided)).trans ((spanning_credit asking _).discard _ admits ends)
  | discarded =>
    have decided : Phase.atFirst output.confidence output.height ≠ .observed := by
      rw [first]
      exact fun same => by cases same
    rw [if_neg decided] at begun
    exact (begun (.inl decided)).noted (.logged _ _)
  | credited => exact absurd first (Phase.atFirst_ne_credited _ _)

/-- A report of an output. -/
theorem spanning_outputReceived (output : Output) (delivered : scope.delivered output) :
    Spanning scope (outputReceived ask output) := by
  intro t admits ends
  cases new : t.isProcessed output.outpoint with
  | true =>
    rw [(outputReceived_none ask (.inl new)).after]
    exact .refl t
  | false =>
    cases watched : t.feed.isWatched output.address with
    | false =>
      rw [(outputReceived_none ask (.inr watched)).after]
      exact .refl t
    | true =>
      cases known : t.open? output.outpoint with
      | none =>
        have alike := outputReceived_unknown ask new watched known
        rw [alike.after]
        exact span_observe asking t output new watched known delivered admits
          (succeeds_or alike ends)
      | some number =>
        have alike := outputReceived_known ask new watched known
        rw [alike.after]
        exact span_react asking known output.confidence output.height admits
          (succeeds_or alike ends)

theorem spanning_receive (outputs : List Output)
    (delivered : ∀ output ∈ outputs, scope.delivered output) :
    Spanning scope (receive ask outputs) := by
  unfold receive Feed.deliver
  refine spanning_get.bind fun t => ?_
  simp only
  split
  · refine Spanning.bind (.forM fun delivery inside => ?_) fun _ => spanning_pure _
    obtain ⟨output, known, among⟩ := List.mem_flatMap.mp inside
    obtain ⟨receiver, -, rfl⟩ := List.mem_map.mp among
    cases receiver with
    | received => exact spanning_outputReceived asking output (delivered output known)
    | confidence => exact spanning_pure ()
  · exact spanning_pure _

theorem spanning_creditAll (numbers : List Nat) : Spanning scope (creditAll ask numbers) := by
  induction numbers with
  | nil => exact spanning_pure 0
  | cons number numbers ih =>
    exact (spanning_credit asking number).bind fun _ => ih.bind fun _ => spanning_pure _

theorem spanning_retry : Spanning scope (retry ask) := by
  unfold retry
  refine spanning_get.bind fun t => ?_
  simp only
  split
  · exact (spanning_log _ _ _).bind fun _ => spanning_creditAll asking _
  · exact spanning_creditAll asking _

end

/-! ## What the operator does -/

theorem spanning_addAddress (address : String) (since : Int) :
    Spanning scope (addAddress address since : Run (Tracking ω) Unit) := by
  intro t _ _
  have told (record : LogRecord) : Span scope t (t.noted [.logged record]) :=
    (Span.refl t).noted (.logged t record)
  have watched (record : LogRecord) : Span scope t { t.noted [.logged record] with
      feed := (t.feed.watch ⟨address, since, Feed.defaultCurrency⟩).1 } :=
    (told record).moved
      ⟨.single (.watched _ _), Feed.watch_subscriptions _ _, Feed.watch_nextId _ _, rfl, rfl⟩
      fun _ closed => closed
  exact (watched _).noted (.logged _ _)

end Tracking

end Paywatch
