import Paywatch.Proofs.Payment.Ledger
import Paywatch.Proofs.Payment.Move

/-!
# What a try to credit does

A try to credit asks for a rate at most once, and what comes of it is said here
for every state and every way in which the question may be answered.  The
outcome and the state it leaves are given together, each with the reasons for it.
-/

namespace Paywatch

namespace Tracking

variable {ω : Type}

/-! ## Small steps -/

@[simp]
theorem outcome_note (event : TrackingEvent) (t : Tracking ω) :
    Run.outcome (note event) t = .ok () := rfl

@[simp]
theorem after_note (event : TrackingEvent) (t : Tracking ω) :
    Run.after (note event) t = t.noted [event] := rfl

@[simp]
theorem outcome_log (level : Level) (text : String) (cause : Option Failure) (t : Tracking ω) :
    Run.outcome (log level text cause) t = .ok () := rfl

@[simp]
theorem after_log (level : Level) (text : String) (cause : Option Failure) (t : Tracking ω) :
    Run.after (log level text cause) t = t.noted [.logged ⟨level, text, cause⟩] := rfl

@[simp]
theorem outcome_change (number : Nat) (f : Sighting → Sighting) (t : Tracking ω) :
    Run.outcome (change number f) t = .ok () := rfl

theorem after_change_phase (number : Nat) (phase : Phase) (t : Tracking ω) :
    Run.after (change number fun s => { s with phase := phase }) t = t.phased number phase := rfl

theorem after_change_subscription (number : Nat) (subscription : Option Nat) (t : Tracking ω) :
    Run.after (change number fun s => { s with subscription := subscription }) t =
      t.holding number subscription := rfl

@[simp]
theorem outcome_release (number : Nat) (t : Tracking ω) :
    Run.outcome (release number) t = .ok () := by
  cases held : t.sightings[number]?.bind (·.subscription) <;> simp [release, held]

theorem after_release_none {t : Tracking ω} {number : Nat}
    (held : t.sightings[number]?.bind (·.subscription) = none) :
    Run.after (release number) t = t := by
  simp only [release, Run.after_bind, Run.outcome_get, Run.after_get, held, Run.after_pure]

theorem after_release_some {t : Tracking ω} {number id : Nat}
    (held : t.sightings[number]?.bind (·.subscription) = some id) :
    Run.after (release number) t =
      ((t.holding number none).noted [.cancelled id]).cancelling id := by
  simp only [release, Run.after_bind, Run.outcome_get, Run.after_get, held, outcome_change,
    after_change_subscription, outcome_note, after_note, Run.after_modify, cancelling]

/-- To give up a subscription that is not there changes nothing. -/
theorem holding_none {t : Tracking ω} {number : Nat}
    (held : t.sightings[number]?.bind (·.subscription) = none) : t.holding number none = t := by
  have same : (t.holding number none).sightings = t.sightings := by
    apply List.ext_getElem?
    intro m
    rw [holding_getElem?]
    cases found : t.sightings[m]? with
    | none => rfl
    | some s =>
      rw [Option.map_some]
      split
      · rename_i here
        rw [here, found, Option.bind_some] at held
        rw [← held]
      · rfl
  exact congrArg (fun sightings => { t with sightings }) same

theorem release_getElem? (t : Tracking ω) (number m : Nat) :
    (Run.after (release number) t).sightings[m]? =
      t.sightings[m]?.map fun s => if number = m then { s with subscription := none } else s := by
  rw [← holding_getElem?]
  cases held : t.sightings[number]?.bind (·.subscription) with
  | none => rw [after_release_none held, holding_none held]
  | some id => rw [after_release_some held, cancelling_sightings, noted_sightings]

theorem release_outside (t : Tracking ω) (number : Nat) :
    (Run.after (release number) t).outside = t.outside := by
  cases held : t.sightings[number]?.bind (·.subscription) with
  | none => rw [after_release_none held]
  | some id =>
    rw [after_release_some held, cancelling]
    split <;> rfl

theorem outputs_of_map {f : Sighting → Sighting} (kept : ∀ s, (f s).output = s.output)
    (found : Option Sighting) : (found.map f).map (·.output) = found.map (·.output) := by
  cases found with
  | none => rfl
  | some s => exact congrArg some (kept s)

theorem phased_outputs (t : Tracking ω) (number m : Nat) (phase : Phase) :
    (t.phased number phase).sightings[m]?.map (·.output) = t.sightings[m]?.map (·.output) := by
  rw [phased_getElem?]
  exact outputs_of_map (fun s => by split <;> rfl) _

theorem holding_outputs (t : Tracking ω) (number m : Nat) (subscription : Option Nat) :
    (t.holding number subscription).sightings[m]?.map (·.output) =
      t.sightings[m]?.map (·.output) := by
  rw [holding_getElem?]
  exact outputs_of_map (fun s => by split <;> rfl) _

theorem release_outputs (t : Tracking ω) (number m : Nat) :
    (Run.after (release number) t).sightings[m]?.map (·.output) =
      t.sightings[m]?.map (·.output) := by
  rw [release_getElem?]
  exact outputs_of_map (fun s => by split <;> rfl) _

theorem length_of_outputs {t u : Tracking ω} (same : ∀ number : Nat,
    u.sightings[number]?.map (·.output) = t.sightings[number]?.map (·.output)) :
    u.sightings.length = t.sightings.length := by
  have lengths (n : Nat) : u.sightings.length ≤ n ↔ t.sightings.length ≤ n := by
    have outputs := congrArg Option.isNone (same n)
    rw [Option.isNone_map, Option.isNone_map] at outputs
    rw [← List.getElem?_eq_none_iff, ← List.getElem?_eq_none_iff, ← Option.isNone_iff_eq_none,
      ← Option.isNone_iff_eq_none, outputs]
  exact Nat.le_antisymm ((lengths _).mpr (Nat.le_refl _)) ((lengths _).mp (Nat.le_refl _))

/-! ## Entering -/

/-- An amount that the ledger refuses is not entered. -/
theorem enter_refused {t : Tracking ω} {output : Output} {usd : Decimal}
    (refused : usd.isNegative ≠ .ok false) :
    (∃ failure, (∀ other, failure ≠ .duplicateCredit other) ∧
      Run.outcome (enter output usd) t = .error failure) ∧
    Run.after (enter output usd) t = t := by
  cases negative : usd.isNegative with
  | error signal => simp [enter, Ledger.commit, negative, ofArithmetic]
  | ok value =>
    cases value with
    | false => exact absurd negative refused
    | true => simp [enter, Ledger.commit, negative, ofArithmetic]

/-- An amount that the ledger takes is entered with its output. -/
theorem enter_new {t : Tracking ω} {output : Output} {usd : Decimal}
    (nonneg : usd.isNegative = .ok false) (new : t.isProcessed output.outpoint = false) :
    Run.outcome (enter output usd) t = ofArithmetic (t.ledger.total.add usd) ∧
    (∀ sum, t.ledger.total.add usd = .ok sum →
      Run.after (enter output usd) t = t.entering output.outpoint sum) ∧
    (∀ signal, t.ledger.total.add usd = .error signal →
      Run.after (enter output usd) t = t.entering output.outpoint t.ledger.total) := by
  obtain ⟨outcome, summed, unsummed⟩ := Ledger.commit_new nonneg new
  cases added : t.ledger.total.add usd with
  | error signal =>
    rw [added] at outcome
    simp [enter, outcome, unsummed signal added, ofArithmetic, entering]
  | ok sum =>
    rw [added] at outcome
    simp [enter, outcome, summed sum added, ofArithmetic, entering]

/-! ## Settling -/

/--
What comes of a question that was answered with a rate.  No amount is entered
twice: the ledger is looked at and written to without anything in between.
-/
inductive Settles (t : Tracking ω) (number : Nat) (output : Output) (height : Int)
    (rate : Decimal) : Except Failure Bool → Tracking ω → Prop where
  /-- There is no amount, or the ledger refuses it. -/
  | failed (failure : Failure) (other : ∀ output, failure ≠ .duplicateCredit output)
      (refused : ∀ usd, convertToUsd output.satoshi rate = .ok usd → usd.isNegative ≠ .ok false) :
      Settles t number output height rate (.error failure) t
  /-- The output was credited while the question was open. -/
  | concurrent (record : LogRecord) (processed : t.isProcessed output.outpoint = true) :
      Settles t number output height rate (.ok false) (t.noted [.logged record])
  | unsummed (usd : Decimal) (signal : Decimal.Signal)
      (new : t.isProcessed output.outpoint = false)
      (converted : convertToUsd output.satoshi rate = .ok usd)
      (nonneg : usd.isNegative = .ok false) (refused : t.ledger.total.add usd = .error signal) :
      Settles t number output height rate (.error (.arithmetic signal))
        (t.entering output.outpoint t.ledger.total)
  | credited (usd total : Decimal) (record : LogRecord)
      (new : t.isProcessed output.outpoint = false)
      (converted : convertToUsd output.satoshi rate = .ok usd)
      (nonneg : usd.isNegative = .ok false) (added : t.ledger.total.add usd = .ok total) :
      Settles t number output height rate (.ok true)
        ((Run.after (release number) (t.crediting number output height rate usd total)).noted
          [.logged record])

theorem settles (t : Tracking ω) (number : Nat) (output : Output) (height : Int)
    (rate : Decimal) :
    Settles t number output height rate (Run.outcome (settle number output height rate) t)
      (Run.after (settle number output height rate) t) := by
  unfold settle
  cases converted : convertToUsd output.satoshi rate with
  | error signal =>
    refine .failed (.arithmetic signal) (fun _ same => by cases same) fun usd ok => ?_
    rw [converted] at ok
    cases ok
  | ok usd =>
    simp only [ofArithmetic, Run.outcome_bind, Run.after_bind, Run.outcome_ofExcept,
      Run.after_ofExcept, Run.outcome_get, Run.after_get]
    cases new : t.isProcessed output.outpoint with
    | true => exact .concurrent _ new
    | false =>
      simp only [Bool.false_eq_true, if_false, Run.outcome_bind, Run.after_bind]
      by_cases nonneg : usd.isNegative = .ok false
      · obtain ⟨outcome, summed, unsummed⟩ := enter_new nonneg new
        cases added : t.ledger.total.add usd with
        | error signal =>
          rw [outcome, added, unsummed signal added]
          exact .unsummed usd signal new converted nonneg added
        | ok total =>
          rw [outcome, added, summed total added]
          simp only [ofArithmetic, outcome_note, after_note, outcome_change, after_change_phase,
            outcome_release, outcome_log, after_log, Run.outcome_pure, Run.after_pure]
          exact .credited usd total _ new converted nonneg added
      · obtain ⟨⟨failure, other, failed⟩, same⟩ := enter_refused (t := t) nonneg
        rw [failed, same]
        refine .failed failure other fun usd' ok => ?_
        rw [converted] at ok
        cases ok
        exact nonneg

/-! ## Trying -/

/-- What comes of a try to credit a sighting. -/
inductive Tries (ask : Int → Run (Tracking ω) Decimal) (t : Tracking ω) (number : Nat) :
    Except Failure Bool → Tracking ω → Prop where
  /-- The sighting is unknown, or its output is credited. -/
  | idle (undue : ∀ s height, ¬ t.Due number s height) : Tries ask t number (.ok false) t
  /-- No block is known. -/
  | deferred (record : LogRecord) (undue : ∀ s height, ¬ t.Due number s height) :
      Tries ask t number (.ok false) (t.noted [.logged record])
  /-- The question failed. -/
  | unanswered (s : Sighting) (height : Int) (due : t.Due number s height) (failure : Failure)
      (record : LogRecord)
      (failed : Run.outcome (ask height) (t.noted [.asked number height]) = .error failure) :
      Tries ask t number (.ok false) (((Run.after (ask height)
        (t.noted [.asked number height])).noted [.answered number height none]).noted
          [.logged record])
  | answered (s : Sighting) (height : Int) (due : t.Due number s height) (rate : Decimal)
      (told : Run.outcome (ask height) (t.noted [.asked number height]) = .ok rate)
      {result : Except Failure Bool} {u : Tracking ω}
      (settles : Settles ((Run.after (ask height) (t.noted [.asked number height])).noted
        [.answered number height (some rate)]) number s.output height rate result u) :
      Tries ask t number result u

theorem logNoRate_eq_log (output : Output) (height : Int) (failure : Failure) :
    ∃ level text cause,
      (logNoRate output height failure : Run (Tracking ω) Unit) = log level text cause := by
  unfold logNoRate
  split <;> exact ⟨_, _, _, rfl⟩

theorem tries (ask : Int → Run (Tracking ω) Decimal) (t : Tracking ω) (number : Nat) :
    Tries ask t number (Run.outcome (credit ask number) t) (Run.after (credit ask number) t) := by
  unfold credit
  simp only [Run.outcome_bind, Run.after_bind, Run.outcome_get, Run.after_get]
  cases found : t.sightings[number]? with
  | none =>
    refine .idle fun s height due => ?_
    have known := due.found
    rw [found] at known
    cases known
  | some s =>
    have same {s' : Sighting} {height : Int} (due : t.Due number s' height) : s' = s :=
      Option.some.inj (due.found.symm.trans found)
    cases new : t.isProcessed s.outpoint with
    | true =>
      simp only [new, if_true]
      refine .idle fun s' height due => ?_
      have unprocessed := due.new
      rw [same due, new] at unprocessed
      cases unprocessed
    | false =>
      simp only [new, Bool.false_eq_true, if_false]
      cases block : s.phase.height? with
      | none =>
        refine .deferred _ fun s' height due => ?_
        have known := due.block
        rw [same due] at known
        rw [known] at block
        cases block
      | some height =>
        have due : t.Due number s height := ⟨found, Phase.eq_confirmed_of_height? block, new⟩
        simp only [Run.outcome_bind, Run.after_bind, outcome_note, after_note,
          Run.outcome_attempt, Run.after_attempt]
        cases told : Run.outcome (ask height) (t.noted [.asked number height]) with
        | error failure =>
          obtain ⟨level, text, cause, logged⟩ :=
            logNoRate_eq_log (ω := ω) s.output height failure
          simp only [logged, Run.outcome_bind, Run.after_bind, outcome_log, after_log,
            Run.outcome_pure, Run.after_pure]
          exact .unanswered s height due failure _ told
        | ok rate => exact .answered s height due rate told (settles _ number s.output height rate)

end Tracking

end Paywatch
