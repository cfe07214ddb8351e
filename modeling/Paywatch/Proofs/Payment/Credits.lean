import Paywatch.Proofs.Payment.Balance

/-!
# One credit for an output

However operations follow each other and are nested in each other's questions,
an output is credited at most once.  Two tries may both have found it uncredited
before they asked; the one that gets its answer later looks at the ledger again.
-/

namespace Paywatch

namespace Tracking

variable {ω : Type}

/-! ## Tries that credit -/

/-- How many credits a try tells of that ends like this. -/
def made : Except Failure Bool → Nat
  | .ok true => 1
  | _ => 0

/--
The state in which a try to credit goes on after its question.  It is the state
in which the try began if nothing is asked.
-/
def afterQuestion (ask : Int → Run (Tracking ω) Decimal) (number : Nat) (t : Tracking ω) :
    Tracking ω :=
  match t.sightings[number]? with
  | none => t
  | some s =>
    if t.isProcessed s.outpoint then t
    else match s.phase.height? with
      | none => t
      | some height => Run.after (ask height) (t.noted [.asked number height])

theorem Due.afterQuestion {t : Tracking ω} {number : Nat} {s : Sighting} {height : Int}
    (due : t.Due number s height) (ask : Int → Run (Tracking ω) Decimal) :
    Tracking.afterQuestion ask number t = Run.after (ask height) (t.noted [.asked number height]) := by
  simp [Tracking.afterQuestion, due.found, due.new, due.block, Phase.height?]

theorem afterQuestion_of_undue {t : Tracking ω} {number : Nat}
    (undue : ∀ s height, ¬ t.Due number s height) (ask : Int → Run (Tracking ω) Decimal) :
    afterQuestion ask number t = t := by
  unfold afterQuestion
  split
  · rfl
  · rename_i s found
    split
    · rfl
    · rename_i unprocessed
      split
      · rfl
      · rename_i height block
        have due : t.Due number s height :=
          ⟨found, Phase.eq_confirmed_of_height? block, Bool.eq_false_of_not_eq_true unprocessed⟩
        exact absurd due (undue s height)

theorem Settles.credits {t u : Tracking ω} {number : Nat} {output : Output} {height : Int}
    {rate : Decimal} {result : Except Failure Bool}
    (settles : Settles t number output height rate result u) :
    u.credits.length = t.credits.length + made result := by
  cases settles with
  | failed => rfl
  | concurrent record => exact congrArg List.length (credits_noted t (History.quiet_singleton rfl))
  | unsummed => rfl
  | credited usd total record =>
    rw [credits_noted _ (History.quiet_singleton rfl), credits_release, credits_crediting,
      List.length_append]
    rfl

/-- A try tells that it has credited an output when there is one more credit than before. -/
theorem Tries.credits {ask : Int → Run (Tracking ω) Decimal} {t u : Tracking ω} {number : Nat}
    {result : Except Failure Bool} (tries : Tries ask t number result u) :
    u.credits.length = (afterQuestion ask number t).credits.length + made result := by
  cases tries with
  | idle undue =>
    rw [afterQuestion_of_undue undue]
    rfl
  | deferred record undue =>
    rw [afterQuestion_of_undue undue, credits_noted t (History.quiet_singleton rfl)]
    rfl
  | unanswered s height due failure record =>
    rw [due.afterQuestion ask, credits_noted _ (History.quiet_singleton rfl),
      credits_noted _ (History.quiet_singleton rfl)]
    rfl
  | answered s height due rate told settles =>
    rw [due.afterQuestion ask, settles.credits, credits_noted _ (History.quiet_singleton rfl)]

theorem Settles.not_duplicate {t u : Tracking ω} {number : Nat} {output : Output} {height : Int}
    {rate : Decimal} {result : Except Failure Bool}
    (settles : Settles t number output height rate result u) (other : Outpoint) :
    result ≠ .error (.duplicateCredit other) := by
  cases settles with
  | failed failure others =>
    intro same
    exact others other (Except.error.inj same)
  | concurrent | unsummed | credited => exact fun same => by cases same

theorem Tries.not_duplicate {ask : Int → Run (Tracking ω) Decimal} {t u : Tracking ω}
    {number : Nat} {result : Except Failure Bool} (tries : Tries ask t number result u)
    (other : Outpoint) : result ≠ .error (.duplicateCredit other) := by
  cases tries with
  | idle | deferred | unanswered => exact fun same => by cases same
  | answered s height due rate told settles => exact settles.not_duplicate other

/-! ## The claim of the ledger -/

theorem Balanced.count_credits {t : Tracking ω} (balanced : t.Balanced) (output : Outpoint) :
    (t.credits.map (·.output.outpoint)).count output = if t.isProcessed output then 1 else 0 := by
  rw [← balanced.processed, isProcessed, Ledger.contains]
  split
  · rename_i inside
    exact List.count_eq_one_of_mem balanced.nodup (List.contains_iff_mem.mp inside)
  · rename_i outside
    exact List.count_eq_zero_of_not_mem fun inside => outside (List.contains_iff_mem.mpr inside)

/--
Whatever becomes of a tracker, the credits that have been made are those of the
outputs in its ledger, each of which has one.  No output ever leaves the ledger.
Every single try, in whatever state it is made and whatever happens during its
question, tells that it has credited an output exactly when it adds a credit to
those that are there when it goes on, and is never refused as a second one.
-/
theorem credited_at_most_once (manner : FeedManner) (outside : ω) {t : Tracking ω}
    (evolves : Evolves (start manner outside) t) :
    (∀ output, (t.credits.map (·.output.outpoint)).count output =
      if t.isProcessed output then 1 else 0) ∧
    t.ledger.processed.Nodup ∧
    t.credits.length = t.ledger.count ∧
    (∀ s u : Tracking ω, Evolves s u → s.ledger.processed <+: u.ledger.processed) ∧
    (∀ (ask : Int → Run (Tracking ω) Decimal) (number : Nat) (s : Tracking ω),
      (∀ output, Run.outcome (credit ask number) s ≠ .error (.duplicateCredit output)) ∧
      (Run.after (credit ask number) s).credits.length =
        (afterQuestion ask number s).credits.length + made (Run.outcome (credit ask number) s)) := by
  have balanced : t.Balanced := evolves.moves.balanced (balanced_start manner outside)
  refine ⟨balanced.count_credits, balanced.nodup, ?_, ?_, ?_⟩
  · rw [Ledger.count, balanced.processed, List.length_map]
  · intro s u evolves
    exact evolves.moves.processed_prefix
  · intro ask number s
    exact ⟨(tries ask s number).not_duplicate, (tries ask s number).credits⟩

/-- A payment of one bitcoin, in a block when it is first reported. -/
def payment : Output :=
  ⟨⟨"tx", 0⟩, "address", 100000000, .building, some 7⟩

/-- A rate that is told after the payment has been delivered once more. -/
def redelivering (height : Int) : Run (Tracking Unit) Decimal := do
  (Operation.output payment).perform (fun _ => return Decimal.ofInt 30000)
  return Decimal.ofInt (30000 + height)

/-- The payment is delivered, and delivered once more while its rate is asked for. -/
def deliveredTwice : Tracking Unit :=
  Run.after ((Operation.output payment).perform redelivering)
    (Run.after ((Operation.addAddress "address" 0).perform redelivering) (start {} ()))

theorem credited_at_most_once_deliveredTwice :
    deliveredTwice.isProcessed payment.outpoint = true ∧
    (deliveredTwice.credits.map (·.output.outpoint)).count payment.outpoint = 1 ∧
    deliveredTwice.credits.length = deliveredTwice.ledger.count := by
  have reentrant : ∀ height s, Evolves s (Run.after (redelivering height) s) :=
    fun height s => .question (fun _ => return Decimal.ofInt 30000) (fun _ s => .refl s) _ _ s
  have evolves : Evolves (start {} ()) deliveredTwice :=
    .perform (.perform (.refl _) redelivering reentrant _) redelivering reentrant _
  obtain ⟨each, -, length, -⟩ := credited_at_most_once {} () evolves
  have processed : deliveredTwice.isProcessed payment.outpoint = true := by decide +kernel
  have once := each payment.outpoint
  rw [if_pos processed] at once
  exact ⟨processed, once, length⟩

end Tracking

end Paywatch
