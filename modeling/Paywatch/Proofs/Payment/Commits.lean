import Mathlib.Order.Bounds.Basic
import Paywatch.Proofs.Decimal.Accrual
import Paywatch.Proofs.Payment.Ledger

/-!
# A ledger under any commits

Whatever is committed, of whatever size, the total never falls and is never below
zero or a diagnostic.  A commit that fails leaves the ledger as it was, unless the
sum overflows: then the output counts as credited, and its amount is missing from
the total for good.
-/

namespace Paywatch

open Decimal

namespace Ledger

variable {ledger : Ledger} {output : Outpoint} {usd : Decimal}

/-- The ledger after commits in their order; those that fail are among them. -/
def afterCommits (ledger : Ledger) (commits : List (Outpoint × Decimal)) : Ledger :=
  commits.foldl (fun ledger credit => Run.after (commit credit.1 credit.2) ledger) ledger

/-- A credit is due, but the sum that it would lead to is too great. -/
structure Unsummed (ledger : Ledger) (output : Outpoint) (usd : Decimal) : Prop where
  nonneg : usd.isNegative = .ok false
  new : output ∉ ledger.processed
  overflows : Overflows ledger.total usd

theorem contains_eq_false_iff : ledger.contains output = false ↔ output ∉ ledger.processed := by
  rw [contains, ← Bool.not_eq_true, List.contains_iff_mem]

/-! ## One commit -/

/-- A commit is entered with its sum, or refused without a trace, or entered without its sum. -/
theorem commit_cases (accrued : IsAccrued ledger.total) (output : Outpoint) (usd : Decimal) :
    (usd.isNegative = .ok false ∧ output ∉ ledger.processed ∧ ¬ Overflows ledger.total usd ∧
      ∃ total, Run.outcome (commit output usd) ledger = .ok total ∧
        Run.after (commit output usd) ledger = ⟨ledger.processed ++ [output], total⟩ ∧
        IsAccrued total ∧ ledger.total.level ≤ total.level) ∨
    (¬ (usd.isNegative = .ok false ∧ output ∉ ledger.processed) ∧
      ∃ failure, Run.outcome (commit output usd) ledger = .error failure ∧
        Run.after (commit output usd) ledger = ledger) ∨
    (ledger.Unsummed output usd ∧
      Run.outcome (commit output usd) ledger = .error (.arithmetic .overflow) ∧
      Run.after (commit output usd) ledger = ⟨ledger.processed ++ [output], ledger.total⟩) := by
  by_cases due : usd.isNegative = .ok false ∧ output ∉ ledger.processed
  · obtain ⟨nonneg, new⟩ := due
    obtain ⟨outcome, summed, unsummed⟩ := commit_new nonneg (contains_eq_false_iff.mpr new)
    rcases accrued.add nonneg with ⟨fits, total, added, accrued', grows⟩ | ⟨overflows, refused⟩
    · rw [added] at outcome
      exact .inl ⟨nonneg, new, fits, total, outcome, summed total added, accrued', grows⟩
    · rw [refused] at outcome
      exact .inr (.inr ⟨⟨nonneg, new, overflows⟩, outcome, unsummed _ refused⟩)
  · refine .inr (.inl ⟨due, commit_refused ?_⟩)
    rw [← Bool.not_eq_false, contains_eq_false_iff]
    exact Decidable.not_and_iff_not_or_not.mp due

/-- No commit takes a total down. -/
theorem accrued_commit (accrued : IsAccrued ledger.total) (output : Outpoint) (usd : Decimal) :
    IsAccrued (Run.after (commit output usd) ledger).total ∧
      ledger.total.level ≤ (Run.after (commit output usd) ledger).total.level := by
  rcases commit_cases accrued output usd with
    ⟨-, -, -, total, -, after, accrued', grows⟩ | ⟨-, failure, -, after⟩ | ⟨-, -, after⟩
  · rw [after]
    exact ⟨accrued', grows⟩
  · rw [after]
    exact ⟨accrued, le_rfl⟩
  · rw [after]
    exact ⟨accrued, le_rfl⟩

/-! ## Many commits -/

theorem accrued_afterCommits (accrued : IsAccrued ledger.total)
    (commits : List (Outpoint × Decimal)) :
    IsAccrued (ledger.afterCommits commits).total ∧
      ledger.total.level ≤ (ledger.afterCommits commits).total.level := by
  induction commits generalizing ledger with
  | nil => exact ⟨accrued, le_rfl⟩
  | cons credit commits ih =>
    obtain ⟨accrued', grows⟩ := accrued_commit accrued credit.1 credit.2
    obtain ⟨accrued'', grows'⟩ := ih accrued'
    exact ⟨accrued'', grows.trans grows'⟩

theorem afterCommits_append (before more : List (Outpoint × Decimal)) :
    ledger.afterCommits (before ++ more) = (ledger.afterCommits before).afterCommits more :=
  List.foldl_append

/-- More commits lead to a total that is not below. -/
theorem level_le_of_prefix (accrued : IsAccrued ledger.total)
    {before commits : List (Outpoint × Decimal)} (earlier : before <+: commits) :
    (ledger.afterCommits before).total.level ≤ (ledger.afterCommits commits).total.level := by
  obtain ⟨more, rfl⟩ := earlier
  rw [afterCommits_append]
  exact (accrued_afterCommits (accrued_afterCommits accrued before).1 more).2

/--
A commit that returns has newly entered its output, and gives the new total.  It
returns where the amount is not negative, the output is new and the sum does not
overflow.  A commit that fails leaves the ledger as it was, unless it is the
overflow of a credit that is due; then the output is entered and the total is not
changed.
-/
theorem commit_whole_or_unsummed (commits : List (Outpoint × Decimal)) (output : Outpoint)
    (usd : Decimal) :
    let ledger := afterCommits {} commits
    let outcome := Run.outcome (commit output usd) ledger
    let after := Run.after (commit output usd) ledger
    (∀ total, outcome = .ok total →
      output ∉ ledger.processed ∧ after = ⟨ledger.processed ++ [output], total⟩) ∧
    ((∃ total, outcome = .ok total) ↔
      usd.isNegative = .ok false ∧ output ∉ ledger.processed ∧
        ¬ Overflows ledger.total usd) ∧
    (∀ failure, outcome = .error failure → (after = ledger ↔ ¬ ledger.Unsummed output usd)) ∧
    (ledger.Unsummed output usd → outcome = .error (.arithmetic .overflow) ∧
      after = ⟨ledger.processed ++ [output], ledger.total⟩) := by
  intro ledger outcome after
  have accrued : IsAccrued ledger.total := (accrued_afterCommits isAccrued_zero commits).1
  rcases commit_cases accrued output usd with
    ⟨nonneg, new, fits, total, returned, entered, -⟩ | ⟨undue, failure, failed, same⟩ |
      ⟨unsummed, failed, entered⟩
  · refine ⟨?_, ⟨fun _ => ⟨nonneg, new, fits⟩, fun _ => ⟨total, returned⟩⟩, ?_, ?_⟩
    · intro total' returned'
      obtain rfl := Except.ok.inj (returned.symm.trans returned')
      exact ⟨new, entered⟩
    · intro failure failed
      exact nomatch returned.symm.trans failed
    · intro unsummed
      exact absurd unsummed.overflows fits
  · refine ⟨?_, ⟨?_, fun due => absurd ⟨due.1, due.2.1⟩ undue⟩, ?_, ?_⟩
    · intro total returned
      exact nomatch failed.symm.trans returned
    · rintro ⟨total, returned⟩
      exact nomatch failed.symm.trans returned
    · intro _ _
      exact ⟨fun _ unsummed => undue ⟨unsummed.nonneg, unsummed.new⟩, fun _ => same⟩
    · intro unsummed
      exact absurd ⟨unsummed.nonneg, unsummed.new⟩ undue
  · refine ⟨?_, ⟨?_, fun due => absurd unsummed.overflows due.2.2⟩, ?_, fun _ => ⟨failed, entered⟩⟩
    · intro total returned
      exact nomatch failed.symm.trans returned
    · rintro ⟨total, returned⟩
      exact nomatch failed.symm.trans returned
    · intro _ _
      refine ⟨fun same => ?_, fun sound => absurd unsummed sound⟩
      have longer := congrArg (·.processed.length) (entered.symm.trans same)
      simp at longer

/-- A credit near the greatest number that a result can be. -/
def ample : Decimal := .finite false 9 999999

def amplyCredited : Ledger := afterCommits {} [(⟨"tx", 0⟩, ample)]

theorem commit_whole_or_unsummed_ample :
    amplyCredited.Unsummed ⟨"tx", 1⟩ ample ∧
    Run.after (commit ⟨"tx", 1⟩ ample) amplyCredited =
      ⟨amplyCredited.processed ++ [⟨"tx", 1⟩], amplyCredited.total⟩ ∧
    Run.outcome (commit ⟨"tx", 0⟩ ample) amplyCredited = .error (.duplicateCredit ⟨"tx", 0⟩) ∧
    Run.after (commit ⟨"tx", 0⟩ ample) amplyCredited = amplyCredited := by
  have accrued : IsAccrued amplyCredited.total := (accrued_afterCommits isAccrued_zero _).1
  have refused : amplyCredited.total.add ample = .error .overflow := by decide +kernel
  have unsummed : amplyCredited.Unsummed ⟨"tx", 1⟩ ample :=
    ⟨rfl, by decide +kernel, accrued.overflows rfl refused⟩
  have known : Run.outcome (commit ⟨"tx", 0⟩ ample) amplyCredited =
      .error (.duplicateCredit ⟨"tx", 0⟩) := by
    decide +kernel
  have entered : ⟨"tx", 0⟩ ∈ amplyCredited.processed := by decide +kernel
  have settled : ¬ amplyCredited.Unsummed ⟨"tx", 0⟩ ample := fun due => due.new entered
  obtain ⟨-, -, -, lost⟩ := commit_whole_or_unsummed [(⟨"tx", 0⟩, ample)] ⟨"tx", 1⟩ ample
  obtain ⟨-, -, failed, -⟩ := commit_whole_or_unsummed [(⟨"tx", 0⟩, ample)] ⟨"tx", 0⟩ ample
  exact ⟨unsummed, (lost unsummed).2, known, (failed _ known).mpr settled⟩

/-- An output whose sum overflows counts as credited. -/
theorem not_whole_overflowing :
    ¬ ∀ (commits : List (Outpoint × Decimal)) (output : Outpoint) (usd : Decimal)
      (failure : Failure),
      Run.outcome (commit output usd) (afterCommits {} commits) = .error failure →
      Run.after (commit output usd) (afterCommits {} commits) = afterCommits {} commits := by
  intro whole
  have failed : Run.outcome (commit ⟨"a1a1", 0⟩ (.finite false 1 1000000)) {} =
      .error (.arithmetic .overflow) := by
    decide +kernel
  have entered : Run.after (commit ⟨"a1a1", 0⟩ (.finite false 1 1000000)) {} =
      ⟨[⟨"a1a1", 0⟩], zero⟩ := by
    decide +kernel
  have same := whole [] _ _ _ failed
  exact absurd (entered.symm.trans same) (by decide +kernel)

/-! ## The dollars raised -/

/-- The whole numbers of dollars that are not below a total. -/
def dollarsAbove (total : Decimal) : Set Int :=
  {n | total.level ≤ ((n : ℚ) : WithTop ℚ)}

/-- The dollars raised are the least that are not below the total, as long as it is short enough. -/
theorem raisedUsd_cases (accrued : IsAccrued ledger.total) :
    (∃ raised, ledger.raisedUsd = .ok raised ∧ IsLeast (dollarsAbove ledger.total) raised ∧
      ledger.total.level < ((10 ^ precision : ℚ) : WithTop ℚ)) ∨
    ledger.raisedUsd = .error .invalidOperation ∧
      ((10 ^ precision : ℚ) : WithTop ℚ) ≤ ledger.total.level := by
  rcases accrued.roundUpWhole with ⟨x, level, short, rounded⟩ | ⟨long, refused⟩
  · refine .inl ⟨⌈x⌉, rounded, ⟨?_, ?_⟩, ?_⟩
    · rw [dollarsAbove, level]
      exact WithBot.coe_le_coe.mpr (WithTop.coe_le_coe.mpr (Int.le_ceil x))
    · intro n above
      rw [dollarsAbove, level] at above
      exact Int.ceil_le.mpr (WithTop.coe_le_coe.mp (WithBot.coe_le_coe.mp above))
    · rw [level]
      exact WithBot.coe_lt_coe.mpr (WithTop.coe_lt_coe.mpr short)
  · exact .inr ⟨refused, long⟩

theorem isLeast_of_raisedUsd (accrued : IsAccrued ledger.total) {raised : Int}
    (told : ledger.raisedUsd = .ok raised) : IsLeast (dollarsAbove ledger.total) raised := by
  rcases raisedUsd_cases accrued with ⟨raised', rounded, least, -⟩ | ⟨refused, -⟩
  · rwa [Except.ok.inj (told.symm.trans rounded)]
  · exact nomatch told.symm.trans refused

theorem raisedUsd_eq_error_iff (accrued : IsAccrued ledger.total) {signal : Signal} :
    ledger.raisedUsd = .error signal ↔
      signal = .invalidOperation ∧ ((10 ^ precision : ℚ) : WithTop ℚ) ≤ ledger.total.level := by
  rcases raisedUsd_cases accrued with ⟨raised, rounded, -, short⟩ | ⟨refused, long⟩
  · exact ⟨fun untold => (nomatch rounded.symm.trans untold),
      fun long => absurd short long.2.not_gt⟩
  · exact ⟨fun untold => ⟨(Except.error.inj (refused.symm.trans untold)).symm, long⟩,
      fun same => same.1 ▸ refused⟩

/--
The total is never below zero and never a diagnostic, and it never falls, commits
that fail included.  The dollars raised are the least whole number that is not
below the total, and they are told exactly as long as the total is below
`10 ^ 28`.  So they never fall either, and once they are not told they never are
again.
-/
theorem total_never_falls (commits : List (Outpoint × Decimal)) :
    let ledger := afterCommits {} commits
    ledger.total.isNegative = .ok false ∧
    (∀ raised, ledger.raisedUsd = .ok raised → IsLeast (dollarsAbove ledger.total) raised) ∧
    (∀ signal, ledger.raisedUsd = .error signal ↔
      signal = .invalidOperation ∧ ((10 ^ 28 : ℚ) : WithTop ℚ) ≤ ledger.total.level) ∧
    ∀ before, before <+: commits →
      (afterCommits {} before).total.level ≤ ledger.total.level ∧
      (∀ once raised, (afterCommits {} before).raisedUsd = .ok once →
        ledger.raisedUsd = .ok raised → once ≤ raised) ∧
      ∀ signal, (afterCommits {} before).raisedUsd = .error signal →
        ledger.raisedUsd = .error signal := by
  intro ledger
  have accrued : IsAccrued ledger.total := (accrued_afterCommits isAccrued_zero commits).1
  refine ⟨accrued.isNegative, fun _ => isLeast_of_raisedUsd accrued,
    fun _ => raisedUsd_eq_error_iff accrued, ?_⟩
  intro before earlier
  have accruedBefore : IsAccrued (afterCommits {} before).total :=
    (accrued_afterCommits isAccrued_zero before).1
  have grows : (afterCommits {} before).total.level ≤ ledger.total.level :=
    level_le_of_prefix isAccrued_zero earlier
  refine ⟨grows, ?_, ?_⟩
  · intro once raised toldOnce toldNow
    have least := isLeast_of_raisedUsd accruedBefore toldOnce
    exact least.2 (grows.trans (isLeast_of_raisedUsd accrued toldNow).1)
  · intro signal untoldOnce
    obtain ⟨rfl, long⟩ := (raisedUsd_eq_error_iff accruedBefore).mp untoldOnce
    exact (raisedUsd_eq_error_iff accrued).mpr ⟨rfl, long.trans grows⟩

/-- Credits that are refused, rounded away, rounded up to a further digit, and infinite. -/
def assortedCredits : List (Outpoint × Decimal) :=
  [(⟨"tx", 0⟩, .finite false 25 (-2)), (⟨"tx", 1⟩, .nan false true 0),
    (⟨"tx", 0⟩, .finite false 1 0), (⟨"tx", 2⟩, .finite true 1 (-3)),
    (⟨"tx", 3⟩, .finite false 1 (-40)), (⟨"tx", 4⟩, .finite false (10 ^ 28 - 1) 0),
    (⟨"tx", 5⟩, .finite false 1 0), (⟨"tx", 6⟩, .infinite false)]

theorem total_never_falls_assorted :
    assortedCredits.take 5 <+: assortedCredits ∧
    (afterCommits {} (assortedCredits.take 5)).raisedUsd = .ok 1 ∧
    IsLeast (dollarsAbove (afterCommits {} (assortedCredits.take 5)).total) 1 ∧
    assortedCredits.take 7 <+: assortedCredits ∧
    (afterCommits {} (assortedCredits.take 7)).raisedUsd = .error .invalidOperation ∧
    (afterCommits {} assortedCredits).raisedUsd = .error .invalidOperation := by
  have earlier : assortedCredits.take 5 <+: assortedCredits := List.take_prefix 5 _
  have later : assortedCredits.take 7 <+: assortedCredits := List.take_prefix 7 _
  have told : (afterCommits {} (assortedCredits.take 5)).raisedUsd = .ok 1 := by decide +kernel
  have untold : (afterCommits {} (assortedCredits.take 7)).raisedUsd =
      .error .invalidOperation := by
    decide +kernel
  obtain ⟨-, least, -⟩ := total_never_falls (assortedCredits.take 5)
  obtain ⟨-, -, -, passed⟩ := total_never_falls assortedCredits
  exact ⟨earlier, told, least 1 told, later, untold, (passed _ later).2.2 _ untold⟩

end Ledger

end Paywatch
