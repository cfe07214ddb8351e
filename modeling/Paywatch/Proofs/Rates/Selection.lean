import Paywatch.Proofs.Decimal.Accrual
import Paywatch.Proofs.Rates.Cache

/-!
# The rate that is given

Records are numbered in the order in which they were made.  Of those at or below
a height the one of the latest block is chosen, and of several of that block the
last one.  Its rate and its age are looked at only then: where they will not do,
no other record takes its place.
-/

namespace Paywatch

namespace Decimal

/-- A number is above zero, or so is the infinity; a diagnostic has no place above it. -/
theorem isPositive_eq_true_iff {a : Decimal} : a.isPositive = .ok true ↔ 0 < a.level := by
  cases a with
  | nan => simp [isPositive, level]
  | infinite negative =>
    cases negative with
    | true => simp [isPositive, level]
    | false =>
      have above : (0 : WithBot (WithTop ℚ)) < (infinite false).level :=
        WithBot.coe_lt_coe.mpr (WithTop.coe_lt_top (0 : ℚ))
      simp [isPositive, above]
  | finite negative coefficient exponent =>
    have places : 0 < (finite negative coefficient exponent).level ↔
        0 < (finite negative coefficient exponent).value :=
      WithBot.coe_lt_coe.trans WithTop.coe_lt_coe
    rw [places]
    cases negative with
    | true => simp [isPositive, scaled_nonneg]
    | false =>
      rw [value_finite_false, (scaled_nonneg coefficient exponent).lt_iff_ne', ne_eq, scaled_eq_zero]
      simp [isPositive]

theorem isPositive_of_isFinite {a : Decimal} (finite : a.isFinite = true) :
    ∃ positive, a.isPositive = .ok positive := by
  cases a with
  | finite => exact ⟨_, rfl⟩
  | infinite | nan => cases finite

end Decimal

namespace RateTable

variable {table : RateTable} {height : Int} {number number' : Nat} {row row' : RateRow}

/-! ## The record that is chosen -/

/--
The record with a number is at or below a height, and comes first among those that
are when they are put in order: later blocks first, and then greater numbers first.
-/
structure IsFirst (table : RateTable) (height : Int) (number : Nat) (row : RateRow) : Prop where
  recorded : table.rows[number]? = some row
  below : row.block ≤ height
  first : ∀ ⦃n other⦄, table.rows[n]? = some other → other.block ≤ height →
    other.block < row.block ∨ other.block = row.block ∧ n ≤ number

/-- At most one record comes first. -/
theorem IsFirst.unique (one : table.IsFirst height number row)
    (two : table.IsFirst height number' row') : row = row' := by
  have same : number = number' := by
    rcases one.first two.recorded two.below with lower | ⟨level, le⟩
    · rcases two.first one.recorded one.below with lower' | ⟨level', -⟩ <;> omega
    · rcases two.first one.recorded one.below with lower' | ⟨-, le'⟩ <;> omega
  have found := one.recorded
  rw [same, two.recorded] at found
  exact (Option.some.inj found).symm

/-- The records of a table with one more. -/
theorem getElem?_insert (table : RateTable) (row : RateRow) (n : Nat) :
    (table.insert row).rows[n]? = if n = table.rows.length then some row else table.rows[n]? := by
  rw [insert, List.getElem?_append]
  split
  · rw [if_neg (by omega)]
  · by_cases last : n = table.rows.length
    · simp [last]
    · rw [if_neg last, List.getElem?_eq_none (by simp; omega), List.getElem?_eq_none (by omega)]

/-- A new record that is not of an earlier block comes first. -/
theorem isFirst_insert_new (below : row.block ≤ height)
    (latest : ∀ other ∈ table.rows, other.block ≤ height → other.block ≤ row.block) :
    (table.insert row).IsFirst height table.rows.length row where
  recorded := by rw [getElem?_insert, if_pos rfl]
  below := below
  first := by
    intro n other recorded otherBelow
    rw [getElem?_insert] at recorded
    split at recorded
    · next last =>
      cases recorded
      exact .inr ⟨rfl, last.le⟩
    · have inside := latest other (List.mem_of_getElem? recorded) otherBelow
      obtain ⟨bound, -⟩ := List.getElem?_eq_some_iff.mp recorded
      omega

/-- A new record above the height, or of an earlier block, leaves first what was so. -/
theorem IsFirst.insert (isFirst : table.IsFirst height number row)
    (later : row'.block ≤ height → row'.block < row.block) :
    (table.insert row').IsFirst height number row where
  recorded := by
    obtain ⟨bound, -⟩ := List.getElem?_eq_some_iff.mp isFirst.recorded
    rw [getElem?_insert, if_neg (by omega)]
    exact isFirst.recorded
  below := isFirst.below
  first := by
    intro n other recorded below
    rw [getElem?_insert] at recorded
    split at recorded
    · cases recorded
      exact .inl (later below)
    · exact isFirst.first recorded below

/-- What is looked up comes first. -/
theorem isFirst_of_latest? (latest : table.latest? height = some row) :
    ∃ number, table.IsFirst height number row := by
  obtain ⟨rows⟩ := table
  induction rows using List.reverseRecOn generalizing row with
  | nil => cases latest
  | append_singleton rows new ih =>
    change (insert ⟨rows⟩ new).latest? height = some row at latest
    change ∃ number, (insert ⟨rows⟩ new).IsFirst height number row
    rw [latest?_insert] at latest
    split at latest
    · next below =>
      rcases latest?_cases ⟨rows⟩ height with ⟨none, above⟩ | ⟨best, some, isLatest⟩
      · rw [none, later, Option.some.injEq] at latest
        subst latest
        refine ⟨_, isFirst_insert_new below fun other inside otherBelow => ?_⟩
        exact absurd (above other inside) (by omega)
      · rw [some, later] at latest
        split at latest
        · next supersedes =>
          cases latest
          refine ⟨_, isFirst_insert_new below fun other inside otherBelow => ?_⟩
          exact (isLatest.greatest other inside otherBelow).trans supersedes
        · next earlier =>
          cases latest
          obtain ⟨number, isFirst⟩ := ih some
          exact ⟨number, isFirst.insert fun _ => by omega⟩
    · next above =>
      obtain ⟨number, isFirst⟩ := ih latest
      exact ⟨number, isFirst.insert fun below => absurd below above⟩

/-- The lookup finds the record that comes first. -/
theorem latest?_eq_some_iff :
    table.latest? height = some row ↔ ∃ number, table.IsFirst height number row := by
  refine ⟨isFirst_of_latest?, fun ⟨number, isFirst⟩ => ?_⟩
  rcases latest?_cases table height with ⟨-, above⟩ | ⟨best, latest, -⟩
  · exact absurd (above row (List.mem_of_getElem? isFirst.recorded)) (by have := isFirst.below; omega)
  · obtain ⟨_, first⟩ := isFirst_of_latest? latest
    rw [latest, isFirst.unique first]

end RateTable

namespace RateService

variable {service : RateService} {height : Int}

/-! ## What is asked of the database -/

/-- The database answers as long as it has no fault and the height is one that it takes. -/
theorem query_eq_ok_iff {row? : Option RateRow} :
    (service.query height).1 = .ok row? ↔
      service.fault = none ∧ RateTable.fits height ∧ service.table.latest? height = row? := by
  unfold query
  cases service.fault with
  | none => cases fits : RateTable.fits height <;> simp [RateTable.checkBlock, fits]
  | some fault =>
    obtain ⟨stage, failure⟩ := fault
    cases stage <;> simp

/-! ## What is made of the answer -/

/-- A record gives its rate if that is above zero and not too old. -/
theorem judge_eq_ok_iff {row? : Option RateRow} {rate : Decimal} :
    (service.judge height row?).result = .ok rate ↔
      ∃ row, row? = some row ∧ row.usdPerBitcoin = rate ∧ 0 < rate.level ∧
        height - row.block ≤ service.maxGap := by
  constructor
  · intro given
    unfold judge at given
    split at given
    · cases given
    · next row =>
      split at given
      · cases given
      · cases given
      · next positive =>
        split at given
        · cases given
        · next young =>
          cases given
          exact ⟨row, rfl, rfl, Decimal.isPositive_eq_true_iff.mp positive, by omega⟩
  · rintro ⟨row, rfl, rfl, above, young⟩
    have positive := Decimal.isPositive_eq_true_iff.mpr above
    simp only [judge, positive, if_neg (not_lt.mpr young)]

/-- A finite rate is given, or there is none for the height. -/
theorem judge_cases (service : RateService) (height : Int) {row? : Option RateRow}
    (finite : ∀ row ∈ row?, row.usdPerBitcoin.isFinite = true) :
    (∃ rate, (service.judge height row?).result = .ok rate) ∨
      (service.judge height row?).result = .error (.noRate height) := by
  cases row? with
  | none => exact .inr rfl
  | some row =>
    obtain ⟨isPositive, positive⟩ := Decimal.isPositive_of_isFinite (finite row rfl)
    unfold judge
    cases isPositive with
    | false => simp [positive]
    | true =>
      simp only [positive]
      split
      · exact .inr rfl
      · exact .inl ⟨_, rfl⟩

/-- Does the record that comes first give a rate for the height? -/
def Selects (service : RateService) (height : Int) (rate : Decimal) : Prop :=
  ∃ number row, service.table.IsFirst height number row ∧ row.usdPerBitcoin = rate ∧
    0 < rate.level ∧ height - row.block ≤ service.maxGap

theorem selects_iff {rate : Decimal} :
    service.Selects height rate ↔
      (service.judge height (service.table.latest? height)).result = .ok rate := by
  rw [judge_eq_ok_iff]
  constructor
  · rintro ⟨number, row, isFirst, given⟩
    exact ⟨row, RateTable.latest?_eq_some_iff.mpr ⟨number, isFirst⟩, given⟩
  · rintro ⟨row, latest, given⟩
    obtain ⟨number, isFirst⟩ := RateTable.latest?_eq_some_iff.mp latest
    exact ⟨number, row, isFirst, given⟩

/--
A service that keeps no answers yet, on a table of finite rates: where the database
answers, the rate of the record that comes first is given exactly if it is above
zero and not too old, and in every other case there is no rate for the height,
whatever the other records are.
-/
theorem rateAt_selects (new : service.final = [])
    (finite : ∀ row ∈ service.table.rows, row.usdPerBitcoin.isFinite = true)
    (answered : ∃ row?, (service.query height).1 = .ok row?) :
    (∀ rate, (service.rateAt height).result = .ok rate ↔ service.Selects height rate) ∧
      ((∀ rate, ¬ service.Selects height rate) →
        (service.rateAt height).result = .error (.noRate height)) := by
  obtain ⟨row?, answer⟩ := answered
  obtain ⟨working, fits, rfl⟩ := query_eq_ok_iff.mp answer
  have judged : (service.rateAt height).result =
      (service.judge height (service.table.latest? height)).result := by
    rw [rateAt_unkept service working (by rw [new]; rfl), RateTable.checkBlock, if_pos fits]
    exact judge_result (by rfl) height _
  have recorded : ∀ row ∈ service.table.latest? height, row.usdPerBitcoin.isFinite = true :=
    fun row latest => finite row (RateTable.isLatest_of_latest? latest).recorded
  simp only [judged, selects_iff, implies_true, true_and]
  intro unselected
  rcases judge_cases service height recorded with ⟨rate, given⟩ | none
  · exact absurd given (unselected rate)
  · exact none

/-! ### Several records of a block, and one that will not do -/

/-- Records in no order of blocks, two blocks with two of them; a zero is recorded last of all. -/
def disordered : RateService where
  table :=
    ⟨[⟨103, .finite false 2 0⟩, ⟨100, .finite false 3 0⟩, ⟨-7, .finite false 5 0⟩,
      ⟨100, .finite false 4 0⟩, ⟨102, .finite true 1 0⟩, ⟨103, .finite false 0 0⟩]⟩
  maxGap := 1

/-- The second rate of block 100 is given at 101, and none at 102, 103 and 1, for three reasons. -/
theorem rateAt_selects_disordered :
    disordered.Selects 101 (.finite false 4 0) ∧
      (disordered.rateAt 101).result = .ok (.finite false 4 0) ∧
      ∀ height ∈ [102, 103, 1], (∀ rate, ¬ disordered.Selects height rate) ∧
        (disordered.rateAt height).result = .error (.noRate height) := by
  have finite : ∀ row ∈ disordered.table.rows, row.usdPerBitcoin.isFinite = true := by
    decide +kernel
  have answered (height : Int) (fits : RateTable.fits height = true) :
      ∃ row?, (disordered.query height).1 = .ok row? :=
    ⟨_, query_eq_ok_iff.mpr ⟨rfl, fits, rfl⟩⟩
  have given : (disordered.rateAt 101).result = .ok (.finite false 4 0) := by decide +kernel
  refine ⟨((rateAt_selects rfl finite (answered 101 (by decide))).1 _).mp given, given, ?_⟩
  intro height inside
  have fits : ∀ height ∈ [(102 : Int), 103, 1], RateTable.fits height = true := by decide
  have selects := @rateAt_selects disordered height rfl finite (answered height (fits _ inside))
  have refused : ∀ height ∈ [(102 : Int), 103, 1],
      (disordered.rateAt height).result = .error (.noRate height) := by
    decide +kernel
  have unselected : ∀ rate, ¬ disordered.Selects height rate := by
    intro rate selected
    have ok := (selects.1 rate).mpr selected
    rw [refused height inside] at ok
    cases ok
  exact ⟨unselected, selects.2 unselected⟩

end RateService

end Paywatch
