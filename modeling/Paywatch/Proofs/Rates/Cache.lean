import Mathlib.Tactic
import Paywatch.Rates.Service

/-!
# The cache of rates

A service keeps the rates that were recorded at the very block asked for.  As
long as every new record is for a block that has none, nothing in the table
supersedes such a rate, and a service that keeps its answers cannot be told from
one that has just been made on the same table.
-/

namespace Paywatch

namespace RateTable

/-! ## The latest record -/

/-- What a new record does to the latest record at or below a height. -/
theorem latest?_insert (table : RateTable) (row : RateRow) (height : Int) :
    (table.insert row).latest? height =
      if row.block ≤ height then later (table.latest? height) row else table.latest? height := by
  unfold latest? insert
  rw [List.filter_append, List.foldl_append]
  split
  · rw [List.filter_cons_of_pos (by simpa), List.filter_nil, List.foldl_cons, List.foldl_nil]
  · next above =>
    rw [List.filter_cons_of_neg (by rw [decide_eq_true_iff]; exact above), List.filter_nil,
      List.foldl_nil]

/-- The best of a record and some more is one of them, and none of them is later. -/
theorem foldl_later (rows : List RateRow) (best : RateRow) :
    ∃ found ∈ best :: rows, rows.foldl later (some best) = some found ∧
      ∀ row ∈ best :: rows, row.block ≤ found.block := by
  induction rows generalizing best with
  | nil => exact ⟨best, List.mem_singleton_self best, rfl, by simp⟩
  | cons row rows ih =>
    rw [List.foldl_cons, later]
    split
    · next later =>
      obtain ⟨found, inside, folds, greatest⟩ := ih row
      refine ⟨found, List.mem_cons_of_mem _ inside, folds, List.forall_mem_cons.mpr ⟨?_, greatest⟩⟩
      exact Int.le_trans later (greatest row List.mem_cons_self)
    · next earlier =>
      obtain ⟨found, inside, folds, greatest⟩ := ih best
      rw [List.forall_mem_cons] at greatest
      refine ⟨found, ?_, folds, ?_⟩
      · rcases List.mem_cons.mp inside with rfl | inside
        · exact List.mem_cons_self
        · exact List.mem_cons_of_mem _ (List.mem_cons_of_mem _ inside)
      · refine List.forall_mem_cons.mpr ⟨greatest.1, List.forall_mem_cons.mpr ⟨?_, greatest.2⟩⟩
        exact Int.le_trans (Int.le_of_not_le earlier) greatest.1

/-- A record at or below a height such that no later one is. -/
structure IsLatest (table : RateTable) (height : Int) (found : RateRow) : Prop where
  recorded : found ∈ table.rows
  below : found.block ≤ height
  greatest : ∀ row ∈ table.rows, row.block ≤ height → row.block ≤ found.block

/-- A latest record is found, unless all records are above the height. -/
theorem latest?_cases (table : RateTable) (height : Int) :
    (table.latest? height = none ∧ ∀ row ∈ table.rows, height < row.block) ∨
      ∃ found, table.latest? height = some found ∧ table.IsLatest height found := by
  have inside (row : RateRow) : row ∈ table.rows.filter (·.block ≤ height) ↔
      row ∈ table.rows ∧ row.block ≤ height := by simp
  unfold latest?
  cases rows : table.rows.filter (·.block ≤ height) with
  | nil =>
    refine .inl ⟨rfl, fun row recorded => Int.lt_of_not_ge fun below => ?_⟩
    have found := (inside row).mpr ⟨recorded, below⟩
    rw [rows] at found
    cases found
  | cons best more =>
    obtain ⟨found, among, folds, greatest⟩ := foldl_later more best
    rw [← rows, inside] at among
    refine .inr ⟨found, folds, among.1, among.2, fun row recorded below => greatest row ?_⟩
    rw [← rows, inside]
    exact ⟨recorded, below⟩

theorem isLatest_of_latest? {table : RateTable} {height : Int} {found : RateRow}
    (latest : table.latest? height = some found) : table.IsLatest height found := by
  rcases table.latest?_cases height with ⟨none, -⟩ | ⟨other, some, isLatest⟩
  · rw [latest] at none
    cases none
  · rw [latest] at some
    cases some
    exact isLatest

/-! ## Records that are only appended -/

def IsNew (table : RateTable) (row : RateRow) : Prop :=
  ∀ old ∈ table.rows, old.block ≠ row.block

instance (table : RateTable) (row : RateRow) : Decidable (table.IsNew row) :=
  inferInstanceAs (Decidable (∀ old ∈ table.rows, _))

/-- A record at the very block stays the latest one when others are appended. -/
theorem latest?_insert_exact {table : RateTable} {row kept : RateRow} (new : table.IsNew row)
    (latest : table.latest? kept.block = some kept) :
    (table.insert row).latest? kept.block = some kept := by
  have different := new kept (isLatest_of_latest? latest).recorded
  rw [latest?_insert, latest]
  split
  · rw [later, if_neg (by omega)]
  · rfl

end RateTable

namespace RateService

/-! ## Judging a record -/

/-- A service that has just been made on the same table, with the same limit. -/
def renewed (service : RateService) : RateService where
  table := service.table
  maxGap := service.maxGap

/-- What a record says about a height does not depend on what is kept. -/
theorem judge_result {service other : RateService} (same : service.maxGap = other.maxGap)
    (height : Int) (row? : Option RateRow) :
    (service.judge height row?).result = (other.judge height row?).result := by
  unfold judge
  rw [same]
  split
  · rfl
  · split
    · rfl
    · rfl
    · split <;> rfl

/-- A record is kept only if it is given and was recorded at the very block. -/
theorem judge_final (service : RateService) (height : Int) (row? : Option RateRow) :
    (service.judge height row?).service.final = service.final ∨
      ∃ row, row? = some row ∧ row.block = height ∧
        (service.judge height row?).result = .ok row.usdPerBitcoin ∧
        (service.judge height row?).service.final = service.final ++ [(height, row.usdPerBitcoin)] := by
  unfold judge
  split
  · exact .inl rfl
  · next row =>
    split
    · exact .inl rfl
    · exact .inl rfl
    · split
      · exact .inl rfl
      · by_cases exact : row.block = height
        · refine .inr ⟨row, rfl, exact, rfl, ?_⟩
          rw [if_pos exact]
        · refine .inl ?_
          rw [if_neg exact]

/-- What a record is judged to be changes nothing but what is kept. -/
theorem judge_service (service : RateService) (height : Int) (row? : Option RateRow) :
    (service.judge height row?).service =
      { service with final := (service.judge height row?).service.final } := by
  unfold judge
  split
  · rfl
  · split
    · rfl
    · rfl
    · split <;> rfl

/-! ## Lookups -/

def counted (service : RateService) : RateService :=
  { service with opened := service.opened + 1, closed := service.closed + 1 }

/-- What a lookup comes to when the database works and no answer is kept. -/
theorem rateAt_unkept (service : RateService) (working : service.fault = none) {height : Int}
    (unkept : service.final.lookup height = none) :
    service.rateAt height =
      match RateTable.checkBlock height with
      | .error failure => ⟨.error (wrapFault height failure), [], service.counted⟩
      | .ok () => service.counted.judge height (service.table.latest? height) := by
  obtain ⟨table, maxGap, final, opened, closed, fault⟩ := service
  obtain rfl : fault = none := working
  unfold rateAt query
  rw [unkept]
  cases RateTable.checkBlock height <;> rfl

/-! ## What is kept -/

/-- A rate that nothing supersedes: it was recorded at the very block, and is given for it. -/
structure IsFinal (service : RateService) (height : Int) (rate : Decimal) : Prop where
  latest : ∃ row, service.table.latest? height = some row ∧ row.block = height
  given : (service.renewed.rateAt height).result = .ok rate

/-- The database works, and nothing supersedes what is kept. -/
structure Current (service : RateService) : Prop where
  working : service.fault = none
  final : ∀ height rate, (height, rate) ∈ service.final → service.IsFinal height rate

variable {service other : RateService}

/-- A lookup gives the answer of a service that has just been made. -/
theorem Current.rateAt (current : service.Current) (height : Int) :
    (service.rateAt height).result = (service.renewed.rateAt height).result := by
  cases kept : service.final.lookup height with
  | some rate =>
    obtain ⟨before, behind, same, -⟩ := List.lookup_eq_some_iff.mp kept
    have isFinal := current.final height rate (by rw [same]; simp)
    rw [isFinal.given, RateService.rateAt, kept]
  | none =>
    rw [rateAt_unkept service current.working kept, rateAt_unkept service.renewed rfl rfl]
    cases RateTable.checkBlock height with
    | error failure => rfl
    | ok _ => exact judge_result (by rfl) height _

/-- What is final depends on the table and the limit alone. -/
theorem Current.of_same (current : service.Current) (table : other.table = service.table)
    (maxGap : other.maxGap = service.maxGap) (working : other.fault = none)
    (final : ∀ height rate, (height, rate) ∈ other.final →
      (height, rate) ∈ service.final ∨ service.IsFinal height rate) : other.Current where
  working := working
  final := by
    intro height rate inside
    have isFinal := (final height rate inside).elim (current.final height rate) id
    have same : other.renewed = service.renewed := by rw [renewed, table, maxGap, renewed]
    constructor
    · rw [table]
      exact isFinal.latest
    · rw [same]
      exact isFinal.given

/-- A lookup keeps nothing that could be superseded. -/
theorem Current.asked (current : service.Current) (height : Int) :
    (service.rateAt height).service.Current ∧
      (service.rateAt height).service.table = service.table ∧
      (service.rateAt height).service.maxGap = service.maxGap := by
  cases kept : service.final.lookup height with
  | some rate =>
    rw [RateService.rateAt, kept]
    exact ⟨current, rfl, rfl⟩
  | none =>
    have answer := current.rateAt height
    rw [rateAt_unkept service current.working kept] at answer ⊢
    cases fits : RateTable.checkBlock height with
    | error failure =>
      exact ⟨current.of_same rfl rfl current.working fun _ _ inside => .inl inside, rfl, rfl⟩
    | ok _ =>
      rw [fits] at answer
      simp only at answer ⊢
      have others := service.counted.judge_service height (service.table.latest? height)
      refine ⟨current.of_same ?_ ?_ ?_ ?_, ?_, ?_⟩
      case refine_1 | refine_5 => rw [others]; rfl
      case refine_2 | refine_6 => rw [others]; rfl
      case refine_3 => rw [others]; exact current.working
      case refine_4 =>
        intro block rate inside
        rcases service.counted.judge_final height (service.table.latest? height) with
          same | ⟨row, latest, exact, given, final⟩
        · rw [same] at inside
          exact .inl inside
        · rw [final, List.mem_append, List.mem_singleton, Prod.mk.injEq] at inside
          rcases inside with before | ⟨rfl, rfl⟩
          · exact .inl before
          · exact .inr ⟨⟨row, latest, exact⟩, answer.symm.trans given⟩

/-- A record for a new block supersedes nothing that is kept. -/
theorem Current.recorded (current : service.Current) {row : RateRow}
    (new : service.table.IsNew row) :
    Current { service with table := service.table.insert row } where
  working := current.working
  final := by
    intro height rate inside
    obtain ⟨⟨kept, latest, rfl⟩, given⟩ := current.final height rate inside
    have stays := RateTable.latest?_insert_exact new latest
    refine ⟨⟨kept, stays, rfl⟩, ?_⟩
    rw [rateAt_unkept service.renewed rfl rfl] at given
    rw [rateAt_unkept (renewed _) rfl rfl, ← given]
    cases RateTable.checkBlock kept.block with
    | error failure => rfl
    | ok _ =>
      simp only [renewed, stays, latest]
      exact judge_result (by rfl) kept.block _

end RateService

/-! ## Lookups among new records -/

inductive RateEvent where
  | recorded (row : RateRow)
  | asked (height : Int)

/-- Is every new record for a block of which the table has none? -/
def RateTable.Appends (table : RateTable) : List RateEvent → Prop
  | [] => True
  | .recorded row :: later => table.IsNew row ∧ (table.insert row).Appends later
  | .asked _ :: later => table.Appends later

namespace RateService

variable {service : RateService}

def next (service : RateService) : RateEvent → RateService
  | .recorded row => { service with table := service.table.insert row }
  | .asked height => (service.rateAt height).service

def along (service : RateService) (events : List RateEvent) : RateService :=
  events.foldl next service

/-- What is kept stays current for as long as records are only appended. -/
theorem Current.along (current : service.Current) {events : List RateEvent}
    (appends : service.table.Appends events) : (service.along events).Current := by
  induction events generalizing service with
  | nil => exact current
  | cons event events ih =>
    cases event with
    | recorded row => exact ih (current.recorded appends.1) appends.2
    | asked height =>
      obtain ⟨later, table, -⟩ := current.asked height
      refine ih later ?_
      rw [next, table]
      exact appends

/--
The rates that a service keeps cannot be noticed.  Whatever it was asked before,
and whatever was recorded for blocks that had no record, it answers as a service
that has just been made on the table as it is now.  So a rate of an earlier block
is given only until a later one is recorded: an answer is always that of a record
of the table which no other one at or below the height is later than.
-/
theorem cache_unnoticed (new : service.final = []) (working : service.fault = none)
    {events : List RateEvent} (appends : service.table.Appends events) (height : Int) :
    let now := service.along events
    (now.rateAt height).result = (now.renewed.rateAt height).result ∧
      ∀ row ∈ now.table.rows, row.block ≤ height → RateTable.fits height →
        ∃ found, now.table.IsLatest height found ∧ row.block ≤ found.block ∧
          (now.rateAt height).result = (now.renewed.judge height (some found)).result := by
  intro now
  have current : now.Current :=
    Current.along ⟨working, by rw [new]; exact fun _ _ inside => nomatch inside⟩ appends
  refine ⟨current.rateAt height, fun row recorded below fits => ?_⟩
  rcases now.table.latest?_cases height with ⟨-, above⟩ | ⟨found, latest, isLatest⟩
  · exact absurd (above row recorded) (by omega)
  · refine ⟨found, isLatest, isLatest.greatest row recorded below, ?_⟩
    rw [current.rateAt height, rateAt_unkept now.renewed rfl rfl,
      RateTable.checkBlock, if_pos fits]
    simp only [renewed, latest]
    exact judge_result (by rfl) height _

/-! ### A rate of an earlier block, and a later one -/

/-- A service on a table with one rate, which may be five blocks old. -/
def onOneRate : RateService where
  table := ⟨[⟨100, .finite false 2000000000000 (-8)⟩]⟩
  maxGap := 5

/-- The rate is kept, and given for a later block; then that of a block in between is recorded. -/
def superseding : List RateEvent :=
  [.asked 100, .asked 105, .recorded ⟨103, .finite false 2100000000000 (-8)⟩]

theorem cache_unnoticed_superseding :
    (onOneRate.rateAt 105).result = .ok (.finite false 2000000000000 (-8)) ∧
      ((onOneRate.along superseding).final = [(100, .finite false 2000000000000 (-8))]) ∧
      ((onOneRate.along superseding).rateAt 105).result = .ok (.finite false 2100000000000 (-8)) ∧
      ((onOneRate.along superseding).rateAt 105).result =
        ((onOneRate.along superseding).renewed.rateAt 105).result ∧
      ∃ found, (onOneRate.along superseding).table.IsLatest 105 found ∧ 103 ≤ found.block ∧
        ((onOneRate.along superseding).rateAt 105).result =
          ((onOneRate.along superseding).renewed.judge 105 (some found)).result := by
  have new : onOneRate.final = [] := rfl
  have working : onOneRate.fault = none := rfl
  have appends : onOneRate.table.Appends superseding := ⟨by decide, trivial⟩
  obtain ⟨same, latest⟩ := cache_unnoticed new working appends 105
  refine ⟨by decide +kernel, by decide +kernel, by decide +kernel, same, ?_⟩
  exact latest ⟨103, .finite false 2100000000000 (-8)⟩ (by decide +kernel) (by decide) (by decide)

end RateService

end Paywatch
