import Paywatch.Proofs.Rates.Selection

/-!
# What lookups leave behind

Between lookups the table may change in any way, and the database may begin or
cease to fail.  Each session that is given is closed in the same lookup.  A
failure of the database is worded anew and any other one is passed on, and a
lookup that fails keeps nothing.  What is kept is above zero, and is given for
good.
-/

namespace Paywatch

/-- A lookup, or what happens between two of them. -/
inductive RateIncident where
  | asked (height : Int)
  | changed (table : RateTable)
  | disturbed (fault : Option QueryFault)
  deriving DecidableEq, Repr

namespace RateService

variable {service : RateService} {height : Int} {rate : Decimal}

def undergo (service : RateService) : RateIncident → RateService
  | .asked height => (service.rateAt height).service
  | .changed table => { service with table := table }
  | .disturbed fault => { service with fault := fault }

def throughout (service : RateService) (incidents : List RateIncident) : RateService :=
  incidents.foldl undergo service

/-! ## Sessions -/

def refusesSessions (service : RateService) : Bool :=
  match service.fault with
  | some ⟨.opening, _⟩ => true
  | _ => false

/-- How many sessions an incident is given: those it asks for, unless they fail to open. -/
def sessionsGiven (service : RateService) (incident : RateIncident) : Nat :=
  if service.refusesSessions then 0 else (service.undergo incident).opened - service.opened

def allSessionsGiven (service : RateService) : List RateIncident → Nat
  | [] => 0
  | incident :: later =>
    service.sessionsGiven incident + (service.undergo incident).allSessionsGiven later

/-- What a query changes: a session is opened, and closed if it is given. -/
structure Queried (service after : RateService) : Prop where
  others : after = { service with opened := after.opened, closed := after.closed }
  opened : after.opened = service.opened + 1
  closed : after.closed = service.closed + if service.refusesSessions then 0 else 1

theorem queried_query (service : RateService) (height : Int) :
    service.Queried (service.query height).2 := by
  obtain ⟨table, maxGap, final, opened, closed, fault⟩ := service
  unfold query
  cases fault with
  | none => cases RateTable.checkBlock height <;> exact ⟨rfl, rfl, rfl⟩
  | some fault =>
    obtain ⟨stage, failure⟩ := fault
    cases stage <;> exact ⟨rfl, rfl, rfl⟩

theorem Queried.final {after : RateService} (queried : service.Queried after) :
    after.final = service.final := by
  rw [queried.others]

/-- All that a lookup can lead to. -/
inductive Looks (service : RateService) (height : Int) : Lookup → Prop
  | kept {rate : Decimal} (found : service.final.lookup height = some rate) :
      Looks service height ⟨.ok rate, [], service⟩
  | failed (unkept : service.final.lookup height = none) {failure : Failure}
      (answer : (service.query height).1 = .error failure) {after : RateService}
      (queried : service.Queried after) :
      Looks service height ⟨.error (wrapFault height failure), [], after⟩
  | judged (unkept : service.final.lookup height = none) {row? : Option RateRow}
      (answer : (service.query height).1 = .ok row?) {after : RateService}
      (queried : service.Queried after) :
      Looks service height (after.judge height row?)

theorem looks_rateAt (service : RateService) (height : Int) :
    service.Looks height (service.rateAt height) := by
  have queried := service.queried_query height
  unfold rateAt
  cases found : service.final.lookup height with
  | some rate => exact .kept found
  | none =>
    rcases answers : service.query height with ⟨result, after⟩
    rw [answers] at queried
    have answer : (service.query height).1 = result := by rw [answers]
    cases result with
    | error failure => exact .failed found answer queried
    | ok row? => exact .judged found answer queried

/-- A lookup closes the sessions that it is given. -/
theorem closed_rateAt (service : RateService) (height : Int) :
    (service.rateAt height).service.closed =
      service.closed + service.sessionsGiven (.asked height) := by
  have looks := service.looks_rateAt height
  rw [sessionsGiven, undergo]
  generalize service.rateAt height = lookup at looks ⊢
  cases looks with
  | kept => simp
  | failed unkept answer queried =>
    rw [queried.closed, queried.opened, Nat.add_sub_cancel_left]
  | judged unkept answer queried =>
    rw [judge_service]
    dsimp only
    rw [queried.closed, queried.opened, Nat.add_sub_cancel_left]

theorem closed_undergo (service : RateService) (incident : RateIncident) :
    (service.undergo incident).closed = service.closed + service.sessionsGiven incident := by
  cases incident with
  | asked height => exact service.closed_rateAt height
  | changed | disturbed => simp [undergo, sessionsGiven]

theorem closed_throughout (service : RateService) (incidents : List RateIncident) :
    (service.throughout incidents).closed =
      service.closed + service.allSessionsGiven incidents := by
  induction incidents generalizing service with
  | nil => rfl
  | cons incident later ih =>
    rw [throughout, List.foldl_cons, ← throughout, ih, closed_undergo, allSessionsGiven,
      Nat.add_assoc]

/-! ## What is kept -/

/-- A lookup that fails keeps nothing. -/
theorem final_of_failed {failure : Failure} (failed : (service.rateAt height).result = .error failure) :
    (service.rateAt height).service.final = service.final := by
  have looks := service.looks_rateAt height
  generalize service.rateAt height = lookup at looks failed ⊢
  cases looks with
  | kept => rfl
  | failed unkept answer queried => exact queried.final
  | @judged unkept row? answer after queried =>
    rcases after.judge_final height row? with same | ⟨row, -, -, given, -⟩
    · rw [same, queried.final]
    · rw [given] at failed
      cases failed

/-- A lookup keeps what is kept, and may keep one more rate, which is above zero. -/
theorem final_rateAt (service : RateService) (height : Int) :
    (service.rateAt height).service.final = service.final ∨
      ∃ rate, 0 < rate.level ∧
        (service.rateAt height).service.final = service.final ++ [(height, rate)] := by
  have looks := service.looks_rateAt height
  generalize service.rateAt height = lookup at looks ⊢
  cases looks with
  | kept => exact .inl rfl
  | failed unkept answer queried => exact .inl queried.final
  | @judged unkept row? answer after queried =>
    rcases after.judge_final height row? with same | ⟨row, rfl, exact, given, more⟩
    · exact .inl (same.trans queried.final)
    · obtain ⟨-, -, -, above, -⟩ := judge_eq_ok_iff.mp given
      exact .inr ⟨_, above, by rw [more, queried.final]⟩

/-- Whatever happens, what is kept stays so, and at most one more rate is kept. -/
theorem final_undergo (service : RateService) (incident : RateIncident) :
    (service.undergo incident).final = service.final ∨
      ∃ height rate, 0 < rate.level ∧
        (service.undergo incident).final = service.final ++ [(height, rate)] := by
  cases incident with
  | changed | disturbed => exact .inl rfl
  | asked height => exact (service.final_rateAt height).imp_right fun more => ⟨height, more⟩

/-- A rate that is kept stays so. -/
theorem lookup_throughout (kept : service.final.lookup height = some rate)
    (incidents : List RateIncident) :
    (service.throughout incidents).final.lookup height = some rate := by
  induction incidents generalizing service with
  | nil => exact kept
  | cons incident later ih =>
    refine ih ?_
    rcases service.final_undergo incident with same | ⟨_, _, -, more⟩
    · rw [same, kept]
    · rw [more, List.lookup_append, kept, Option.some_or]

/-- A rate that is kept is given, and nothing else happens. -/
theorem rateAt_kept (kept : service.final.lookup height = some rate) :
    service.rateAt height = ⟨.ok rate, [], service⟩ := by
  rw [rateAt, kept]

/-- A rate that was recorded at the very block is kept when it is given. -/
theorem kept_of_exact {row : RateRow} (unkept : service.final.lookup height = none)
    (answer : (service.query height).1 = .ok (some row)) (exact : row.block = height)
    (given : (service.rateAt height).result = .ok rate) :
    (service.rateAt height).service.final.lookup height = some rate := by
  have looks := service.looks_rateAt height
  generalize service.rateAt height = lookup at looks given ⊢
  cases looks with
  | kept found =>
    rw [unkept] at found
    cases found
  | failed => cases given
  | @judged _ row? answer' after queried =>
    rw [answer] at answer'
    cases answer'
    obtain ⟨_, found, rfl, above, young⟩ := judge_eq_ok_iff.mp given
    cases found
    have positive := Decimal.isPositive_eq_true_iff.mpr above
    rw [judge]
    simp only [positive, if_neg (not_lt.mpr young), if_pos exact]
    rw [List.lookup_append, queried.final, unkept]
    simp

/-- Is every rate that is kept above zero? -/
def KeepsPositive (service : RateService) : Prop :=
  ∀ height rate, (height, rate) ∈ service.final → 0 < rate.level

theorem KeepsPositive.throughout (keeps : service.KeepsPositive) (incidents : List RateIncident) :
    (service.throughout incidents).KeepsPositive := by
  induction incidents generalizing service with
  | nil => exact keeps
  | cons incident later ih =>
    refine ih fun height rate inside => ?_
    rcases service.final_undergo incident with same | ⟨_, _, above, more⟩
    · rw [same] at inside
      exact keeps height rate inside
    · rw [more] at inside
      rcases List.mem_append.mp inside with before | here
      · exact keeps height rate before
      · cases List.mem_singleton.mp here
        exact above

/-- A rate that is given is above zero. -/
theorem KeepsPositive.given (keeps : service.KeepsPositive)
    (given : (service.rateAt height).result = .ok rate) : 0 < rate.level := by
  have looks := service.looks_rateAt height
  generalize service.rateAt height = lookup at looks given
  cases looks with
  | kept found =>
    cases given
    obtain ⟨_, _, split, -⟩ := List.lookup_eq_some_iff.mp found
    exact keeps height rate (by rw [split]; simp)
  | failed => cases given
  | judged =>
    obtain ⟨-, -, -, above, -⟩ := judge_eq_ok_iff.mp given
    exact above

/-! ## Failures -/

/-- A lookup whose query fails words a failure of the database anew, and passes any other one on. -/
theorem result_of_failed {failure : Failure} (unkept : service.final.lookup height = none)
    (failed : (service.query height).1 = .error failure) :
    (failure.isStorageFault = true → ∃ surfaced, (service.rateAt height).result = .error surfaced ∧
      surfaced.isRateFailure = true ∧ ∀ other, surfaced ≠ .noRate other) ∧
    (failure.isStorageFault = false → (service.rateAt height).result = .error failure) := by
  have result : (service.rateAt height).result = .error (wrapFault height failure) := by
    rw [rateAt, unkept, ← Prod.mk.eta (p := service.query height), failed]
  rw [result, wrapFault]
  constructor
  · intro storage
    rw [if_pos storage]
    refine ⟨_, rfl, rfl, fun other same => ?_⟩
    cases same
  · intro other
    rw [if_neg (by rw [other]; exact Bool.false_ne_true)]

/--
Whatever happened to a service since it was made, and whatever the table and the
database have come to, a lookup closes every session that was given so far.  It
words a failure of the database anew, as one that is not the lack of a rate, and
passes any other failure of its query on.  If it fails, it keeps nothing; if it gives
a rate, that is above zero.  And if the rate was recorded at the very block, every
later lookup gives it again and does nothing else.
-/
theorem sessions_closed_exact_final (new : service.final = []) (unopened : service.closed = 0)
    (incidents : List RateIncident) (height : Int) :
    let now := service.throughout incidents
    let lookup := now.rateAt height
    lookup.service.closed = service.allSessionsGiven (incidents ++ [.asked height]) ∧
    (∀ failure, now.final.lookup height = none → (now.query height).1 = .error failure →
      (failure.isStorageFault = true → ∃ surfaced, lookup.result = .error surfaced ∧
        surfaced.isRateFailure = true ∧ ∀ other, surfaced ≠ .noRate other) ∧
      (failure.isStorageFault = false → lookup.result = .error failure)) ∧
    (∀ failure, lookup.result = .error failure → lookup.service.final = now.final) ∧
    (∀ rate, lookup.result = .ok rate → 0 < rate.level) ∧
    ∀ row rate, now.final.lookup height = none → (now.query height).1 = .ok (some row) →
      row.block = height → lookup.result = .ok rate →
      ∀ later, (lookup.service.throughout later).rateAt height =
        ⟨.ok rate, [], lookup.service.throughout later⟩ := by
  intro now lookup
  have keeps : now.KeepsPositive := by
    refine KeepsPositive.throughout (fun height rate inside => ?_) incidents
    rw [new] at inside
    cases inside
  have closed := service.closed_throughout (incidents ++ [.asked height])
  rw [throughout, List.foldl_append, unopened, Nat.zero_add] at closed
  exact ⟨closed, fun _ unkept failed => result_of_failed unkept failed,
    fun _ failed => final_of_failed failed, fun _ given => keeps.given given,
    fun _ _ unkept answer exact given later =>
      rateAt_kept (lookup_throughout (kept_of_exact unkept answer exact given) later)⟩

/-! ### Failures before an answer, and everything lost behind it -/

/-- The database cannot be reached, then its query fails; rates are given, too old and not there. -/
def troubles : List RateIncident :=
  [.disturbed (some ⟨.opening, .fault .storage "no route"⟩), .asked 100,
    .disturbed (some ⟨.querying, .fault .value "unreadable"⟩), .asked 100,
    .disturbed none, .asked 105, .asked 106, .asked 99]

/-- The records are deleted, and the database cannot be reached. -/
def losses : List RateIncident :=
  [.changed {}, .disturbed (some ⟨.opening, .fault .storage "no route"⟩), .asked 105, .asked 100]

theorem sessions_closed_exact_final_lost :
    let now := onOneRate.throughout troubles
    (now.opened, now.closed, now.final) = (5, 4, []) ∧
      (now.rateAt 100).service.closed = onOneRate.allSessionsGiven (troubles ++ [.asked 100]) ∧
      (now.rateAt 100).result = .ok (.finite false 2000000000000 (-8)) ∧
      ((now.rateAt 100).service.throughout losses).rateAt 100 =
        ⟨.ok (.finite false 2000000000000 (-8)), [], (now.rateAt 100).service.throughout losses⟩ := by
  intro now
  have given : (now.rateAt 100).result = .ok (.finite false 2000000000000 (-8)) := by
    decide +kernel
  have answer : (now.query 100).1 = .ok (some ⟨100, .finite false 2000000000000 (-8)⟩) := by
    decide +kernel
  obtain ⟨closed, -, -, -, exact⟩ := @sessions_closed_exact_final onOneRate rfl rfl troubles 100
  exact ⟨by decide +kernel, closed, given, exact _ _ (by decide +kernel) answer rfl given losses⟩

end RateService

end Paywatch
