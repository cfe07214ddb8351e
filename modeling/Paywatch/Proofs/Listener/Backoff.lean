import Paywatch.Proofs.Double.Order
import Paywatch.Proofs.Listener.Course
import Paywatch.Proofs.Settings.Floating

/-!
# The delays of a listener

A listener that loses its connection waits before it tries again, twice as long
each time up to a greatest delay.  Settings without problems keep all delays
between the initial and the greatest one, if these two are numbers.  A delay that
is spelled out as not a number is no problem of the settings, since no comparison
holds of it, and then the delays are bounded by nothing.
-/

namespace Paywatch

namespace Listener

/-! ## The delay from call to call -/

/-- Going through a batch takes no time to wait. -/
theorem Dispatches.delay_eq {l l' : Listener} {batch : List Notification}
    (dispatches : l.Dispatches batch l') : l'.options = l.options ∧ l'.delay = l.delay := by
  cases dispatches with
  | left => exact ⟨rfl, rfl⟩
  | through => exact ⟨rfl, rfl⟩
  | due => exact ⟨rfl, rfl⟩

/-- Can the delay go from one listener to the other in one call? -/
structure Paces (m m' : Listener) : Prop where
  options : m'.options = m.options
  delay : m'.delay = m.delay ∨ m'.delay = m.options.initialDelay ∨ m'.delay = m.nextDelay

/-- A stop that is noticed leaves the delay. -/
theorem Paces.leave {m m' : Listener} (paces : m.Paces m') : m.Paces m'.leave :=
  ⟨paces.options, paces.delay⟩

/-- What one call does to the delay. -/
theorem Resumes.paces {m : Listener} {request : Request} (asked : m.request? = some request)
    {outcome : Except Failure (List Notification)} {resumed : Resumed}
    (resumes : m.Resumes outcome resumed) : m.Paces resumed.listener := by
  by_cases waiting : m.stage = .waiting
  · have goes : (m.resume outcome).listener = m.afterWait := by simp only [resume, waiting]
    have waits : m.afterWait.options = m.options ∧
        (m.afterWait.delay = m.delay ∨ m.afterWait.delay = m.nextDelay) := by
      unfold afterWait
      split
      · exact ⟨rfl, .inl rfl⟩
      · exact ⟨rfl, .inr rfl⟩
    have paces : m.Paces (m.resume outcome).listener :=
      goes ▸ ⟨waits.1, waits.2.elim .inl (.inr ∘ .inr)⟩
    cases resumes with
    | on => exact paces
    | waited => exact paces.leave
    | polled first rest polling => rw [waiting] at polling; cases polling
    | acted due first rest acting => rw [waiting] at acting; cases acting
  · have goes := resumes.goes asked
    generalize resumed.broken = broken at goes
    generalize resumed.listener = m' at goes ⊢
    cases goes with
    | subscribed => exact ⟨rfl, .inr (.inl rfl)⟩
    | polled polling batch dispatches =>
      exact ⟨dispatches.delay_eq.1, .inl dispatches.delay_eq.2⟩
    | acted acting outcome dispatches =>
      cases outcome <;> exact ⟨dispatches.delay_eq.1, .inl dispatches.delay_eq.2⟩
    | waited is => exact absurd is waiting
    | gaveUp is => exact absurd is waiting
    | _ => exact ⟨rfl, .inl rfl⟩

/-- The listener waits as long as its delay says. -/
theorem delay_of_wait {m : Listener} {d : Double} (asked : m.request? = some (.wait d)) :
    d = m.delay := by
  unfold request? at asked
  split at asked <;> cases asked
  rfl

/--
What holds of the initial delay and stays true when a delay grows holds of every
delay that the listener waits.
-/
theorem Course.delays {P : Double → Prop} {l m : Listener} {calls : List Call}
    {broken : Option Failure} (course : l.Course calls broken m)
    (initial : P l.options.initialDelay) (fresh : l.delay = l.options.initialDelay)
    (grows : ∀ d, P d → P (d.twice.atMost l.options.maxDelay)) :
    (m.options = l.options ∧ P m.delay) ∧
      ∀ d outcome, ⟨.wait d, outcome⟩ ∈ calls → P d := by
  induction course with
  | begun => exact ⟨⟨rfl, fresh ▸ initial⟩, fun _ _ inside => absurd inside List.not_mem_nil⟩
  | unentered => exact ⟨⟨rfl, fresh ▸ initial⟩, fun _ _ inside => absurd inside List.not_mem_nil⟩
  | @called calls broken m before request asked outcome resumed resumes ih =>
    obtain ⟨⟨options, holds⟩, waited⟩ := ih
    obtain ⟨kept, paced⟩ := resumes.paces asked
    refine ⟨⟨kept.trans options, ?_⟩, fun d outcome' inside => ?_⟩
    · rcases paced with same | first | next
      · rwa [same]
      · rw [first, options]
        exact initial
      · rw [next, nextDelay, options]
        exact grows _ holds
    · rcases List.mem_append.mp inside with earlier | here
      · exact waited d outcome' earlier
      · rw [List.mem_singleton] at here
        cases here
        rwa [delay_of_wait asked]
  | stopped before running ih => exact ⟨⟨ih.1.1, ih.1.2⟩, ih.2⟩

/-- The longest wait, in seconds: 64 bits for its nanoseconds are enough for almost 300 years. -/
def longestWait : Double :=
  .ofInt 9223372036

/-- All waits of a listener end that is told to wait for no longer than the longest wait. -/
theorem Course.waits_end {l m : Listener} {calls : List Call} {broken : Option Failure}
    (course : l.Course calls broken m) (fresh : l.delay = l.options.initialDelay)
    (initial : l.options.initialDelay.le longestWait)
    (greatest : l.options.maxDelay.le longestWait) :
    ∀ d outcome, ⟨.wait d, outcome⟩ ∈ calls → d.le longestWait := by
  refine (course.delays (P := fun d => d.le longestWait) initial fresh fun d below => ?_).2
  unfold Double.atMost
  split
  · exact greatest
  · rename_i within
    have number : d.twice.isNan = false := by
      rw [Double.isNan_twice]
      exact (Double.le_iff.mp below).1
    have least := Double.le_of_not_lt number (Double.le_iff.mp greatest).1
      (Bool.eq_false_iff.mpr within)
    exact Double.le_trans least greatest

/-- From an initial delay that is not a number no delay ever becomes one. -/
theorem Course.delays_nan {l m : Listener} {calls : List Call} {broken : Option Failure}
    (course : l.Course calls broken m) (initial : l.options.initialDelay = .nan)
    (fresh : l.delay = l.options.initialDelay) :
    ∀ d outcome, ⟨.wait d, outcome⟩ ∈ calls → d = .nan := by
  refine (course.delays (P := (· = .nan)) initial fresh ?_).2
  rintro d rfl
  have above : l.options.maxDelay.lt Double.nan.twice = false := by
    cases l.options.maxDelay <;> rfl
  rw [Double.atMost, above, if_neg Bool.false_ne_true]
  rfl

/-- A greatest delay that is not a number lets the delays double for ever. -/
theorem Course.delays_unbounded {l m : Listener} {calls : List Call} {broken : Option Failure}
    (course : l.Course calls broken m) (greatest : l.options.maxDelay = .nan)
    (fresh : l.delay = l.options.initialDelay) :
    ∀ d outcome, ⟨.wait d, outcome⟩ ∈ calls →
      ∃ doublings, d = Double.twice^[doublings] l.options.initialDelay := by
  refine (course.delays (P := fun d => ∃ doublings, d = Double.twice^[doublings] _)
    ⟨0, rfl⟩ fresh ?_).2
  rintro d ⟨doublings, rfl⟩
  refine ⟨doublings + 1, ?_⟩
  rw [Function.iterate_succ_apply', greatest]
  rfl

/-- A listener that cannot connect waits. -/
theorem exists_wait {l : Listener} (opening : l.stage = .opening) :
    ∃ calls broken m outcome, l.Course calls broken m ∧ ⟨.wait l.delay, outcome⟩ ∈ calls := by
  let failure := Failure.unreadableAddress
  have course := l.course_along [some (.error failure), some (.ok []), some (.ok [])]
  refine ⟨_, _, _, .ok [], course, ?_⟩
  obtain ⟨options, stage, stopRequested, delay, dispatched, failed, reconnects⟩ := l
  obtain rfl : stage = .opening := opening
  simp [Progress.along, Progress.next, request?, resume, lose]

end Listener

/-! ## The delays that settings allow -/

namespace Settings

variable {settings : Settings}

structure Bounds (settings : Settings) (d : Double) : Prop where
  positive : (Double.zero false).lt d
  initial : settings.initialDelay.le d
  greatest : d.le settings.maxDelay

/-- Bounds are numbers. -/
theorem Bounds.number {d : Double} (bounds : settings.Bounds d) :
    settings.initialDelay ≠ .nan ∧ settings.maxDelay ≠ .nan := by
  have initial := (Double.le_iff.mp bounds.initial).1
  have greatest := (Double.le_iff.mp bounds.greatest).2.1
  constructor
  · intro nan
    rw [nan] at initial
    cases initial
  · intro nan
    rw [nan] at greatest
    cases greatest

/-- Between numbers that make no problem the initial delay is a delay. -/
theorem bounds_initialDelay (sound : settings.problems = []) (initial : settings.initialDelay ≠ .nan)
    (greatest : settings.maxDelay ≠ .nan) : settings.Bounds settings.initialDelay := by
  have number {d : Double} (number : d ≠ .nan) : d.isNan = false := by
    cases d with
    | nan => exact absurd rfl number
    | infinite negative => rfl
    | finite negative mantissa exponent => rfl
  simp only [problems, problemIf, List.append_eq_nil_iff, ite_eq_right_iff, List.cons_ne_self,
    imp_false, Bool.not_eq_true] at sound
  exact {
    positive := Double.lt_of_not_le (number initial) rfl sound.1.2
    initial := Double.le_refl (number initial)
    greatest := Double.le_of_not_lt (number initial) (number greatest) sound.2 }

/-- A delay that grows stays within its bounds. -/
theorem Bounds.grows {d : Double} (bounds : settings.Bounds d) :
    settings.Bounds (d.twice.atMost settings.maxDelay) := by
  have doubled := Double.le_twice bounds.positive
  unfold Double.atMost
  cases above : settings.maxDelay.lt d.twice with
  | true =>
    rw [if_pos rfl]
    exact {
      positive := Double.lt_of_lt_of_le bounds.positive bounds.greatest
      initial := Double.le_trans bounds.initial bounds.greatest
      greatest := Double.le_refl (Double.le_iff.mp bounds.greatest).2.1 }
  | false =>
    rw [if_neg Bool.false_ne_true]
    exact {
      positive := Double.lt_of_lt_of_le bounds.positive doubled
      initial := Double.le_trans bounds.initial doubled
      greatest := Double.le_of_not_lt (Double.le_iff.mp doubled).2.1
        (Double.le_iff.mp bounds.greatest).2.1 above }

/-- The delays that an environment sets. -/
theorem delays_ofEnvironment {env : Environment} {reading : Reading Settings}
    (loaded : ofEnvironment env = .ok reading) :
    reading.value.initialDelay = (readFloating "LISTENER_RECONNECT_INITIAL_DELAY"
        (env "LISTENER_RECONNECT_INITIAL_DELAY") (.ofInt 1)).value ∧
      reading.value.maxDelay = (readFloating "LISTENER_RECONNECT_MAX_DELAY"
        (env "LISTENER_RECONNECT_MAX_DELAY") (.ofInt 30)).value := by
  unfold ofEnvironment at loaded
  cases checked : variableNames.forM fun name => checkVariable (env name) with
  | error failure => rw [checked] at loaded; cases loaded
  | ok =>
    rw [checked] at loaded
    dsimp only [bind, Except.bind] at loaded
    cases injected : withCredentials (env "DATABASE_URL") (env "DATASOURCE_USERNAME")
        (env "DATASOURCE_PASSWORD") with
    | error failure => rw [injected] at loaded; cases loaded
    | ok address =>
      rw [injected] at loaded
      obtain rfl := Except.ok.inj loaded
      exact ⟨rfl, rfl⟩

/-- Does an environment spell out one of the delays as not a number? -/
def SpellsDelay (env : Environment) : Prop :=
  ∃ name ∈ ["LISTENER_RECONNECT_INITIAL_DELAY", "LISTENER_RECONNECT_MAX_DELAY"],
    ∃ text ∈ env name, Text.SpellsNan text

instance (env : Environment) : Decidable (SpellsDelay env) :=
  inferInstanceAs (Decidable (∃ name ∈ _, ∃ text ∈ env name, Text.SpellsNan text))

theorem spellsDelay_iff {env : Environment} {reading : Reading Settings}
    (loaded : ofEnvironment env = .ok reading) :
    SpellsDelay env ↔
      reading.value.initialDelay = .nan ∨ reading.value.maxDelay = .nan := by
  obtain ⟨initial, greatest⟩ := delays_ofEnvironment loaded
  rw [initial, greatest, readFloating_eq_nan (by decide +kernel),
    readFloating_eq_nan (by decide +kernel)]
  simp [SpellsDelay]

/--
From settings without problems a listener waits between the initial and the
greatest delay, however often and however long its connection fails, exactly if
the environment spells out neither of the two as not a number.
-/
theorem bounds_waits_iff {env : Environment} {reading : Reading Settings}
    (loaded : ofEnvironment env = .ok reading) (sound : reading.value.problems = [])
    {name : String} {channels : List String} {l₀ l : Listener} {record : LogRecord}
    (options : l₀.options =
      Listener.optionsFrom reading.value name channels none none none)
    (started : l₀.start = .ok (l, record)) :
    (∀ calls broken m, l.Course calls broken m →
      ∀ d outcome, ⟨.wait d, outcome⟩ ∈ calls → reading.value.Bounds d) ↔
    ¬ SpellsDelay env := by
  have fresh := Listener.start_eq started
  have initial : l.options.initialDelay = reading.value.initialDelay := by
    rw [fresh, options]
    rfl
  have greatest : l.options.maxDelay = reading.value.maxDelay := by
    rw [fresh, options]
    rfl
  rw [spellsDelay_iff loaded, not_or]
  constructor
  · intro bounded
    obtain ⟨calls, broken, m, outcome, course, waited⟩ :=
      Listener.exists_wait (l := l) (by rw [fresh])
    exact (bounded calls broken m course _ outcome waited).number
  · rintro ⟨initialNumber, greatestNumber⟩ calls broken m course
    refine (course.delays ?_ (by rw [fresh]) ?_).2
    · rw [initial]
      exact bounds_initialDelay sound initialNumber greatestNumber
    · rw [greatest]
      exact fun d bounds => bounds.grows

def listenerFrom (settings : Settings) : Listener where
  options := Listener.optionsFrom settings "payin-address-listener" ["address_insert"] none none none
  delay := settings.initialDelay

theorem start_listenerFrom (settings : Settings) :
    ∃ l record, (listenerFrom settings).start = .ok (l, record) ∧ l.stage = .opening ∧
      l.delay = settings.initialDelay :=
  ⟨_, _, rfl, rfl, rfl⟩

theorem exists_reading {env : Environment}
    (sound : (ofEnvironment env).map (fun reading => reading.value.problems) = .ok []) :
    ∃ reading, ofEnvironment env = .ok reading ∧ reading.value.problems = [] := by
  cases loaded : ofEnvironment env with
  | error failure => rw [loaded] at sound; cases sound
  | ok reading =>
    rw [loaded] at sound
    exact ⟨reading, rfl, Except.ok.inj sound⟩

def patient : Environment := fun name =>
  [("DATABASE_URL", "postgresql://db.internal/modum"),
    ("LISTENER_RECONNECT_INITIAL_DELAY", " 0.5 "),
    ("LISTENER_RECONNECT_MAX_DELAY", "Infinity")].lookup name

/-- Half a second and no greatest delay are bounds. -/
theorem bounds_waits_iff_patient :
    ∃ reading l record, ofEnvironment patient = .ok reading ∧ reading.value.problems = [] ∧
      (listenerFrom reading.value).start = .ok (l, record) ∧
      ∀ calls broken m, l.Course calls broken m →
        ∀ d outcome, ⟨.wait d, outcome⟩ ∈ calls → reading.value.Bounds d := by
  have sounds : (ofEnvironment patient).map (fun reading => reading.value.problems) = .ok [] := by
    decide +kernel
  obtain ⟨reading, loaded, sound⟩ := exists_reading sounds
  obtain ⟨l, record, started, -⟩ := start_listenerFrom reading.value
  have numbers : ¬ SpellsDelay patient := by decide +kernel
  exact ⟨reading, l, record, loaded, sound, started,
    (bounds_waits_iff loaded sound rfl started).mpr numbers⟩

def undelayed : Environment := fun name =>
  [("DATABASE_URL", "postgresql://db.internal/modum"),
    ("LISTENER_RECONNECT_INITIAL_DELAY", "nan")].lookup name

/-- Settings without problems, and a listener that waits for no number of seconds. -/
theorem not_bounds_waits_undelayed :
    ¬ ∀ reading, ofEnvironment undelayed = .ok reading → reading.value.problems = [] →
      ∀ l record, (listenerFrom reading.value).start = .ok (l, record) →
        ∀ calls broken m, l.Course calls broken m →
          ∀ d outcome, ⟨.wait d, outcome⟩ ∈ calls → reading.value.Bounds d := by
  intro bounded
  have sounds : (ofEnvironment undelayed).map (fun reading => reading.value.problems) = .ok [] := by
    decide +kernel
  obtain ⟨reading, loaded, sound⟩ := exists_reading sounds
  obtain ⟨l, record, started, opening, -⟩ := start_listenerFrom reading.value
  obtain ⟨calls, broken, m, outcome, course, waited⟩ := Listener.exists_wait opening
  have bounds := bounded reading loaded sound l record started calls broken m course _ outcome waited
  have spelled : SpellsDelay undelayed := by decide +kernel
  rcases (spellsDelay_iff loaded).mp spelled with nan | nan
  · exact bounds.number.1 nan
  · exact bounds.number.2 nan

end Settings

end Paywatch
