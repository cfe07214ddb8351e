import Paywatch.Proofs.Double.Range
import Paywatch.Proofs.Listener.Backoff
import Paywatch.Proofs.Listener.Dispatch
import Paywatch.Proofs.Listener.Stop

/-!
# The schedule of the waits

Each failure of the connection is followed by one wait.  The first wait after the
listener was last connected, or since its start, takes the initial delay, and each
further one twice as long as the one before, up to the greatest delay.  The counter
of reconnections counts these waits over all runs.
-/

namespace Paywatch

/-- The delay after so many doublings, up to the greatest one. -/
def scheduled (initial greatest : ℚ) (doublings : Nat) : ℚ :=
  min (initial * 2 ^ doublings) greatest

theorem scheduled_zero {initial greatest : ℚ} (ordered : initial ≤ greatest) :
    scheduled initial greatest 0 = initial := by
  rw [scheduled, pow_zero, mul_one, min_eq_left ordered]

/-- Once more doubled, and cut off once more. -/
theorem scheduled_succ {initial greatest : ℚ} (nonneg : 0 ≤ greatest) (doublings : Nat) :
    scheduled initial greatest (doublings + 1) =
      min (2 * scheduled initial greatest doublings) greatest := by
  rw [scheduled, scheduled, mul_min_of_nonneg _ _ (by norm_num), min_assoc,
    min_eq_right (by linarith : greatest ≤ 2 * greatest)]
  congr 1
  ring

theorem scheduled_pos {initial greatest : ℚ} (positive : 0 < initial) (ordered : initial ≤ greatest)
    (doublings : Nat) : 0 < scheduled initial greatest doublings :=
  lt_min (by positivity) (positive.trans_le ordered)

namespace Double

/-- Doubling up to a greatest number is exact: what overflows is above that number too. -/
theorem value?_twice_atMost {d m : Double} {q g : ℚ} (delay : d.value? = some q) (positive : 0 < q)
    (greatest : m.value? = some g) (fits : m.Fits) :
    (d.twice.atMost m).value? = some (min (2 * q) g) := by
  cases d with
  | nan | infinite => cases delay
  | finite s k e =>
    cases m with
    | nan | infinite => cases greatest
    | finite t n f =>
      obtain rfl : ratio s k e = q := Option.some.inj delay
      obtain rfl : ratio t n f = g := Option.some.inj greatest
      obtain rfl := unsigned_of_pos positive
      rcases twice_finite false k e with ⟨k', e', doubled, twofold⟩ | beyond
      · rw [doubled, atMost, ← twofold]
        have compared : (finite t n f).lt (finite false k' e') = true ↔
            ratio t n f < ratio false k' e' := scaledLt_iff ..
        split
        · next above => rw [min_eq_right (compared.mp above).le]; rfl
        · next above => rw [min_eq_left (not_lt.mp (mt compared.mpr above))]; rfl
      · have great := limit_le_of_twice beyond
        rw [beyond, atMost, lt, Bool.not_false, if_pos rfl,
          min_eq_right (fits.lt_limit.le.trans great)]
        rfl

end Double

/-! ## Failures and waits -/

namespace Call

def fails (c : Call) : Bool :=
  c.request.connects && c.isFailed

def isConnected (c : Call) : Bool :=
  match c.request, c.outcome with
  | .subscribe _, .ok _ => true
  | _, _ => false

def waits (c : Call) : Bool :=
  match c.request with
  | .wait _ => true
  | _ => false

end Call

/-- The failures since the connection was last open and subscribed, or since the start. -/
def failuresSince (calls : List Call) : Nat :=
  (calls.reverse.takeWhile fun c => !c.isConnected).countP Call.fails

theorem failuresSince_concat (calls : List Call) (c : Call) :
    failuresSince (calls ++ [c]) =
      if c.isConnected then 0 else failuresSince calls + if c.fails then 1 else 0 := by
  unfold failuresSince
  rw [List.reverse_append, List.reverse_singleton, List.singleton_append, List.takeWhile_cons]
  cases c.isConnected with
  | true => rfl
  | false => exact List.countP_cons

/-- Has the connection failed, and is the wait that follows not over yet? -/
def Stage.backingOff : Stage → Nat
  | .closing | .waiting => 1
  | _ => 0

/-- What the last calls were: a connection that failed is closed, and then there is a wait. -/
def Stage.Follows : Stage → List Call → Prop
  | .closing, calls => ∃ earlier failing, failing.fails ∧ calls = earlier ++ [failing]
  | .waiting, calls => ∃ earlier failing outcome, failing.fails ∧
      calls = earlier ++ [failing, ⟨.close, outcome⟩]
  | _, _ => True

theorem Stage.follows_of_idle {stage : Stage} (idle : stage.backingOff = 0) (calls : List Call) :
    stage.Follows calls := by
  cases stage with
  | closing | waiting => cases idle
  | _ => trivial

/-- The delays are finite doubles, above zero and in order. -/
structure ListenerOptions.HasDelays (options : ListenerOptions) (initial greatest : ℚ) : Prop where
  initialDelay : options.initialDelay.value? = some initial
  maxDelay : options.maxDelay.value? = some greatest
  positive : 0 < initial
  ordered : initial ≤ greatest
  fits : options.maxDelay.Fits

namespace Listener

variable {l m m' : Listener} {calls : List Call} {initial greatest : ℚ}

/-! ## One call -/

/-- Going through a batch neither counts a reconnection nor begins a wait. -/
theorem Dispatches.unpaced {batch : List Notification} (dispatches : m.Dispatches batch m') :
    m'.reconnects = m.reconnects ∧ m'.stage.backingOff = 0 := by
  cases dispatches with
  | left => exact ⟨rfl, rfl⟩
  | through => exact ⟨rfl, rfl⟩
  | due => exact ⟨rfl, rfl⟩

/-- A listener that opens the connection after a wait has made its delay longer. -/
theorem Resumes.delay_of_opening {outcome : Except Failure (List Notification)} {resumed : Resumed}
    (resumes : m.Resumes outcome resumed) (waiting : m.stage = .waiting)
    (opening : resumed.listener.stage = .opening) : resumed.listener.delay = m.nextDelay := by
  cases resumes with
  | on =>
    simp only [resume, waiting, afterWait] at opening ⊢
    split
    · next stop => rw [if_pos stop] at opening; cases opening
    · rfl
  | waited => cases opening
  | polled first rest polling => rw [waiting] at polling; cases polling
  | acted due first rest acting => rw [waiting] at acting; cases acting

/-- A wait comes after some calls: the connection failed and was closed, and the failures set the delay. -/
structure OnSchedule (initial greatest : ℚ) (before : List Call) (d : Double) : Prop where
  follows : Stage.waiting.Follows before
  failed : 1 ≤ failuresSince before
  delay : d.value? = some (scheduled initial greatest (failuresSince before - 1))

/-- The pace of a run: the failures and waits so far, the next delay, and the waits made before. -/
structure Paced (l : Listener) (initial greatest : ℚ) (calls : List Call) (m : Listener) :
    Prop where
  options : m.options = l.options
  failures : calls.countP Call.fails = calls.countP Call.waits + m.stage.backingOff
  reconnects : m.reconnects = l.reconnects + calls.countP Call.fails
  follows : m.stage.Follows calls
  failing : m.stage.backingOff ≤ failuresSince calls
  delay : m.stage ≠ .leaving → m.stage ≠ .ended →
    m.delay.value? = some (scheduled initial greatest (failuresSince calls - m.stage.backingOff))
  waited : ∀ before d outcome, before ++ [⟨.wait d, outcome⟩] <+: calls →
    OnSchedule initial greatest before d

/-- A wait that is made now is on schedule. -/
theorem Paced.onSchedule (paced : Paced l initial greatest calls m) (waiting : m.stage = .waiting) :
    OnSchedule initial greatest calls m.delay where
  follows := waiting ▸ paced.follows
  failed := by
    have failing := paced.failing
    rwa [waiting] at failing
  delay := by
    have delay := paced.delay (by simp [waiting]) (by simp [waiting])
    rwa [waiting] at delay

/-- One more call keeps the pace, if its failure or its wait is accounted for. -/
theorem Paced.extend (paced : Paced l initial greatest calls m) {c : Call}
    (options : m'.options = m.options)
    (reconnects : m'.reconnects = m.reconnects + if c.fails then 1 else 0)
    (backing : m.stage.backingOff + (if c.fails then 1 else 0) =
      m'.stage.backingOff + if c.waits then 1 else 0)
    (follows : m'.stage.Follows (calls ++ [c]))
    (failing : m'.stage.backingOff ≤ failuresSince (calls ++ [c]))
    (delay : m'.stage ≠ .leaving → m'.stage ≠ .ended → m'.delay.value? =
      some (scheduled initial greatest (failuresSince (calls ++ [c]) - m'.stage.backingOff)))
    (waited : ∀ d, c.request = .wait d → OnSchedule initial greatest calls d) :
    Paced l initial greatest (calls ++ [c]) m' where
  options := options.trans paced.options
  failures := by
    have failures := paced.failures
    rw [List.countP_append, List.countP_append, List.countP_singleton, List.countP_singleton]
    omega
  reconnects := by
    rw [reconnects, paced.reconnects, List.countP_append, List.countP_singleton, Nat.add_assoc]
  follows := follows
  failing := failing
  delay := delay
  waited := by
    intro before d outcome made
    rcases List.prefix_concat_iff.mp made with whole | earlier
    · obtain ⟨rfl, last⟩ := List.append_inj' whole rfl
      exact waited d (by rw [← List.singleton_inj.mp last])
    · exact paced.waited before d outcome earlier

/-- A call that is neither a failure nor a wait, and leaves the delay. -/
theorem Paced.apart (paced : Paced l initial greatest calls m) {c : Call}
    (unfailing : c.fails = false) (unwaiting : c.waits = false) (unconnected : c.isConnected = false)
    (options : m'.options = m.options) (reconnects : m'.reconnects = m.reconnects)
    (backing : m'.stage.backingOff = m.stage.backingOff)
    (follows : m'.stage.Follows (calls ++ [c]))
    (staying : m.stage ≠ .leaving) (running : m.stage ≠ .ended)
    (delay : m'.delay = m.delay) : Paced l initial greatest (calls ++ [c]) m' := by
  have since : failuresSince (calls ++ [c]) = failuresSince calls := by
    simp [failuresSince_concat, unfailing, unconnected]
  refine paced.extend options ?_ ?_ follows ?_ ?_ ?_
  · simp [reconnects, unfailing]
  · simp [backing, unfailing, unwaiting]
  · rw [backing, since]
    exact paced.failing
  · intro _ _
    rw [delay, backing, since]
    exact paced.delay staying running
  · intro d waits
    simp [Call.waits, waits] at unwaiting

/-- A failure of the connection. -/
theorem Paced.lose (paced : Paced l initial greatest calls m) {c : Call} (fails : c.fails = true)
    (unwaiting : c.waits = false) (unconnected : c.isConnected = false)
    (backing : m.stage.backingOff = 0) (staying : m.stage ≠ .leaving) (running : m.stage ≠ .ended) :
    Paced l initial greatest (calls ++ [c]) m.losing := by
  have since : failuresSince (calls ++ [c]) = failuresSince calls + 1 := by
    simp [failuresSince_concat, fails, unconnected]
  refine paced.extend rfl ?_ ?_ ⟨calls, c, fails, rfl⟩ ?_ ?_ ?_
  · simp [losing, fails]
  · rw [backing, fails, unwaiting]
    rfl
  · rw [since]
    exact Nat.le_add_left _ _
  · intro _ _
    have delay := paced.delay staying running
    rw [backing, Nat.sub_zero] at delay
    rw [since]
    exact delay
  · intro d waits
    simp [Call.waits, waits] at unwaiting

/-- A wait that is over, however it ends. -/
theorem Paced.wait (paced : Paced l initial greatest calls m) (waiting : m.stage = .waiting)
    {outcome : Except Failure (List Notification)} (options : m'.options = m.options)
    (reconnects : m'.reconnects = m.reconnects) (backing : m'.stage.backingOff = 0)
    (delay : m'.stage ≠ .leaving →
      m'.delay.value? = some (scheduled initial greatest (failuresSince calls))) :
    Paced l initial greatest (calls ++ [⟨.wait m.delay, outcome⟩]) m' := by
  have since : failuresSince (calls ++ [⟨.wait m.delay, outcome⟩]) = failuresSince calls :=
    failuresSince_concat ..
  refine paced.extend options reconnects ?_ (Stage.follows_of_idle backing _) ?_ ?_ ?_
  · rw [waiting, backing]
    rfl
  · rw [backing]
    exact Nat.zero_le _
  · intro staying _
    rw [since, backing, Nat.sub_zero]
    exact delay staying
  · intro d same
    exact Request.wait.inj same ▸ paced.onSchedule waiting

/-- One call keeps the pace. -/
theorem Paced.goes (delays : l.options.HasDelays initial greatest)
    (paced : Paced l initial greatest calls m) {c : Call} {broken : Option Failure}
    (goes : m.Goes c broken m')
    (next : m.stage = .waiting → m'.stage = .opening → m'.delay = m.nextDelay) :
    Paced l initial greatest (calls ++ [c]) m' := by
  cases goes with
  | opened opening answer =>
    exact paced.apart rfl rfl rfl rfl rfl (by rw [opening]; rfl) trivial (by simp [opening])
      (by simp [opening]) rfl
  | unopened opening failure =>
    exact paced.lose rfl rfl rfl (by rw [opening]; rfl) (by simp [opening]) (by simp [opening])
  | subscribed subscribing answer =>
    have since : failuresSince (calls ++ [⟨.subscribe m.options.channels, .ok answer⟩]) = 0 := by
      rw [failuresSince_concat]
      rfl
    refine paced.extend rfl rfl (by rw [subscribing]; rfl) trivial (Nat.zero_le _) (fun _ _ => ?_)
      fun _ waits => nomatch waits
    rw [since, Nat.zero_sub, scheduled_zero delays.ordered, paced.options]
    exact delays.initialDelay
  | unsubscribed subscribing failure =>
    exact paced.lose rfl rfl rfl (by rw [subscribing]; rfl) (by simp [subscribing])
      (by simp [subscribing])
  | polled polling batch dispatches =>
    obtain ⟨options, delay⟩ := dispatches.delay_eq
    obtain ⟨reconnects, backing⟩ := dispatches.unpaced
    exact paced.apart rfl rfl rfl options reconnects (by rw [backing, polling]; rfl)
      (Stage.follows_of_idle backing _) (by simp [polling]) (by simp [polling]) delay
  | lost polling failure =>
    exact paced.lose rfl rfl rfl (by rw [polling]; rfl) (by simp [polling]) (by simp [polling])
  | acted acting outcome dispatches =>
    obtain ⟨options, delay⟩ := dispatches.delay_eq
    obtain ⟨reconnects, backing⟩ := dispatches.unpaced
    have same : (m.counting outcome).options = m.options ∧
        (m.counting outcome).delay = m.delay ∧
        (m.counting outcome).reconnects = m.reconnects := by
      cases outcome <;> exact ⟨rfl, rfl, rfl⟩
    exact paced.apart rfl rfl rfl (options.trans same.1) (reconnects.trans same.2.2)
      (by rw [backing, acting]; rfl) (Stage.follows_of_idle backing _) (by simp [acting])
      (by simp [acting]) (delay.trans same.2.1)
  | closed closing outcome =>
    have follows : Stage.waiting.Follows (calls ++ [⟨.close, outcome⟩]) := by
      obtain ⟨earlier, failing, fails, rfl⟩ := (closing ▸ paced.follows : Stage.closing.Follows calls)
      exact ⟨earlier, failing, outcome, fails, List.append_assoc ..⟩
    exact paced.apart rfl rfl rfl rfl rfl (by rw [closing]; rfl) follows (by simp [closing])
      (by simp [closing]) rfl
  | waited waiting unstopped outcome delay =>
    obtain rfl := next waiting rfl
    have failed := (paced.onSchedule waiting).failed
    have greatest' : m.options.maxDelay.value? = some greatest := paced.options ▸ delays.maxDelay
    have fits : m.options.maxDelay.Fits := paced.options ▸ delays.fits
    have doubled := Double.value?_twice_atMost (paced.onSchedule waiting).delay
      (scheduled_pos delays.positive delays.ordered _) greatest' fits
    refine paced.wait waiting rfl rfl rfl fun _ => ?_
    rw [← Nat.sub_add_cancel failed, scheduled_succ (delays.positive.le.trans delays.ordered)]
    exact doubled
  | gaveUp waiting outcome delay =>
    exact paced.wait waiting rfl rfl rfl fun staying => absurd rfl staying
  | left leaving outcome =>
    exact paced.extend rfl rfl (by rw [leaving]; rfl) trivial (Nat.zero_le _)
      (fun _ running => absurd rfl running) fun _ waits => nomatch waits

/-! ## A run -/

/-- A run keeps the pace from its start on. -/
theorem Course.paced (delays : l.options.HasDelays initial greatest) (opening : l.stage = .opening)
    (fresh : l.delay = l.options.initialDelay) {broken : Option Failure}
    (course : l.Course calls broken m) : Paced l initial greatest calls m := by
  have unwaited : ∀ before d outcome, before ++ [⟨.wait d, outcome⟩] <+: [] →
      OnSchedule initial greatest before d := by
    intro before d outcome made
    simp at made
  induction course with
  | begun =>
    refine ⟨rfl, by rw [opening]; rfl, rfl, by rw [opening]; trivial,
      by rw [opening]; exact Nat.zero_le _, ?_, unwaited⟩
    intro _ _
    rw [opening, fresh, delays.initialDelay]
    exact congrArg some (scheduled_zero delays.ordered).symm
  | unentered =>
    exact ⟨rfl, rfl, rfl, trivial, Nat.zero_le _, fun staying => absurd rfl staying, unwaited⟩
  | @called calls broken m before request asked outcome resumed resumes ih =>
    have goes := resumes.goes asked
    have next := fun waiting opening => resumes.delay_of_opening (m := m) waiting opening
    exact ih.goes delays goes next
  | stopped before running ih => exact { ih with }

/-! ## All runs -/

/-- What a listener has called run by run, the last of which may not have ended, and the listener now. -/
inductive Runs (options : ListenerOptions) : List (List Call) → Listener → Prop
  | made {l : Listener} (created : create options = .ok l) : Runs options [] l
  | ran {runs : List (List Call)} {l₀ l m : Listener} {record : LogRecord} {calls : List Call}
      {broken : Option Failure} (before : Runs options runs l₀)
      (started : l₀.start = .ok (l, record)) (course : l.Course calls broken m) :
      Runs options (runs ++ [calls]) m

/-- A connection that failed is closed before its wait begins. -/
def waitsDue (m : Listener) : Nat :=
  if m.stage = .closing then 1 else 0

def waitsBegun (runs : List (List Call)) (m : Listener) : Nat :=
  (runs.map fun calls => calls.countP Call.waits).sum + if m.stage = .waiting then 1 else 0

theorem waitsBegun_concat (runs : List (List Call)) (calls : List Call) :
    waitsBegun (runs ++ [calls]) m =
      (runs.map fun calls => calls.countP Call.waits).sum + waitsBegun [calls] m := by
  simp [waitsBegun, Nat.add_assoc]

theorem countP_add_backingOff :
    calls.countP Call.waits + m.stage.backingOff = waitsBegun [calls] m + m.waitsDue := by
  unfold waitsBegun waitsDue
  cases m.stage <;> simp [Stage.backingOff]

/-- A listener that is created has waited for nothing. -/
theorem create_eq {options : ListenerOptions} {l : Listener} (created : create options = .ok l) :
    l = { options := options, delay := options.initialDelay } := by
  unfold create at created
  split at created
  · cases created
  · exact (Except.ok.inj created).symm

/-- Only a listener that has ended starts. -/
theorem ended_of_start {l₀ l : Listener} {record : LogRecord} (started : l₀.start = .ok (l, record)) :
    l₀.stage = .ended := by
  unfold start isRunning at started
  split at started
  · cases started
  · next ended => simpa using ended

/-- A run that is started keeps the pace. -/
theorem paced_of_start {l₀ l m : Listener} {record : LogRecord} {broken : Option Failure}
    (delays : l₀.options.HasDelays initial greatest) (started : l₀.start = .ok (l, record))
    (course : l.Course calls broken m) : Paced l initial greatest calls m := by
  rw [start_eq started] at course ⊢
  exact course.paced delays rfl rfl

/-- A listener that asks for a wait has closed the connection that failed. -/
theorem stage_of_wait {d : Double} (asked : m.request? = some (.wait d)) : m.stage = .waiting := by
  unfold request? at asked
  split at asked <;> cases asked
  assumption

section Runs

variable {options : ListenerOptions} {runs : List (List Call)}

/-- The options are those the listener is made with, and each wait that has begun is counted. -/
theorem Runs.counts (delays : options.HasDelays initial greatest) (history : Runs options runs m) :
    m.options = options ∧ m.reconnects = waitsBegun runs m + m.waitsDue := by
  induction history with
  | made created => rw [create_eq created]; exact ⟨rfl, rfl⟩
  | @ran runs l₀ l m record calls broken before started course ih =>
    obtain ⟨same, counted⟩ := ih
    have paced := paced_of_start (same ▸ delays) started course
    have kept : l.options = l₀.options ∧ l.reconnects = l₀.reconnects := by
      rw [start_eq started]
      exact ⟨rfl, rfl⟩
    have earlier : l₀.reconnects = (runs.map fun calls => calls.countP Call.waits).sum := by
      rw [counted, waitsBegun, waitsDue, ended_of_start started]
      rfl
    refine ⟨(paced.options.trans kept.1).trans same, ?_⟩
    rw [paced.reconnects, kept.2, earlier, paced.failures, countP_add_backingOff,
      waitsBegun_concat, Nat.add_assoc]

/--
The waits of a run are on schedule, those that are over and the one under way: the wait
after so many failures without a connection takes the initial delay, doubled for each of
them but the first, up to the greatest delay.  There is one wait for each failure, and
the counter of reconnections has counted the waits of all runs; a wait begins when the
connection that failed has been closed.
-/
theorem waits_scheduled (delays : options.HasDelays initial greatest) {l₀ l : Listener}
    {record : LogRecord} {broken : Option Failure} (earlier : Runs options runs l₀)
    (started : l₀.start = .ok (l, record)) (course : l.Course calls broken m) :
    (∀ before d outcome, before ++ [⟨.wait d, outcome⟩] <+: calls →
      OnSchedule initial greatest before d) ∧
    (∀ d, m.request? = some (.wait d) → OnSchedule initial greatest calls d) ∧
    calls.countP Call.fails = waitsBegun [calls] m + m.waitsDue ∧
    m.reconnects = waitsBegun (runs ++ [calls]) m + m.waitsDue := by
  have same := (earlier.counts delays).1
  have paced := paced_of_start (same ▸ delays) started course
  refine ⟨paced.waited, ?_, paced.failures.trans countP_add_backingOff,
    ((earlier.ran started course).counts delays).2⟩
  intro d asked
  rw [delay_of_wait asked]
  exact paced.onSchedule (stage_of_wait asked)

end Runs

/-- One second at first and thirty at last are delays. -/
theorem hasDelays_forTwoChannels : forTwoChannels.options.HasDelays 1 30 := by
  have one : Double.ofInt 1 = .finite false (2 ^ 52) (-52) := by decide +kernel
  have thirty : Double.ofInt 30 = .finite false (15 * 2 ^ 49) (-48) := by decide +kernel
  constructor
  · rw [forTwoChannels, one]
    norm_num [Double.value?, Double.signed]
  · rw [forTwoChannels, thirty]
    norm_num [Double.value?, Double.signed]
  · norm_num
  · norm_num
  · exact Double.fits_ofInt 30

def refused : Except Failure (List Notification) :=
  .error (.fault .connection "refused")

/-- The listener fails to connect, and is stopped while it closes the connection. -/
def stoppedEarly : Progress :=
  Progress.along { listener := startedForTwo }
    [some refused, none, some (.ok []), some (.ok []), some (.ok [])]

/-- It is started again, connects at the seventh attempt, and loses the connection at once. -/
def startedAgain : Progress :=
  Progress.along
    { listener := { stoppedEarly.listener with stage := .opening, stopRequested := false } }
    ((List.replicate 6 [some refused, some (.ok []), some (.ok [])]).flatten ++
      [some (.ok []), some (.ok []), some refused, some (.ok [])])

/-- The sixth wait takes thirty seconds and the seventh, which is under way, one again. -/
theorem waits_scheduled_startedAgain :
    OnSchedule 1 30 (startedAgain.calls.take 17) (Double.ofInt 30) ∧
      OnSchedule 1 30 startedAgain.calls (Double.ofInt 1) ∧
      startedAgain.calls.countP Call.fails = 7 ∧ startedAgain.listener.reconnects = 8 := by
  have earlier : Runs forTwoChannels.options [stoppedEarly.calls] stoppedEarly.listener :=
    .ran (.made (l := forTwoChannels) rfl) rfl (course_along startedForTwo _)
  have course := course_along { stoppedEarly.listener with stage := .opening, stopRequested := false }
    ((List.replicate 6 [some refused, some (.ok []), some (.ok [])]).flatten ++
      [some (.ok []), some (.ok []), some refused, some (.ok [])])
  obtain ⟨waited, waiting, failures, reconnects⟩ :=
    waits_scheduled hasDelays_forTwoChannels earlier rfl course
  exact ⟨waited _ _ (.ok []) ⟨startedAgain.calls.drop 18, rfl⟩, waiting _ (by decide +kernel),
    failures.trans (by decide +kernel), reconnects.trans (by decide +kernel)⟩

end Listener

end Paywatch
