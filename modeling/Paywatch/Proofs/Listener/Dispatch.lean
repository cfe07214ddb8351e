import Paywatch.Proofs.Listener.Course

/-!
# Exact dispatch

While no stop is requested, every notification that a listener is given is
handled, in order and once: the action of its channel is called if it is bound
and the time is finite, and otherwise nothing is called.  Neither the actions
that fail nor the connection's failures between two polls have a part in that.
-/

namespace Paywatch

namespace Call

def acted? (c : Call) : Option DueAction :=
  match c.request with
  | .act due => some due
  | _ => none

def polled (c : Call) : List Notification :=
  match c.request, c.outcome with
  | .poll _, .ok batch => batch
  | _, _ => []

def isFailed (c : Call) : Bool :=
  match c.outcome with
  | .ok _ => false
  | .error _ => true

end Call

/-! ## What the calls come to -/

def acted (calls : List Call) : List DueAction :=
  calls.filterMap Call.acted?

def polled (calls : List Call) : List Notification :=
  calls.flatMap Call.polled

def returned (calls : List Call) : Nat :=
  calls.countP fun c => c.acted?.isSome && !c.isFailed

def raised (calls : List Call) : Nat :=
  calls.countP fun c => c.acted?.isSome && c.isFailed

@[simp]
theorem acted_append (calls later : List Call) :
    acted (calls ++ later) = acted calls ++ acted later :=
  List.filterMap_append

@[simp]
theorem polled_append (calls later : List Call) :
    polled (calls ++ later) = polled calls ++ polled later :=
  List.flatMap_append

@[simp]
theorem raised_append (calls later : List Call) :
    raised (calls ++ later) = raised calls + raised later :=
  List.countP_append

namespace Listener

/-- The notifications of the last batch that are still to be handled, first the one in hand. -/
def unhandled (l : Listener) : List Notification :=
  match l.stage with
  | .acting due rest => due.notification :: rest
  | _ => []

/-! ## The accounts of a course -/

/-- The calls of actions and the counters are those of the notifications handled so far. -/
structure Accounted (l : Listener) (calls : List Call) (handled : List Notification)
    (m : Listener) : Prop where
  options : m.options = l.options
  acted : acted calls = handled.filterMap l.options.due?
  dispatched : m.dispatched = l.dispatched + returned calls
  failed : m.failed = l.failed + raised calls + handled.countP (l.options.Untimely ·)

/-- What was polled is handled or still to be handled, and the run goes on. -/
structure Exact (l : Listener) (calls : List Call) (handled : List Notification)
    (m : Listener) : Prop extends Accounted l calls handled m where
  parted : polled calls = handled ++ m.unhandled
  due : ∀ due rest, m.stage = .acting due rest → l.options.due? due.notification = some due
  staying : m.stage ≠ .leaving
  running : m.stage ≠ .ended

variable {l m m' : Listener} {calls : List Call} {handled batch : List Notification}

/-- Notifications that call for no action. -/
theorem Accounted.passing (accounted : Accounted l calls handled m) {passed : List Notification}
    (idle : ∀ n ∈ passed, m.options.due? n = none) :
    Accounted l calls (handled ++ passed) (m.passing passed) where
  options := accounted.options
  acted := by
    rw [accounted.options] at idle
    rw [accounted.acted, List.filterMap_append, List.filterMap_eq_nil_iff.mpr idle,
      List.append_nil]
  dispatched := accounted.dispatched
  failed := by
    rw [List.countP_append, Listener.passing, accounted.failed, accounted.options, Nat.add_assoc]

/-- The accounts do not depend on the stage. -/
theorem Accounted.of_stage (accounted : Accounted l calls handled m) (stage : Stage) :
    Accounted l calls handled { m with stage := stage } :=
  ⟨accounted.options, accounted.acted, accounted.dispatched, accounted.failed⟩

/-- A batch is handled up to the first action that is due. -/
theorem Accounted.dispatches (accounted : Accounted l calls handled m)
    (dispatches : m.Dispatches batch m') (unstopped : m'.stopRequested = false)
    (parted : polled calls = handled ++ batch) : ∃ handled', Exact l calls handled' m' := by
  cases dispatches with
  | left => cases unstopped
  | through running idle =>
    refine ⟨handled ++ batch, (accounted.passing idle).of_stage _, ?_, ?_, ?_, ?_⟩
    · simp [parted, unhandled]
    all_goals simp
  | due running passed due rest batch_eq idle called =>
    refine ⟨handled ++ passed, (accounted.passing idle).of_stage _, ?_, ?_, ?_, ?_⟩
    · simp [parted, batch_eq, unhandled]
    · rintro due' rest' acting
      cases acting
      rw [← accounted.options]
      exact called
    all_goals simp

/-- The accounts after a call that is not that of an action. -/
theorem Accounted.apart (accounted : Accounted l calls handled m) {c : Call}
    (unacted : c.acted? = none) : Accounted l (calls ++ [c]) handled m where
  options := accounted.options
  acted := by
    rw [acted_append, accounted.acted]
    simp [Paywatch.acted, unacted]
  dispatched := by simp [accounted.dispatched, returned, unacted]
  failed := by simp [accounted.failed, raised, unacted]

theorem unhandled_eq_nil (idle : ∀ due rest, m.stage ≠ .acting due rest) : m.unhandled = [] := by
  unfold unhandled
  split
  · exact absurd ‹_› (idle _ _)
  · rfl

/-- A call that is neither a poll nor that of an action. -/
theorem Exact.apart (exact : Exact l calls handled m) (idle : ∀ due rest, m.stage ≠ .acting due rest)
    {c : Call} (unacted : c.acted? = none) (unpolled : c.polled = []) {stage : Stage}
    (idle' : ∀ due rest, stage ≠ .acting due rest) (staying : stage ≠ .leaving)
    (running : stage ≠ .ended) {delay : Double} {reconnects : Nat} :
    Exact l (calls ++ [c]) handled
      { m with stage := stage, delay := delay, reconnects := reconnects } where
  toAccounted :=
    have accounted := exact.toAccounted.apart unacted
    ⟨accounted.options, accounted.acted, accounted.dispatched, accounted.failed⟩
  parted := by
    rw [unhandled_eq_nil idle', polled_append, exact.parted, unhandled_eq_nil idle]
    simp [polled, unpolled]
  due := fun due rest acting => absurd acting (idle' due rest)
  staying := staying
  running := running

/-- The accounts after the call of an action. -/
theorem Exact.counting (exact : Exact l calls handled m) {due : DueAction}
    {rest : List Notification} (acting : m.stage = .acting due rest)
    (outcome : Except Failure (List Notification)) :
    Accounted l (calls ++ [⟨.act due, outcome⟩]) (handled ++ [due.notification])
      (m.counting outcome) := by
  have called := exact.due due rest acting
  have timely : ¬ l.options.Untimely due.notification := fun untimely => by
    rw [ListenerOptions.due?_eq_none_of_untimely untimely] at called
    cases called
  have acted : acted (calls ++ [⟨.act due, outcome⟩]) =
      (handled ++ [due.notification]).filterMap l.options.due? := by
    rw [acted_append, exact.acted, List.filterMap_append]
    simp [Paywatch.acted, Call.acted?, called]
  cases outcome with
  | ok answer =>
    refine ⟨exact.options, acted, ?_, ?_⟩
    · simp [Listener.counting, exact.dispatched, returned, Call.acted?, Call.isFailed,
        Nat.add_assoc]
    · simp [Listener.counting, exact.failed, raised, Call.acted?, Call.isFailed, timely]
  | error failure =>
    refine ⟨exact.options, acted, ?_, ?_⟩
    · simp [Listener.counting, countFailure, exact.dispatched, returned, Call.acted?,
        Call.isFailed]
    · simp only [Listener.counting, countFailure, exact.failed, raised_append, List.countP_append]
      simp [raised, Call.acted?, Call.isFailed, timely]
      omega

/-- One call keeps the accounts. -/
theorem Exact.goes (exact : Exact l calls handled m) {c : Call} {broken : Option Failure}
    (goes : m.Goes c broken m') (unstopped : m'.stopRequested = false) :
    ∃ handled', Exact l (calls ++ [c]) handled' m' := by
  cases goes with
  | opened opening | unopened opening =>
    exact ⟨handled, exact.apart (by simp [opening]) rfl rfl (by simp) (by simp) (by simp)⟩
  | subscribed subscribing | unsubscribed subscribing =>
    exact ⟨handled, exact.apart (by simp [subscribing]) rfl rfl (by simp) (by simp) (by simp)⟩
  | polled polling batch dispatches =>
    refine (exact.toAccounted.apart rfl).dispatches dispatches unstopped ?_
    rw [polled_append, exact.parted, unhandled_eq_nil (by simp [polling]), List.append_nil]
    simp [polled, Call.polled]
  | lost polling =>
    exact ⟨handled, exact.apart (by simp [polling]) rfl rfl (by simp) (by simp) (by simp)⟩
  | @acted due rest acting outcome m' dispatches =>
    refine (exact.counting acting outcome).dispatches dispatches unstopped ?_
    rw [polled_append, exact.parted, unhandled, acting]
    simp [polled, Call.polled]
  | closed closing =>
    exact ⟨handled, exact.apart (by simp [closing]) rfl rfl (by simp) (by simp) (by simp)⟩
  | waited waiting =>
    exact ⟨handled, exact.apart (by simp [waiting]) rfl rfl (by simp) (by simp) (by simp)⟩
  | gaveUp => cases unstopped
  | left leaving => exact absurd leaving exact.staying

/-- A course without a stop keeps the accounts. -/
theorem Course.exact {broken : Option Failure} (opening : l.stage = .opening)
    (course : l.Course calls broken m) (unstopped : m.stopRequested = false) :
    ∃ handled, Exact l calls handled m := by
  induction course with
  | begun =>
    refine ⟨[], ⟨rfl, rfl, rfl, rfl⟩, ?_, ?_, ?_, ?_⟩
    · rw [unhandled_eq_nil (by simp [opening])]
      rfl
    all_goals simp [opening]
  | unentered => cases unstopped
  | stopped => cases unstopped
  | called before asked resumes ih =>
    have goes := resumes.goes asked
    obtain ⟨handled, exact⟩ := ih (goes.unstopped unstopped)
    exact exact.goes goes unstopped

/--
Dispatch is exact for as long as no stop is requested.  The actions that are called
are those that the notifications handled so far call for, in order and each once,
whatever comes of them; the listener counts those that return, those that fail,
and the notifications of a bound channel whose time is not finite.  What was polled
and is not handled yet is the rest of the last batch, and the action that its first
notification calls for is called next.  So two courses with the same notifications
call the same actions.
-/
theorem dispatched_exactly {l₀ : Listener} {record : LogRecord}
    (started : l₀.start = .ok (l, record)) {broken : Option Failure}
    (course : l.Course calls broken m) (unstopped : m.stopRequested = false) :
    (∃ handled, polled calls = handled ++ m.unhandled ∧
      acted calls = handled.filterMap l₀.options.due? ∧
      m.dispatched = l₀.dispatched + returned calls ∧
      m.failed = l₀.failed + raised calls + handled.countP (l₀.options.Untimely ·)) ∧
    (∀ n rest, m.unhandled = n :: rest →
      ∃ due, l₀.options.due? n = some due ∧ m.request? = some (.act due)) ∧
    m.isRunning ∧
    ∀ ⦃calls' : List Call⦄ ⦃broken' : Option Failure⦄ ⦃m' : Listener⦄,
      l.Course calls' broken' m' → m'.stopRequested = false →
      polled calls' = polled calls → m'.unhandled = m.unhandled → acted calls' = acted calls := by
  have opening : l.stage = .opening := by rw [start_eq started]
  have options : l.options = l₀.options := by rw [start_eq started]
  have dispatched : l.dispatched = l₀.dispatched := by rw [start_eq started]
  have failed : l.failed = l₀.failed := by rw [start_eq started]
  obtain ⟨handled, exact⟩ := course.exact opening unstopped
  refine ⟨⟨handled, exact.parted, ?_, ?_, ?_⟩, ?_, ?_, ?_⟩
  · rw [exact.acted, options]
  · rw [exact.dispatched, dispatched]
  · rw [exact.failed, failed, options]
  · intro n rest unhandled
    unfold Listener.unhandled at unhandled
    split at unhandled
    · next due batch acting =>
      cases unhandled
      exact ⟨due, options ▸ exact.due due _ acting, by rw [request?, acting]⟩
    · cases unhandled
  · exact decide_eq_true exact.running
  · intro calls' broken' m' course' unstopped' samePolled sameLeft
    obtain ⟨handled', exact'⟩ := course'.exact opening unstopped'
    have sameHandled : handled' = handled := by
      rw [exact'.parted, exact.parted, sameLeft] at samePolled
      exact List.append_cancel_right samePolled
    rw [exact'.acted, exact.acted, sameHandled]

/-! ### An outage between two batches -/

/-- The connection is lost behind a batch of which one action fails; then it is back. -/
def outage : List (Option (Except Failure (List Notification))) :=
  [some (.ok []), some (.ok []),
    some (.ok
      [{ channel := "address_insert", payload := some "a",
         receivedAt := Double.ofScientific true 15 (-1) },
        { channel := "address_delete", payload := some "b", receivedAt := Double.ofInt 7 },
        { channel := "address_update", payload := some "c", receivedAt := .nan }]),
    some (.error (.fault .value "refused")),
    some (.error (.fault .connection "server closed the connection")),
    some (.ok []), some (.ok []), some (.ok []), some (.ok []),
    some (.ok
      [{ channel := "address_update", payload := none,
         receivedAt := Double.ofScientific false 25 (-1) }]),
    some (.ok [])]

theorem dispatched_exactly_outage :
    let p := Progress.along { listener := startedForTwo } outage
    ((acted p.calls).map fun due => (due.notification.payload, due.seconds)) =
        [(some "a", -1), (none, 2)] ∧
      (p.listener.dispatched, p.listener.failed, p.listener.reconnects) = (1, 2, 1) ∧
      ∃ handled, polled p.calls = handled ++ p.listener.unhandled ∧
        acted p.calls = handled.filterMap forTwoChannels.options.due? ∧
        p.listener.dispatched = forTwoChannels.dispatched + returned p.calls ∧
        p.listener.failed = forTwoChannels.failed + raised p.calls +
          handled.countP (forTwoChannels.options.Untimely ·) :=
  ⟨by decide +kernel, by decide +kernel,
    (dispatched_exactly rfl (course_along startedForTwo outage) (by decide +kernel)).1⟩

end Listener

end Paywatch
