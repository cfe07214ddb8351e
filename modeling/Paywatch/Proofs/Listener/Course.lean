import Mathlib.Data.Rat.Floor
import Mathlib.Tactic
import Paywatch.Listener.Step

/-!
# Courses of a listener

A course is what a listener does from its start to its end, or up to any point
in between: its calls to the outside, each with the way in which it turned out.
A stop may be requested at any time.  The listener notices it at the head of its
loop and before each notification of a batch, so that beside the time between two
calls there are the times at which it looks: the stop may come before it looks
for the first time, after it has waited, or when it has gone through a part of
the batch.

A wait always ends.  One of more than 9223372036 seconds, almost 300 years, or of
a time that is not a number would fail at once and take the listener down; no course
comes to one whose initial and greatest delays are numbers not above that
(`Course.waits_end`).
-/

namespace Paywatch

/-- A call to the outside, and how it turned out. -/
structure Call where
  request : Request
  outcome : Except Failure (List Notification)

namespace Double

/-! ## Whole seconds -/

/-- The number for which a finite double stands; the others stand for none. -/
def value? : Double → Option ℚ
  | .finite negative mantissa exponent => some (signed negative mantissa * 2 ^ exponent)
  | _ => none

def towardZero (q : ℚ) : Int :=
  if 0 ≤ q then ⌊q⌋ else ⌈q⌉

theorem towardZero_neg (q : ℚ) : towardZero (-q) = -towardZero q := by
  unfold towardZero
  rcases lt_trichotomy q 0 with below | rfl | above
  · rw [if_pos (by linarith), if_neg (by linarith), Int.floor_neg]
  · simp
  · rw [if_neg (by linarith), if_pos above.le, Int.ceil_neg]

/-- A mantissa times a power of two, as the quotient that `truncate` cuts off. -/
theorem mul_two_zpow (mantissa : Nat) (exponent : Int) :
    (mantissa : ℚ) * 2 ^ exponent =
      (mantissa * 2 ^ exponent.toNat : Nat) / (2 ^ (-exponent).toNat : Nat) := by
  obtain ⟨n, rfl | rfl⟩ := exponent.eq_nat_or_neg
  · simp
  · simp [div_eq_mul_inv]

theorem truncate_eq_towardZero (negative : Bool) (mantissa : Nat) (exponent : Int) :
    truncate negative mantissa exponent =
      towardZero (signed negative mantissa * 2 ^ exponent) := by
  have cut : towardZero ((mantissa : ℚ) * 2 ^ exponent) =
      (mantissa * 2 ^ exponent.toNat / 2 ^ (-exponent).toNat : Nat) := by
    rw [towardZero, if_pos (by positivity), mul_two_zpow, Rat.floor_natCast_div_natCast,
      Int.natCast_ediv]
  cases negative with
  | false => simpa [truncate, signed] using cut.symm
  | true =>
    simp only [truncate, signed, Nat.pow_eq, if_true, Int.cast_neg, Int.cast_natCast, neg_mul,
      towardZero_neg, cut]

end Double

/-- The whole seconds of a time are those of its number. -/
theorem wholeSeconds_cases (time : Double) :
    (∃ q, time.value? = some q ∧ wholeSeconds time = .ok (Double.towardZero q)) ∨
      ∃ failure, time.value? = none ∧ wholeSeconds time = .error failure := by
  cases time with
  | nan => exact .inr ⟨_, rfl, rfl⟩
  | infinite negative => exact .inr ⟨_, rfl, rfl⟩
  | finite negative mantissa exponent =>
    exact .inl ⟨_, rfl, congrArg _ (Double.truncate_eq_towardZero negative mantissa exponent)⟩

/-! ## What a batch calls for -/

namespace ListenerOptions

/-- Is a channel bound to an action? -/
def Binds (options : ListenerOptions) (n : Notification) : Prop :=
  n.channel ∈ options.channels

instance (options : ListenerOptions) (n : Notification) : Decidable (options.Binds n) :=
  inferInstanceAs (Decidable (n.channel ∈ options.channels))

/-- The action that a notification calls for: its channel is bound, and its time is finite. -/
def due? (options : ListenerOptions) (n : Notification) : Option DueAction :=
  if options.Binds n then
    n.receivedAt.value?.map fun time => ⟨n, Double.towardZero time⟩
  else none

/-- Is the channel of a notification bound, and its time not finite? -/
def Untimely (options : ListenerOptions) (n : Notification) : Prop :=
  options.Binds n ∧ n.receivedAt.value? = none

instance (options : ListenerOptions) (n : Notification) : Decidable (options.Untimely n) :=
  inferInstanceAs (Decidable (_ ∧ _))

theorem due?_eq_none_of_untimely {options : ListenerOptions} {n : Notification}
    (untimely : options.Untimely n) : options.due? n = none := by
  rw [due?, if_pos untimely.1, untimely.2, Option.map_none]

end ListenerOptions

namespace Listener

/-- The listener after notifications that called for no action. -/
def passing (l : Listener) (passed : List Notification) : Listener :=
  { l with failed := l.failed + passed.countP (l.options.Untimely ·) }

def leave (l : Listener) : Listener :=
  l.requestStop.toHead true

/--
What going through a batch comes to: the listener leaves on the way, it gets
through, or an action is due.
-/
inductive Dispatches (l : Listener) (batch : List Notification) : Listener → Prop
  | left (passed rest : List Notification) (parted : batch = passed ++ rest)
      (idle : ∀ n ∈ passed, l.options.due? n = none) :
      Dispatches l batch (l.passing passed).leave
  | through (running : l.stopRequested = false)
      (idle : ∀ n ∈ batch, l.options.due? n = none) :
      Dispatches l batch { l.passing batch with stage := .polling }
  | due (running : l.stopRequested = false) (passed : List Notification) (due : DueAction)
      (rest : List Notification) (parted : batch = passed ++ due.notification :: rest)
      (idle : ∀ n ∈ passed, l.options.due? n = none)
      (called : l.options.due? due.notification = some due) :
      Dispatches l batch { l.passing passed with stage := .acting due rest }

theorem passing_nil (l : Listener) : l.passing [] = l := rfl

theorem passing_cons (l : Listener) (n : Notification) (passed : List Notification) :
    l.passing (n :: passed) = (l.passing [n]).passing passed := by
  simp [passing, List.countP_cons, Nat.add_assoc, Nat.add_comm]

theorem Dispatches.cons {l l' : Listener} {n : Notification} {batch : List Notification}
    (idle : l.options.due? n = none) (later : (l.passing [n]).Dispatches batch l') :
    l.Dispatches (n :: batch) l' := by
  cases later with
  | left passed rest parted idles =>
    rw [← passing_cons]
    exact .left (n :: passed) rest (congrArg (n :: ·) parted) (List.forall_mem_cons.mpr ⟨idle, idles⟩)
  | through running idles =>
    rw [← passing_cons]
    exact .through running (List.forall_mem_cons.mpr ⟨idle, idles⟩)
  | due running passed due rest parted idles called =>
    rw [← passing_cons]
    exact .due (l := l) running (n :: passed) due rest (congrArg (n :: ·) parted)
      (List.forall_mem_cons.mpr ⟨idle, idles⟩) called

theorem Dispatches.stopped {l : Listener} (stop : l.stopRequested = true)
    (batch : List Notification) : l.Dispatches batch (l.toHead true) := by
  have same : l.toHead true = (l.passing []).leave := by
    rw [passing_nil, leave, requestStop, ← stop]
  rw [same]
  exact .left [] batch rfl (fun _ inside => absurd inside List.not_mem_nil)

theorem Dispatches.ended {l : Listener} (running : l.stopRequested = false) :
    l.Dispatches [] (l.toHead true) := by
  have same : l.toHead true = { l.passing [] with stage := .polling } := by
    simp [toHead, headStage, running, passing_nil]
  rw [same]
  exact .through running (fun _ inside => absurd inside List.not_mem_nil)

/-- What `dispatch` does with a batch. -/
theorem dispatches_dispatch (l : Listener) (batch : List Notification) :
    l.Dispatches batch (l.dispatch batch).listener ∧ (l.dispatch batch).broken = none := by
  induction batch generalizing l with
  | nil =>
    refine ⟨?_, rfl⟩
    rcases Bool.eq_false_or_eq_true l.stopRequested with stop | running
    · exact .stopped stop []
    · exact .ended running
  | cons n rest ih =>
    unfold dispatch
    rcases Bool.eq_false_or_eq_true l.stopRequested with stop | running
    · rw [if_pos stop]
      exact ⟨.stopped stop _, rfl⟩
    · rw [if_neg (by rw [running]; exact Bool.false_ne_true)]
      by_cases binds : l.options.Binds n
      · have bound : l.isBound n = true := List.contains_iff_mem.mpr binds
        simp only [bound, Bool.not_true, Bool.false_eq_true, if_false]
        rcases wholeSeconds_cases n.receivedAt with ⟨time, value, ok⟩ | ⟨failure, value, error⟩
        · simp only [ok, and_true]
          have called : l.options.due? n = some ⟨n, Double.towardZero time⟩ := by
            rw [ListenerOptions.due?, if_pos binds, value, Option.map_some]
          exact .due running [] ⟨n, _⟩ rest rfl (fun _ inside => absurd inside List.not_mem_nil) called
        · simp only [error]
          have untimely : l.options.Untimely n := ⟨binds, value⟩
          have counted : l.countFailure = l.passing [n] := by
            simp [passing, countFailure, untimely]
          rw [counted]
          exact ⟨.cons (ListenerOptions.due?_eq_none_of_untimely untimely) (ih _).1, (ih _).2⟩
      · have unbound : l.isBound n = false := by
          rw [isBound, List.contains_eq_mem, decide_eq_false_iff_not]
          exact binds
        simp only [unbound, Bool.not_false, if_true]
        have uncounted : l.passing [n] = l := by
          simp [passing, ListenerOptions.Untimely, binds]
        have idle : l.options.due? n = none := if_neg binds
        exact ⟨.cons idle (uncounted.symm ▸ (ih l).1), (ih l).2⟩

end Listener

/-! ## Courses -/

/-- What comes of a call if a stop is noticed right after it. -/
def Resumed.stopped (r : Resumed) : Resumed :=
  { r with listener := r.listener.leave }

namespace Listener

/--
How a listener goes on after a call.  It does what `resume` says, unless a stop is
requested before the next time that it looks: after it has waited, or when it has
gone through a part of a batch without an action that is due.
-/
inductive Resumes (m : Listener) : Except Failure (List Notification) → Resumed → Prop
  | on (outcome : Except Failure (List Notification)) : Resumes m outcome (m.resume outcome)
  | waited {outcome : Except Failure (List Notification)} (waiting : m.stage = .waiting) :
      Resumes m outcome (m.resume outcome).stopped
  | polled (first rest : List Notification) (polling : m.stage = .polling)
      (through : (m.resume (.ok first)).listener.stage = .polling) :
      Resumes m (.ok (first ++ rest)) (m.resume (.ok first)).stopped
  | acted {outcome : Except Failure (List Notification)} (due : DueAction)
      (first rest : List Notification)
      (acting : m.stage = .acting due (first ++ rest))
      (through : ({ m with stage := .acting due first }.resume outcome).listener.stage =
        .polling) :
      Resumes m outcome ({ m with stage := .acting due first }.resume outcome).stopped

/--
A course from a listener that has just started: the calls so far, how the run
broke, if it did, and the listener now.  `unentered` is a stop that comes before
the listener looks for the first time.
-/
inductive Course (l : Listener) : List Call → Option Failure → Listener → Prop
  | begun : Course l [] none l
  | unentered : Course l [] none l.leave
  | called {calls : List Call} {broken : Option Failure} {m : Listener}
      (before : Course l calls broken m) {request : Request}
      (asked : m.request? = some request) {outcome : Except Failure (List Notification)}
      {resumed : Resumed} (resumes : m.Resumes outcome resumed) :
      Course l (calls ++ [⟨request, outcome⟩]) resumed.broken resumed.listener
  | stopped {calls : List Call} {broken : Option Failure} {m : Listener}
      (before : Course l calls broken m) (running : m.isRunning) :
      Course l calls broken m.requestStop

theorem start_eq {l₀ l : Listener} {record : LogRecord} (started : l₀.start = .ok (l, record)) :
    l = { l₀ with
      stage := .opening, stopRequested := false, delay := l₀.options.initialDelay } := by
  unfold start at started
  split at started
  · cases started
  · cases started
    rfl

/-! ### Every plan has a course -/

/-- How far a course has come. -/
structure Progress where
  calls : List Call := []
  broken : Option Failure := none
  listener : Listener

namespace Progress

/-- The next call turns out in some way, or a stop is requested. -/
def next (p : Progress) : Option (Except Failure (List Notification)) → Progress
  | none => if p.listener.isRunning then { p with listener := p.listener.requestStop } else p
  | some outcome =>
    match p.listener.request? with
    | none => p
    | some request =>
      let resumed := p.listener.resume outcome
      ⟨p.calls ++ [⟨request, outcome⟩], resumed.broken, resumed.listener⟩

def along (p : Progress) (plan : List (Option (Except Failure (List Notification)))) : Progress :=
  plan.foldl next p

end Progress

theorem Course.next {l : Listener} {p : Progress} (course : l.Course p.calls p.broken p.listener)
    (outcome? : Option (Except Failure (List Notification))) :
    l.Course (p.next outcome?).calls (p.next outcome?).broken (p.next outcome?).listener := by
  cases outcome? with
  | none =>
    by_cases running : p.listener.isRunning
    · simpa only [Progress.next, if_pos running] using course.stopped running
    · simpa only [Progress.next, if_neg running] using course
  | some outcome =>
    cases asked : p.listener.request? with
    | none => simpa only [Progress.next, asked] using course
    | some request => simpa only [Progress.next, asked] using course.called asked (.on outcome)

theorem Course.along {l : Listener} {p : Progress} (course : l.Course p.calls p.broken p.listener)
    (plan : List (Option (Except Failure (List Notification)))) :
    l.Course (p.along plan).calls (p.along plan).broken (p.along plan).listener := by
  induction plan generalizing p with
  | nil => exact course
  | cons outcome? plan ih => exact ih (course.next outcome?)

/-- Whatever the calls come to, and whenever a stop is requested, there is a course. -/
theorem course_along (l : Listener) (plan : List (Option (Except Failure (List Notification)))) :
    let p := Progress.along { listener := l } plan
    l.Course p.calls p.broken p.listener :=
  Course.along (p := { listener := l }) .begun plan

def forTwoChannels : Listener where
  options :=
    { name := "address-registration-listener"
      channels := ["address_insert", "address_update"]
      pollTimeout := Double.ofInt 1
      initialDelay := Double.ofInt 1
      maxDelay := Double.ofInt 30 }
  delay := Double.ofInt 1

def startedForTwo : Listener :=
  { forTwoChannels with stage := .opening }

/-! ### What a call leads to -/

theorem Dispatches.of_stage {l l' : Listener} {batch : List Notification} {stage : Stage}
    (dispatches : { l with stage := stage }.Dispatches batch l') : l.Dispatches batch l' := by
  cases dispatches with
  | left passed rest parted idle => exact .left (l := l) passed rest parted idle
  | through running idle => exact .through (l := l) running idle
  | due running passed due rest parted idle called =>
    exact .due (l := l) running passed due rest parted idle called

/-- A stop after a part of the batch. -/
theorem Dispatches.leave {l l' : Listener} {first : List Notification}
    (dispatches : l.Dispatches first l') (through : l'.stage = .polling)
    (rest : List Notification) : l.Dispatches (first ++ rest) l'.leave := by
  cases dispatches with
  | left => cases through
  | due => cases through
  | through running idle => exact .left (l := l) first rest rfl idle

theorem Dispatches.unstopped {l l' : Listener} {batch : List Notification}
    (dispatches : l.Dispatches batch l') (unstopped : l'.stopRequested = false) :
    l.stopRequested = false := by
  cases dispatches with
  | left => cases unstopped
  | through running => exact running
  | due running => exact running

/-- The listener when an action has returned or failed. -/
def counting (l : Listener) : Except Failure (List Notification) → Listener
  | .ok _ => { l with dispatched := l.dispatched + 1 }
  | .error _ => l.countFailure

theorem dispatches_resume_acting (m : Listener) (due : DueAction) (rest : List Notification)
    (outcome : Except Failure (List Notification)) :
    (m.counting outcome).Dispatches rest
        ({ m with stage := .acting due rest }.resume outcome).listener ∧
      ({ m with stage := .acting due rest }.resume outcome).broken = none := by
  cases outcome with
  | ok answer =>
    obtain ⟨dispatches, whole⟩ := dispatches_dispatch
      { m with stage := .acting due rest, dispatched := m.dispatched + 1 } rest
    exact ⟨dispatches.of_stage (l := m.counting (.ok answer)), whole⟩
  | error failure =>
    obtain ⟨dispatches, whole⟩ := dispatches_dispatch
      { m with stage := .acting due rest, failed := m.failed + 1 } rest
    exact ⟨dispatches.of_stage (l := m.counting (.error failure)), whole⟩

namespace Resumes

variable {m : Listener} {outcome : Except Failure (List Notification)} {resumed : Resumed}

/-- A listener that was polling goes through the batch. -/
theorem polling {batch : List Notification} (resumes : m.Resumes (.ok batch) resumed)
    (polling : m.stage = .polling) :
    m.Dispatches batch resumed.listener ∧ resumed.broken = none := by
  have goes (batch : List Notification) : m.resume (.ok batch) = m.dispatch batch := by
    simp only [resume, polling]
  cases resumes with
  | on => rw [goes]; exact dispatches_dispatch m batch
  | waited waiting => rw [polling] at waiting; cases waiting
  | acted due first rest acting => rw [polling] at acting; cases acting
  | polled first rest _ through =>
    rw [goes] at through ⊢
    obtain ⟨dispatches, whole⟩ := dispatches_dispatch m first
    exact ⟨dispatches.leave through rest, whole⟩

/-- After an action the listener goes through the rest of the batch. -/
theorem acting {due : DueAction} {rest : List Notification} (resumes : m.Resumes outcome resumed)
    (acting : m.stage = .acting due rest) :
    (m.counting outcome).Dispatches rest resumed.listener ∧ resumed.broken = none := by
  cases resumes with
  | on =>
    have same : { m with stage := .acting due rest } = m := by rw [← acting]
    exact same ▸ dispatches_resume_acting m due rest outcome
  | waited waiting => rw [acting] at waiting; cases waiting
  | polled first rest polling => rw [acting] at polling; cases polling
  | acted due' first rest' acting' through =>
    rw [acting] at acting'
    cases acting'
    obtain ⟨dispatches, whole⟩ := dispatches_resume_acting m due first outcome
    exact ⟨dispatches.leave through rest', whole⟩

/-- A listener that was polling loses its connection. -/
theorem lost {failure : Failure} (resumes : m.Resumes (.error failure) resumed)
    (polling : m.stage = .polling) : resumed = m.lose failure := by
  cases resumes with
  | on => simp only [resume, polling]
  | waited waiting => rw [polling] at waiting; cases waiting
  | acted due first rest acting => rw [polling] at acting; cases acting

/-- After waiting the listener opens the connection again, or leaves. -/
theorem waiting (resumes : m.Resumes outcome resumed) (waiting : m.stage = .waiting) :
    resumed.broken = none ∧ ∃ delay,
      (m.stopRequested = false ∧
        resumed.listener = { m with delay := delay, stage := .opening }) ∨
      resumed.listener = { m with delay := delay, stopRequested := true, stage := .leaving } := by
  have goes : m.resume outcome = { listener := m.afterWait } := by simp only [resume, waiting]
  cases resumes with
  | on =>
    rw [goes]
    refine ⟨rfl, ?_⟩
    rcases Bool.eq_false_or_eq_true m.stopRequested with stop | running
    · refine ⟨m.delay, .inr ?_⟩
      simp [afterWait, stop]
    · refine ⟨m.nextDelay, .inl ⟨running, ?_⟩⟩
      simp [afterWait, running]
  | waited =>
    rw [goes]
    refine ⟨rfl, m.afterWait.delay, .inr ?_⟩
    unfold afterWait
    split <;> rfl
  | polled first rest polling => rw [waiting] at polling; cases polling
  | acted due first rest acting => rw [waiting] at acting; cases acting

/-- Elsewhere a stop is not looked for. -/
theorem elsewhere (resumes : m.Resumes outcome resumed) (polling : m.stage ≠ .polling)
    (waiting : m.stage ≠ .waiting) (acting : ∀ due rest, m.stage ≠ .acting due rest) :
    resumed = m.resume outcome := by
  cases resumes with
  | on => rfl
  | waited is => exact absurd is waiting
  | polled first rest is => exact absurd is polling
  | acted due first rest is => exact absurd is (acting _ _)

end Resumes

/-! ### All that a call can lead to -/

def failure? : Except Failure (List Notification) → Option Failure
  | .ok _ => none
  | .error failure => some failure

/-- The listener when its connection has failed. -/
def losing (l : Listener) : Listener :=
  { l with stage := .closing, reconnects := l.reconnects + 1 }

/-- All that one call can lead to: what the call was, how the run broke, and the listener after it. -/
inductive Goes (m : Listener) : Call → Option Failure → Listener → Prop
  | opened (opening : m.stage = .opening) (answer : List Notification) :
      Goes m ⟨.openConnection, .ok answer⟩ none { m with stage := .subscribing }
  | unopened (opening : m.stage = .opening) (failure : Failure) :
      Goes m ⟨.openConnection, .error failure⟩ none m.losing
  | subscribed (subscribing : m.stage = .subscribing) (answer : List Notification) :
      Goes m ⟨.subscribe m.options.channels, .ok answer⟩ none
        { m with stage := .polling, delay := m.options.initialDelay }
  | unsubscribed (subscribing : m.stage = .subscribing) (failure : Failure) :
      Goes m ⟨.subscribe m.options.channels, .error failure⟩ none m.losing
  | polled (polling : m.stage = .polling) (batch : List Notification) {m' : Listener}
      (dispatches : m.Dispatches batch m') :
      Goes m ⟨.poll m.options.pollTimeout, .ok batch⟩ none m'
  | lost (polling : m.stage = .polling) (failure : Failure) :
      Goes m ⟨.poll m.options.pollTimeout, .error failure⟩ none m.losing
  | acted {due : DueAction} {rest : List Notification} (acting : m.stage = .acting due rest)
      (outcome : Except Failure (List Notification)) {m' : Listener}
      (dispatches : (m.counting outcome).Dispatches rest m') :
      Goes m ⟨.act due, outcome⟩ none m'
  | closed (closing : m.stage = .closing) (outcome : Except Failure (List Notification)) :
      Goes m ⟨.close, outcome⟩ none { m with stage := .waiting }
  | waited (waiting : m.stage = .waiting) (unstopped : m.stopRequested = false)
      (outcome : Except Failure (List Notification)) (delay : Double) :
      Goes m ⟨.wait m.delay, outcome⟩ none { m with delay := delay, stage := .opening }
  | gaveUp (waiting : m.stage = .waiting) (outcome : Except Failure (List Notification))
      (delay : Double) :
      Goes m ⟨.wait m.delay, outcome⟩ none
        { m with delay := delay, stopRequested := true, stage := .leaving }
  | left (leaving : m.stage = .leaving) (outcome : Except Failure (List Notification)) :
      Goes m ⟨.close, outcome⟩ (failure? outcome) { m with stage := .ended }

/-- A stop that is requested stays so. -/
theorem Goes.unstopped {m m' : Listener} {c : Call} {broken : Option Failure}
    (goes : m.Goes c broken m') (unstopped : m'.stopRequested = false) :
    m.stopRequested = false := by
  cases goes with
  | polled polling batch dispatches => exact dispatches.unstopped unstopped
  | acted acting outcome dispatches =>
    cases outcome <;> exact dispatches.unstopped unstopped
  | gaveUp => cases unstopped
  | _ => exact unstopped

theorem Resumes.goes {m : Listener} {request : Request} (asked : m.request? = some request)
    {outcome : Except Failure (List Notification)} {resumed : Resumed}
    (resumes : m.Resumes outcome resumed) :
    m.Goes ⟨request, outcome⟩ resumed.broken resumed.listener := by
  cases stage : m.stage with
  | ended => simp [request?, stage] at asked
  | opening =>
    obtain rfl : .openConnection = request := by simpa [request?, stage] using asked
    rw [resumes.elsewhere (by simp [stage]) (by simp [stage]) (by simp [stage])]
    cases outcome with
    | ok answer => simpa only [resume, stage] using .opened stage answer
    | error failure => simpa only [resume, stage] using .unopened stage failure
  | subscribing =>
    obtain rfl : .subscribe m.options.channels = request := by simpa [request?, stage] using asked
    rw [resumes.elsewhere (by simp [stage]) (by simp [stage]) (by simp [stage])]
    cases outcome with
    | ok answer => simpa only [resume, stage] using .subscribed stage answer
    | error failure => simpa only [resume, stage] using .unsubscribed stage failure
  | polling =>
    obtain rfl : .poll m.options.pollTimeout = request := by simpa [request?, stage] using asked
    cases outcome with
    | ok batch =>
      obtain ⟨dispatches, whole⟩ := resumes.polling stage
      rw [whole]
      exact .polled stage batch dispatches
    | error failure =>
      rw [resumes.lost stage]
      exact .lost stage failure
  | acting due rest =>
    obtain rfl : .act due = request := by simpa [request?, stage] using asked
    obtain ⟨dispatches, whole⟩ := resumes.acting stage
    rw [whole]
    exact .acted stage outcome dispatches
  | closing =>
    obtain rfl : .close = request := by simpa [request?, stage] using asked
    rw [resumes.elsewhere (by simp [stage]) (by simp [stage]) (by simp [stage])]
    cases outcome <;> simpa only [resume, stage] using .closed stage _
  | waiting =>
    obtain rfl : .wait m.delay = request := by simpa [request?, stage] using asked
    obtain ⟨whole, delay, ⟨unstopped, eq⟩ | eq⟩ := resumes.waiting stage
    · rw [whole, eq]
      exact .waited stage unstopped outcome delay
    · rw [whole, eq]
      exact .gaveUp stage outcome delay
  | leaving =>
    obtain rfl : .close = request := by simpa [request?, stage] using asked
    rw [resumes.elsewhere (by simp [stage]) (by simp [stage]) (by simp [stage])]
    cases outcome with
    | ok answer => simpa only [resume, stage] using .left stage (.ok answer)
    | error failure => simpa only [resume, stage] using .left stage (.error failure)

end Listener

end Paywatch
