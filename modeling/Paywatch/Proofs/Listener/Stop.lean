import Paywatch.Proofs.Listener.Interleaving

/-!
# A stop is final

From the moment at which a stop is requested until the listener is started again,
no dispatch begins.  Only a notification for which the lock is held already goes
on to its action.  The thread finishes what it is at: it may connect and poll once,
or fail, close and wait, but it neither polls again nor opens the connection again
before the last call, which closes the connection and ends the thread.
-/

namespace Paywatch

/-- Is this a call that the connection depends on? -/
def Request.connects : Request → Bool
  | .openConnection | .subscribe _ | .poll _ => true
  | _ => false

def Request.opens : Request → Bool
  | .openConnection => true
  | _ => false

def Request.polls : Request → Bool
  | .poll _ => true
  | _ => false

namespace Listener

/-- A listener that is running asks for something. -/
theorem request?_isSome {l : Listener} (running : l.isRunning) : l.request?.isSome := by
  unfold isRunning at running
  unfold request?
  cases stage : l.stage with
  | ended => simp [stage] at running
  | _ => rfl

@[simp] theorem counting_stage (l : Listener) (outcome : Except Failure (List Notification)) :
    (l.counting outcome).stage = l.stage := by
  cases outcome <;> rfl

end Listener

namespace Moment

/-! ## What is in hand -/

/-- The notification for which the lock is held. -/
def hand? (m : Moment) : Option Notification :=
  match m.position, m.listener.stage with
  | .dispatching n _, _ => some n
  | .calling, .acting due _ => some due.notification
  | _, _ => none

/-- The action for which the lock is held: it is called, or will be. -/
def due? (m : Moment) : Option DueAction :=
  match m.position, m.listener.stage with
  | .dispatching n _, _ => m.listener.options.due? n
  | .calling, .acting due _ => some due
  | _, _ => none

def handledCount (m : Moment) : Nat :=
  m.listener.dispatched + m.listener.failed + m.hand?.toList.length

/-! ## What is left to do -/

/-- The calls still to be made once a stop is requested, if none of them fails. -/
def agenda (m : Moment) : List Request :=
  let options := m.listener.options
  match m.position with
  | .looking _ | .handling _ => [.close]
  | .dispatching n _ => ((options.due? n).map Request.act).toList ++ [.close]
  | .calling =>
    match m.listener.stage with
    | .ended => []
    | .opening =>
      [.openConnection, .subscribe options.channels, .poll options.pollTimeout, .close]
    | .subscribing => [.subscribe options.channels, .poll options.pollTimeout, .close]
    | .polling => [.poll options.pollTimeout, .close]
    | .acting due _ => [.act due, .close]
    | .closing => [.close, .wait m.listener.delay, .close]
    | .waiting => [.wait m.listener.delay, .close]
    | .leaving => [.close]

/-- How many steps and calls the thread takes at most before it ends. -/
def rank (m : Moment) : Nat :=
  match m.position with
  | .looking _ => 2
  | .handling _ => 3
  | .dispatching _ _ => 5
  | .calling =>
    match m.listener.stage with
    | .ended => 0
    | .leaving => 1
    | .waiting => 2
    | .closing => 3
    | .polling | .acting _ _ => 4
    | .subscribing => 5
    | .opening => 6

end Moment

/--
An agenda is followed: its calls are made in turn, up to the first that fails of
those that the connection depends on.  Then the connection is closed, there is a
wait, and it is closed again.
-/
inductive Follows (agenda : List Request) : List Call → List Request → Prop
  | through {done : List Call} {left : List Request}
      (whole : done.map Call.request ++ left = agenda)
      (well : ∀ c ∈ done, c.request.connects → c.isFailed = false) : Follows agenda done left
  | backingOff {first later : List Call} {failing : Call} {rest left : List Request}
      {delay : Double} (parted : agenda = first.map Call.request ++ failing.request :: rest)
      (well : ∀ c ∈ first, c.request.connects → c.isFailed = false)
      (connects : failing.request.connects) (failed : failing.isFailed)
      (backedOff : later.map Call.request ++ left = [.close, .wait delay, .close]) :
      Follows agenda (first ++ failing :: later) left

namespace Follows

variable {agenda between left : List Request} {done later : List Call}

theorem idle (same : left = agenda) : Follows agenda [] left :=
  .through same fun _ inside => nomatch inside

/-- One call of the agenda. -/
theorem one {request : Request} {outcome : Except Failure (List Notification)}
    (same : agenda = request :: left)
    (well : request.connects → Call.isFailed ⟨request, outcome⟩ = false) :
    Follows agenda [⟨request, outcome⟩] left := by
  refine .through same.symm fun c inside => ?_
  rw [List.mem_singleton.mp inside]
  exact well

/-- One call of the agenda that the connection does not depend on, however it turns out. -/
theorem tried {request : Request} {outcome : Except Failure (List Notification)}
    (same : agenda = request :: left) (apart : request.connects = false) :
    Follows agenda [⟨request, outcome⟩] left := by
  refine .one same fun connects => ?_
  rw [apart] at connects
  cases connects

/-- The connection is lost. -/
theorem lost {request : Request} {failure : Failure} {rest : List Request}
    (same : agenda = request :: rest) (connects : request.connects) (delay : Double) :
    Follows agenda [⟨request, .error failure⟩] [.close, .wait delay, .close] :=
  @backingOff agenda [] [] ⟨request, .error failure⟩ rest _ delay same
    (fun _ inside => nomatch inside) connects rfl rfl

/-- An agenda may be followed in two parts. -/
theorem trans (first : Follows agenda done between) (second : Follows between later left) :
    Follows agenda (done ++ later) left := by
  cases first with
  | through whole well =>
    cases second with
    | through whole' well' =>
      refine .through ?_ ?_
      · rw [List.map_append, List.append_assoc, whole', whole]
      · intro c inside
        rcases List.mem_append.mp inside with before | after
        · exact well c before
        · exact well' c after
    | @backingOff first more failing rest _ delay parted well' connects failed backedOff =>
      have parted' : agenda = (done ++ first).map Call.request ++ failing.request :: rest := by
        rw [← whole, parted, List.map_append, List.append_assoc]
      rw [← List.append_assoc]
      refine .backingOff parted' ?_ connects failed backedOff
      · intro c inside
        rcases List.mem_append.mp inside with before | after
        · exact well c before
        · exact well' c after
  | @backingOff first more failing rest _ delay parted well connects failed backedOff =>
    cases second with
    | through whole' well' =>
      have backedOff' : (more ++ later).map Call.request ++ left = [.close, .wait delay, .close] := by
        rw [List.map_append, List.append_assoc, whole', backedOff]
      rw [List.append_assoc, List.cons_append]
      exact .backingOff parted well connects failed backedOff'
    | @backingOff first' more' failing' rest' _ delay' parted' _ connects' =>
      have among : failing'.request ∈ [Request.close, .wait delay, .close] := by
        rw [← backedOff, parted']
        simp
      simp only [List.mem_cons, List.not_mem_nil, or_false] at among
      rcases among with same | same | same <;> (rw [same] at connects'; cases connects')

/-- What is neither a closing nor a wait is done no more often than the agenda has it. -/
theorem countP_le (follows : Follows agenda done left) {p : Request → Bool}
    (closing : p .close = false) (waiting : ∀ delay, p (.wait delay) = false) :
    (done.map Call.request).countP p ≤ agenda.countP p := by
  cases follows with
  | through whole =>
    rw [← whole, List.countP_append]
    exact Nat.le_add_right _ _
  | @backingOff first more failing rest _ delay parted _ _ _ backedOff =>
    have none : (more.map Call.request).countP p = 0 := by
      have both : (more.map Call.request ++ left).countP p = 0 := by
        simp [backedOff, closing, waiting]
      rw [List.countP_append] at both
      omega
    rw [parted, List.map_append, List.map_cons, List.countP_append, List.countP_append,
      List.countP_cons, List.countP_cons, none]
    omega

/-- When nothing is left, the last that was done is what the agenda has last. -/
theorem getLast?_eq (follows : Follows agenda done []) (closes : agenda.getLast? = some .close) :
    (done.map Call.request).getLast? = some .close := by
  cases follows with
  | through whole =>
    rw [List.append_nil] at whole
    rwa [whole]
  | backingOff parted _ _ _ backedOff =>
    rw [List.append_nil] at backedOff
    simp [backedOff]

end Follows

/-- Is this something that the thread does, and not others? -/
def ThreadEvent.isOwn : ThreadEvent → Bool
  | .stepped | .turned _ => true
  | .stopRequested | .started => false

namespace Moment

/-- What the thread does after a stop, with `own` steps and calls of its own. -/
structure Winds (m : Moment) (calls : List Call) (own : Nat) (m' : Moment) : Prop where
  requested : m'.listener.stopRequested = true
  acted : acted calls ++ m'.due?.toList = m.due?.toList
  hand : m'.hand? = none ∨ m'.hand? = m.hand?
  counted : m'.handledCount ≤ m.handledCount
  agenda : Follows m.agenda calls m'.agenda
  rank : own + m'.rank ≤ m.rank

variable {m m' m'' : Moment}

/-- A stop that is requested already stays so when another one is requested. -/
theorem requestStop_eq (stop : m.listener.stopRequested = true) : m.requestStop = m := by
  obtain ⟨l, position⟩ := m
  obtain ⟨options, stage, stopRequested, delay, dispatched, failed, reconnects⟩ := l
  cases stop
  rfl

theorem Winds.refl (stop : m.listener.stopRequested = true) : Winds m [] 0 m where
  requested := stop
  acted := rfl
  hand := .inr rfl
  counted := Nat.le_refl _
  agenda := .idle rfl
  rank := Nat.le_of_eq (Nat.zero_add _)

/-- A step of the thread. -/
theorem winds_step (stop : m.listener.stopRequested = true) (steps : m.step? = some m') :
    Winds m [] 1 m' := by
  obtain ⟨l, position⟩ := m
  change l.stopRequested = true at stop
  cases position with
  | calling => cases steps
  | looking connected =>
    cases steps
    have leaving : l.toHead connected = { l with stage := .leaving } := by
      rw [Listener.toHead, Listener.headStage, if_pos stop]
    rw [leaving]
    exact ⟨stop, rfl, .inl rfl, Nat.le_refl _, .idle rfl, Nat.le_refl _⟩
  | handling batch =>
    cases batch with
    | nil =>
      cases steps
      exact ⟨stop, rfl, .inl rfl, Nat.le_refl _, .idle rfl, Nat.le_refl _⟩
    | cons n rest =>
      have stopped : (⟨l, .looking true⟩ : Moment) = m' := by simpa [step?, stop] using steps
      subst stopped
      exact ⟨stop, rfl, .inl rfl, Nat.le_refl _, .idle rfl, Nat.le_refl _⟩
  | dispatching n rest =>
    by_cases binds : l.options.Binds n
    · have bound : l.isBound n = true := List.contains_iff_mem.mpr binds
      rcases wholeSeconds_cases n.receivedAt with ⟨time, value, ok⟩ | ⟨failure, value, error⟩
      · have called : l.options.due? n = some ⟨n, Double.towardZero time⟩ := by
          rw [ListenerOptions.due?, if_pos binds, value, Option.map_some]
        simp only [step?, bound, ok, Bool.not_true, Bool.false_eq_true, if_false] at steps
        cases steps
        refine ⟨stop, ?_, .inr rfl, Nat.le_refl _, .idle ?_, Nat.le_refl _⟩
        · simp [due?, called, acted]
        · simp [agenda, called]
      · have idle : l.options.due? n = none :=
          ListenerOptions.due?_eq_none_of_untimely ⟨binds, value⟩
        simp only [step?, bound, error, Bool.not_true, Bool.false_eq_true, if_false] at steps
        cases steps
        refine ⟨stop, ?_, .inl rfl, ?_, .idle ?_, show 1 + 3 ≤ 5 by decide⟩
        · simp [due?, idle, acted]
        · simp [handledCount, hand?, Listener.countFailure]
          omega
        · simp [agenda, idle]
    · have unbound : l.isBound n = false := by
        rw [Listener.isBound, List.contains_eq_mem, decide_eq_false_iff_not]
        exact binds
      have idle : l.options.due? n = none := if_neg binds
      simp only [step?, unbound, Bool.not_false, if_true] at steps
      cases steps
      refine ⟨stop, ?_, .inl rfl, ?_, .idle ?_, show 1 + 3 ≤ 5 by decide⟩
      · simp [due?, idle, acted]
      · simp [handledCount, hand?]
      · simp [agenda, idle]

/-- The call that the thread is in turns out in some way. -/
theorem winds_turn (stop : m.listener.stopRequested = true) (calling : m.position = .calling)
    {request : Request} (asked : m.listener.request? = some request)
    (outcome : Except Failure (List Notification)) :
    Winds m [⟨request, outcome⟩] 1 (m.turn outcome) := by
  obtain ⟨⟨options, stage, stopRequested, delay, dispatched, failed, reconnects⟩, position⟩ := m
  cases calling
  cases stop
  cases stage with
  | ended => cases asked
  | opening =>
    cases asked
    cases outcome with
    | ok answer => exact ⟨rfl, rfl, .inl rfl, Nat.le_refl _, .one rfl (fun _ => rfl), Nat.le_refl _⟩
    | error failure =>
      exact ⟨rfl, rfl, .inl rfl, Nat.le_refl _, .lost rfl rfl delay,
        show 1 + 3 ≤ 6 by decide⟩
  | subscribing =>
    cases asked
    cases outcome with
    | ok answer => exact ⟨rfl, rfl, .inl rfl, Nat.le_refl _, .one rfl (fun _ => rfl), Nat.le_refl _⟩
    | error failure =>
      exact ⟨rfl, rfl, .inl rfl, Nat.le_refl _, .lost rfl rfl delay,
        show 1 + 3 ≤ 5 by decide⟩
  | polling =>
    cases asked
    cases outcome with
    | ok batch => exact ⟨rfl, rfl, .inl rfl, Nat.le_refl _, .one rfl (fun _ => rfl), Nat.le_refl _⟩
    | error failure =>
      exact ⟨rfl, rfl, .inl rfl, Nat.le_refl _, .lost rfl rfl delay,
        Nat.le_refl _⟩
  | acting due rest =>
    cases asked
    have counted (dispatched' failed' : Nat) (one : dispatched' + failed' = dispatched + failed + 1) :
        dispatched' + failed' + 0 ≤ dispatched + failed + 1 := by omega
    cases outcome with
    | ok answer =>
      exact ⟨rfl, rfl, .inl rfl, counted (dispatched + 1) failed (by omega), .tried rfl rfl,
        Nat.le_refl _⟩
    | error failure =>
      exact ⟨rfl, rfl, .inl rfl, counted dispatched (failed + 1) (by omega), .tried rfl rfl,
        Nat.le_refl _⟩
  | closing =>
    cases asked
    cases outcome <;> exact ⟨rfl, rfl, .inl rfl, Nat.le_refl _, .tried rfl rfl, Nat.le_refl _⟩
  | waiting =>
    cases asked
    exact ⟨rfl, rfl, .inl rfl, Nat.le_refl _, .tried rfl rfl, Nat.le_refl _⟩
  | leaving =>
    cases asked
    cases outcome <;> exact ⟨rfl, rfl, .inl rfl, Nat.le_refl _, .tried rfl rfl, Nat.le_refl _⟩

/-- Whatever happens, but a start. -/
theorem winds_next (stop : m.listener.stopRequested = true) {event : ThreadEvent}
    (unstarted : event ≠ .started) (happens : m.next event = some m') :
    Winds m (m.call? event).toList (if event.isOwn then 1 else 0) m' := by
  cases event with
  | stepped => exact winds_step stop happens
  | turned outcome =>
    simp only [next] at happens
    split at happens
    · next enabled =>
      cases happens
      obtain ⟨request, asked⟩ := Option.isSome_iff_exists.mp (Listener.request?_isSome enabled.2)
      have call : (m.call? (.turned outcome)).toList = [⟨request, outcome⟩] := by
        simp [call?, asked]
      rw [call]
      exact winds_turn stop enabled.1 asked outcome
    · cases happens
  | stopRequested =>
    cases happens
    rw [requestStop_eq stop]
    exact .refl stop
  | started => exact absurd rfl unstarted

/-- The request itself changes nothing of what the thread has to do. -/
theorem Winds.of_requestStop {calls : List Call} {own : Nat}
    (winds : Winds m.requestStop calls own m') : Winds m calls own m' :=
  ⟨winds.requested, winds.acted, winds.hand, winds.counted, winds.agenda, winds.rank⟩

theorem Winds.trans {first later : List Call} {own own' : Nat} (winds : Winds m first own m')
    (winds' : Winds m' later own' m'') : Winds m (first ++ later) (own + own') m'' where
  requested := winds'.requested
  acted := by rw [acted_append, List.append_assoc, winds'.acted, winds.acted]
  hand := by
    rcases winds'.hand with none | same
    · exact .inl none
    · rw [same]
      exact winds.hand
  counted := winds'.counted.trans winds.counted
  agenda := winds.agenda.trans winds'.agenda
  rank := by
    have first := winds.rank
    have later := winds'.rank
    omega

/-- Whatever happens in the course of time, but a start. -/
theorem winds_along (stop : m.listener.stopRequested = true) {later : List ThreadEvent}
    (unstarted : .started ∉ later) (happens : m.along later = some m') :
    Winds m (m.calls later) (later.countP ThreadEvent.isOwn) m' := by
  induction later generalizing m with
  | nil =>
    cases happens
    exact .refl stop
  | cons event later ih =>
    rw [List.mem_cons, not_or] at unstarted
    rw [along_cons] at happens
    obtain ⟨between, first, rest⟩ := Option.bind_eq_some_iff.mp happens
    have winds := winds_next stop (Ne.symm unstarted.1) first
    have both := winds.trans (ih winds.requested unstarted.2 rest)
    rw [calls, first, List.countP_cons, Nat.add_comm]
    exact both

/-! ## Every moment that can come -/

def Sound (m : Moment) : Prop :=
  m.position ≠ .calling → m.listener.isRunning

theorem Sound.next (sound : m.Sound) {event : ThreadEvent} (happens : m.next event = some m') :
    m'.Sound := by
  cases event with
  | stepped =>
    obtain ⟨l, position⟩ := m
    cases position with
    | calling => cases happens
    | looking connected =>
      cases happens
      exact fun elsewhere => absurd rfl elsewhere
    | handling batch =>
      have running : l.isRunning := sound (by simp)
      cases batch with
      | nil =>
        cases happens
        exact fun _ => running
      | cons n rest =>
        cases happens
        exact fun _ => running
    | dispatching n rest =>
      have running : l.isRunning := sound (by simp)
      simp only [Moment.next, step?] at happens
      split at happens
      · cases happens
        exact fun _ => running
      · split at happens
        · cases happens
          exact fun _ => running
        · cases happens
          exact fun elsewhere => absurd rfl elsewhere
  | turned outcome =>
    simp only [Moment.next] at happens
    split at happens
    · next enabled =>
      obtain ⟨calling, running⟩ := enabled
      cases happens
      unfold turn
      split
      · exact fun _ => running
      · intro _
        rw [Listener.isRunning, Listener.counting_stage]
        exact running
      · split
        · exact fun elsewhere => absurd calling elsewhere
        · exact fun _ => running
      · exact fun elsewhere => absurd calling elsewhere
    · cases happens
  | stopRequested =>
    cases happens
    exact sound
  | started =>
    simp only [Moment.next] at happens
    split at happens
    · next started =>
      cases happens
      rw [Listener.start_eq started]
      exact fun _ => rfl
    · cases happens

theorem Sound.along (sound : m.Sound) {events : List ThreadEvent}
    (happens : m.along events = some m') : m'.Sound := by
  induction events generalizing m with
  | nil =>
    cases happens
    exact sound
  | cons event later ih =>
    rw [along_cons] at happens
    obtain ⟨between, first, rest⟩ := Option.bind_eq_some_iff.mp happens
    exact ih (sound.next first) rest

/-- Whoever holds the lock is running. -/
theorem Sound.isRunning (sound : m.Sound) (held : m.hand?.isSome) : m.listener.isRunning := by
  by_cases calling : m.position = .calling
  · simp only [hand?, calling] at held
    split at held
    · next first => cases first
    · next acting =>
      simp [Listener.isRunning, acting]
    · cases held
  · exact sound calling

/-- A running thread has something to do: a step of its own, or a call that turns out. -/
theorem goesOn (running : m.listener.isRunning) :
    (m.next .stepped).isSome ∨ ∀ outcome, (m.next (.turned outcome)).isSome := by
  obtain ⟨l, position⟩ := m
  cases position with
  | calling =>
    right
    intro outcome
    rw [next, if_pos ⟨rfl, running⟩]
    rfl
  | looking connected => exact .inl rfl
  | handling batch => cases batch <;> exact .inl rfl
  | dispatching n rest =>
    left
    simp only [next, step?]
    split
    · rfl
    · split <;> rfl

/-! ## The agenda -/

theorem agenda_opens (m : Moment) : m.agenda.countP Request.opens ≤
    if m.position = .calling ∧ m.listener.stage = .opening then 1 else 0 := by
  obtain ⟨l, position⟩ := m
  cases position with
  | calling =>
    simp only [agenda, true_and]
    cases l.stage <;> simp [List.countP_cons, Request.opens]
  | looking connected => simp [agenda, Request.opens]
  | handling batch => simp [agenda, Request.opens]
  | dispatching n rest => cases due : l.options.due? n <;> simp [agenda, due, Request.opens]

theorem agenda_polls (m : Moment) : m.agenda.countP Request.polls ≤ 1 := by
  obtain ⟨l, position⟩ := m
  cases position with
  | calling =>
    simp only [agenda]
    cases l.stage <;> simp [List.countP_cons, Request.polls]
  | looking connected => simp [agenda, Request.polls]
  | handling batch => simp [agenda, Request.polls]
  | dispatching n rest => cases due : l.options.due? n <;> simp [agenda, due, Request.polls]

/-- The last call of a running thread closes the connection. -/
theorem getLast?_agenda (running : m.listener.isRunning) :
    m.agenda.getLast? = some .close := by
  obtain ⟨l, position⟩ := m
  cases position with
  | calling =>
    simp only [agenda]
    cases stage : l.stage with
    | ended => simp [Listener.isRunning, stage] at running
    | _ => rfl
  | looking connected => rfl
  | handling batch => rfl
  | dispatching n rest => simp [agenda]

/-- While the lock is free, no action is due. -/
theorem due?_eq_none (free : m.hand? = none) : m.due? = none := by
  obtain ⟨l, position⟩ := m
  cases position with
  | calling =>
    cases stage : l.stage with
    | acting due rest => simp [hand?, stage] at free
    | _ => simp [due?, stage]
  | looking connected => rfl
  | handling batch => rfl
  | dispatching n rest => cases free

/-- Nothing is left for a thread that has ended. -/
theorem Sound.agenda_eq_nil (sound : m.Sound) (ended : m.listener.isRunning = false) :
    m.agenda = [] ∧ m.hand? = none := by
  have calling : m.position = .calling := by
    by_contra elsewhere
    rw [sound elsewhere] at ended
    cases ended
  have stage : m.listener.stage = .ended := by
    simpa [Listener.isRunning] using ended
  simp [agenda, hand?, calling, stage]

theorem rank_le (m : Moment) : m.rank ≤ 6 := by
  unfold rank
  split
  · decide
  · decide
  · decide
  · split <;> decide

/-! ## Stops from outside -/

/--
A stop that another thread asks for, the answer that it is given, what happens
meanwhile, and the moment at which the answer is given.  Once the stop is requested
the other thread waits for the lock.  If it gets the lock it gives it back and waits
for the thread of the listener to end; either wait may end at any time by its limit.
-/
inductive Answers (m : Moment) : Bool → List ThreadEvent → Moment → Prop
  | lockHeld {during : List ThreadEvent} {m' : Moment}
      (goes : m.requestStop.along during = some m') (held : m'.hand?.isSome) :
      Answers m false during m'
  | joined {first second : List ThreadEvent} {between m' : Moment}
      (goes : m.requestStop.along first = some between) (free : between.hand? = none)
      (goes' : between.along second = some m') :
      Answers m (!m'.listener.isRunning) (first ++ second) m'

theorem stopOutcome_fst {σ : Type} (limit : Double) (w : Scenario.ListenerWorld σ) :
    (Scenario.ListenerWorld.stopOutcome limit w).1 = !w.listener.isRunning := by
  unfold Scenario.ListenerWorld.stopOutcome
  cases running : w.listener.isRunning with
  | false => rfl
  | true =>
    rw [if_neg (by simp)]
    split <;> rfl

/-- The answer to a stop in a scenario is one of these. -/
theorem answers_stop {σ : Type} (o : Scenario.Outside σ) (w : Scenario.ListenerWorld σ)
    (limit : Double) {answer : Bool} (told : (w.stop o limit).1 = .ok answer) :
    ∃ during, Answers ⟨w.listener, .calling⟩ answer during
      ⟨(w.stop o limit).2.listener, .calling⟩ := by
  let stopped := { w with listener := w.listener.requestStop }
  obtain ⟨during, goes⟩ : ∃ during, (requestStop ⟨w.listener, .calling⟩).along during =
      some ⟨(stopped.wake o limit).listener, .calling⟩ :=
    Scenario.ListenerWorld.reaches_wake o stopped limit
  refine ⟨during, ?_⟩
  unfold Scenario.ListenerWorld.stop at told ⊢
  dsimp only at told ⊢
  change _ = Except.ok answer at told
  generalize stopped.wake o limit = woken at goes told ⊢
  cases checked : Listener.checkLimit limit with
  | error failure =>
    rw [checked] at told
    cases told
  | ok _ =>
    rw [checked] at told
    obtain rfl : (Scenario.ListenerWorld.stopOutcome limit woken).1 = answer := Except.ok.inj told
    rw [stopOutcome_fst]
    change Answers _ _ during ⟨woken.listener, .calling⟩
    cases hand : hand? ⟨woken.listener, .calling⟩ with
    | some n =>
      have held : (hand? ⟨woken.listener, .calling⟩).isSome := by rw [hand]; rfl
      have running : woken.listener.isRunning :=
        Sound.isRunning (fun elsewhere => absurd rfl elsewhere) held
      rw [running]
      exact .lockHeld goes held
    | none =>
      have rest : along ⟨woken.listener, .calling⟩ [] = some ⟨woken.listener, .calling⟩ := rfl
      rw [← List.append_nil during]
      exact .joined goes hand rest

/--
A stop is final.  At whatever moment it is requested, and whatever happens from then
on but a start: the request stays; the only action that may still be called is the
one for which the lock is held already, so that none is called if the lock is free,
and no other notification is dispatched or counted; the calls are those of the
agenda, or those up to one that fails and then those of backing off, so that the
connection is opened only if it is being opened already and is polled at most once;
after at most six steps and calls the thread has ended, with a call that closes the
connection, and until then it can always go on.
If another thread asked for the stop and is told that the listener has stopped, the
listener is not running and nothing is in hand.  If it is told otherwise, the request
stays until the listener is started, which is refused for as long as it runs.
-/
theorem stop_final {l : Listener} {before : List ThreadEvent}
    (reached : along ⟨l, .calling⟩ before = some m) :
    (∀ ⦃later : List ThreadEvent⦄ ⦃m' : Moment⦄,
      m.requestStop.along later = some m' → .started ∉ later →
      let calls := m.requestStop.calls later
      Winds m calls (later.countP ThreadEvent.isOwn) m' ∧
      (m.hand? = none → acted calls = []) ∧
      (calls.map Call.request).countP Request.opens ≤
        (if m.position = .calling ∧ m.listener.stage = .opening then 1 else 0) ∧
      (calls.map Call.request).countP Request.polls ≤ 1 ∧
      later.countP ThreadEvent.isOwn ≤ 6 ∧
      (m.listener.isRunning = true → m'.listener.isRunning = false →
        (calls.map Call.request).getLast? = some .close) ∧
      (m'.listener.isRunning = true →
        (m'.next .stepped).isSome ∨ ∀ outcome, (m'.next (.turned outcome)).isSome)) ∧
    ∀ ⦃answer : Bool⦄ ⦃during : List ThreadEvent⦄ ⦃m' : Moment⦄, Answers m answer during m' →
      (answer = true → m'.listener.isRunning = false ∧ m'.hand? = none) ∧
      (answer = false → .started ∉ during →
        m'.listener.isRunning = true ∧
        ∀ ⦃later : List ThreadEvent⦄ ⦃m'' : Moment⦄,
          m'.along later = some m'' → .started ∉ later →
          m''.listener.stopRequested = true ∧
            (m''.listener.isRunning = true →
              m''.listener.start = .error (.alreadyRunning m''.listener.options.name))) := by
  have idle : Sound ⟨l, .calling⟩ := fun elsewhere => absurd rfl elsewhere
  have requested : m.next .stopRequested = some m.requestStop := rfl
  have sound := (idle.along reached).next requested
  have stop : m.requestStop.listener.stopRequested = true := rfl
  refine ⟨fun later m' happens unstarted => ?_, fun answer during m' answers => ?_⟩
  · have winds := winds_along stop unstarted happens
    have follows := winds.agenda
    have sound' := sound.along happens
    refine ⟨winds.of_requestStop, fun free => ?_, ?_, ?_, ?_, fun running ended => ?_, goesOn⟩
    · have acts := winds.of_requestStop.acted
      rw [due?_eq_none free, Option.toList_none] at acts
      exact (List.append_eq_nil_iff.mp acts).1
    · exact (follows.countP_le rfl fun _ => rfl).trans (agenda_opens m.requestStop)
    · exact (follows.countP_le rfl fun _ => rfl).trans (agenda_polls m.requestStop)
    · exact (Nat.le_add_right _ _).trans (winds.rank.trans (rank_le _))
    · rw [(sound'.agenda_eq_nil ended).1] at follows
      exact follows.getLast?_eq (getLast?_agenda running)
  · -- Either way the answer is given when something has happened since the request.
    have goes : m.requestStop.along during = some m' := by
      cases answers with
      | lockHeld goes => exact goes
      | joined goes _ goes' => rw [along_append, goes, Option.bind_some, goes']
    have sound' := sound.along goes
    have told : answer = !m'.listener.isRunning := by
      cases answers with
      | lockHeld _ held => rw [sound'.isRunning held]; rfl
      | joined => rfl
    refine ⟨fun ended => ?_, fun late unstarted => ?_⟩
    · have ended' : m'.listener.isRunning = false := by simpa [told] using ended
      exact ⟨ended', (sound'.agenda_eq_nil ended').2⟩
    · have running : m'.listener.isRunning = true := by simpa [told] using late
      refine ⟨running, fun later m'' goes' unstarted' => ?_⟩
      have stays := (winds_along stop unstarted goes).requested
      refine ⟨(winds_along stays unstarted' goes').requested, fun running' => ?_⟩
      rw [Listener.start, if_pos running']

/-! ### A stop during an action -/

def firstInserted : Notification where
  channel := "address_insert"
  payload := some "a"
  receivedAt := Double.ofInt 7

def insertAction : DueAction :=
  ⟨firstInserted, 7⟩

/-- A listener is stopped at once, started again, and gets a batch of two. -/
def untilAction : List ThreadEvent :=
  [.started, .stopRequested, .stepped, .turned (.ok []), .started, .stepped, .turned (.ok []),
    .turned (.ok []), .turned (.ok [firstInserted, firstInserted]), .stepped, .stepped]

def duringAction : Moment where
  listener := { Listener.startedForTwo with stage := .acting insertAction [firstInserted] }

def actionFails : List ThreadEvent :=
  [.turned (.error (.fault .value "refused"))]

/-- The thread looks for a stop, leaves its loop, and closes the connection. -/
def threadLeaves : List ThreadEvent :=
  [.stepped, .stepped, .turned (.ok [])]

def afterStop : Moment where
  listener := { Listener.startedForTwo with stage := .ended, stopRequested := true, failed := 1 }

theorem stop_final_duringAction :
    along ⟨Listener.forTwoChannels, .calling⟩ untilAction = some duringAction ∧
      duringAction.requestStop.along (actionFails ++ threadLeaves) = some afterStop ∧
      .started ∉ actionFails ++ threadLeaves ∧
      Answers duringAction false [] duringAction.requestStop ∧
      Answers duringAction true (actionFails ++ threadLeaves) afterStop ∧
      acted (duringAction.requestStop.calls (actionFails ++ threadLeaves)) = [insertAction] ∧
      Winds duringAction (duringAction.requestStop.calls (actionFails ++ threadLeaves)) 4
        afterStop ∧
      afterStop.listener.isRunning = false ∧ afterStop.hand? = none := by
  have reached : along ⟨Listener.forTwoChannels, .calling⟩ untilAction = some duringAction := by
    decide +kernel
  have happens : duringAction.requestStop.along (actionFails ++ threadLeaves) = some afterStop := by
    decide +kernel
  have unstarted : .started ∉ actionFails ++ threadLeaves := by simp [actionFails, threadLeaves]
  have late : Answers duringAction false [] duringAction.requestStop := .lockHeld rfl rfl
  obtain ⟨between, failed⟩ :
      ∃ between, duringAction.requestStop.along actionFails = some between := ⟨_, rfl⟩
  have ended : Answers duringAction (!afterStop.listener.isRunning)
      (actionFails ++ threadLeaves) afterStop := by
    refine .joined failed ?_ ?_
    · cases failed
      rfl
    · rwa [along_append, failed, Option.bind_some] at happens
  obtain ⟨later, answered⟩ := stop_final reached
  exact ⟨reached, happens, unstarted, late, ended, by decide +kernel,
    (later happens unstarted).1, (answered ended).1 rfl⟩

end Moment

end Paywatch
