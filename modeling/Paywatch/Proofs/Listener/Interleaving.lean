import Paywatch.Proofs.Listener.Dispatch
import Paywatch.Scenario.Listener

/-!
# The thread of a listener among others

A listener runs in a thread of its own, and others may start it and ask it to stop
at any time.  So what it does between two calls to the outside is taken apart here
into single steps: it looks for a stop at the head of its loop and before each
notification of a batch, which it does under a lock that it holds until the action
of the notification has returned.  Anything may happen between two such steps.
What a listener does in one go, as `resume` and the scenarios have it, is one of
the ways in which these steps can follow each other.
-/

namespace Paywatch

/-- Where the thread of a listener is. -/
inductive Position where
  /-- In the call that its stage asks for, or nowhere if it has ended. -/
  | calling
  /-- At the head of its loop, before it looks for a stop. -/
  | looking (connected : Bool)
  /-- In a batch, before it takes the lock for the next notification and looks for a stop. -/
  | handling (batch : List Notification)
  /-- It holds the lock for a notification and has found no stop. -/
  | dispatching (n : Notification) (rest : List Notification)
  deriving DecidableEq, Repr

structure Moment where
  listener : Listener
  position : Position := .calling
  deriving DecidableEq, Repr

/--
What can happen next: the thread takes its next step, the call that it is in turns
out, a stop is requested, or a listener that is not running is started.
-/
inductive ThreadEvent where
  | stepped
  | turned (outcome : Except Failure (List Notification))
  | stopRequested
  | started

namespace Moment

/-! ## What happens -/

def step? (m : Moment) : Option Moment :=
  match m.position with
  | .calling => none
  | .looking connected => some ⟨m.listener.toHead connected, .calling⟩
  | .handling [] => some { m with position := .looking true }
  | .handling (n :: rest) =>
    some { m with position := if m.listener.stopRequested then .looking true else .dispatching n rest }
  | .dispatching n rest =>
    if !m.listener.isBound n then some { m with position := .handling rest }
    else
      match wholeSeconds n.receivedAt with
      | .error _ => some ⟨m.listener.countFailure, .handling rest⟩
      | .ok seconds => some ⟨{ m.listener with stage := .acting ⟨n, seconds⟩ rest }, .calling⟩

def turn (m : Moment) (outcome : Except Failure (List Notification)) : Moment :=
  match m.listener.stage, outcome with
  | .polling, .ok batch => { m with position := .handling batch }
  | .acting _ rest, outcome => ⟨m.listener.counting outcome, .handling rest⟩
  | .waiting, _ =>
    if m.listener.stopRequested then { m with listener := { m.listener with stage := .leaving } }
    else ⟨{ m.listener with delay := m.listener.nextDelay }, .looking false⟩
  | _, outcome => { m with listener := (m.listener.resume outcome).listener }

def requestStop (m : Moment) : Moment :=
  { m with listener := m.listener.requestStop }

/-- The moment after something has happened, if that can happen. -/
def next (m : Moment) : ThreadEvent → Option Moment
  | .stepped => m.step?
  | .turned outcome =>
    if m.position = .calling ∧ m.listener.isRunning then some (m.turn outcome) else none
  | .stopRequested => some m.requestStop
  | .started =>
    match m.position, m.listener.start with
    | .calling, .ok (l, _) => some ⟨l, .looking false⟩
    | _, _ => none

def along (m : Moment) (events : List ThreadEvent) : Option Moment :=
  events.foldlM next m

def call? (m : Moment) : ThreadEvent → Option Call
  | .turned outcome => m.listener.request?.map fun request => ⟨request, outcome⟩
  | _ => none

def calls (m : Moment) : List ThreadEvent → List Call
  | [] => []
  | event :: later =>
    (m.call? event).toList ++
      match m.next event with
      | some m' => m'.calls later
      | none => []

theorem along_cons (m : Moment) (event : ThreadEvent) (later : List ThreadEvent) :
    m.along (event :: later) = (m.next event).bind (·.along later) :=
  List.foldlM_cons

theorem along_append (m : Moment) (first later : List ThreadEvent) :
    m.along (first ++ later) = (m.along first).bind (·.along later) :=
  List.foldlM_append

/-! ## What a listener does in one go -/

/-- The thread goes through a batch as `dispatch` does. -/
theorem along_handling (l : Listener) (batch : List Notification) :
    ∃ steps, along ⟨l, .handling batch⟩ steps = some ⟨(l.dispatch batch).listener, .calling⟩ := by
  induction batch generalizing l with
  | nil => exact ⟨[.stepped, .stepped], rfl⟩
  | cons n rest ih =>
    unfold Listener.dispatch
    rcases Bool.eq_false_or_eq_true l.stopRequested with stop | running
    · rw [if_pos stop]
      refine ⟨[.stepped, .stepped], ?_⟩
      simp [along, next, step?, stop]
    · rw [if_neg (by simp [running])]
      have taken : next ⟨l, .handling (n :: rest)⟩ .stepped = some ⟨l, .dispatching n rest⟩ := by
        simp [next, step?, running]
      by_cases bound : l.isBound n
      · rw [if_neg (by simp [bound])]
        cases seconds : wholeSeconds n.receivedAt with
        | error failure =>
          obtain ⟨steps, through⟩ := ih l.countFailure
          have counted : next ⟨l, .dispatching n rest⟩ .stepped =
              some ⟨l.countFailure, .handling rest⟩ := by
            simp [next, step?, bound, seconds]
          refine ⟨.stepped :: .stepped :: steps, ?_⟩
          rw [along_cons, taken, Option.bind_some, along_cons, counted, Option.bind_some, through]
        | ok seconds' =>
          refine ⟨[.stepped, .stepped], ?_⟩
          rw [along_cons, taken, Option.bind_some]
          simp [along, next, step?, bound, seconds]
      · rw [if_pos (by simp [bound])]
        obtain ⟨steps, through⟩ := ih l
        have dropped : next ⟨l, .dispatching n rest⟩ .stepped = some ⟨l, .handling rest⟩ := by
          simp [next, step?, bound]
        refine ⟨.stepped :: .stepped :: steps, ?_⟩
        rw [along_cons, taken, Option.bind_some, along_cons, dropped, Option.bind_some, through]

/-- A listener comes to be another one, in a call or ended both times. -/
def Reaches (l l' : Listener) : Prop :=
  ∃ events, along ⟨l, .calling⟩ events = some ⟨l', .calling⟩

namespace Reaches

theorem refl (l : Listener) : Reaches l l :=
  ⟨[], rfl⟩

theorem trans {l₁ l₂ l₃ : Listener} (first : Reaches l₁ l₂) (second : Reaches l₂ l₃) :
    Reaches l₁ l₃ := by
  obtain ⟨events, reaches⟩ := first
  obtain ⟨later, reaches'⟩ := second
  exact ⟨events ++ later, by rw [along_append, reaches, Option.bind_some, reaches']⟩

theorem requestStop (l : Listener) : Reaches l l.requestStop :=
  ⟨[.stopRequested], rfl⟩

theorem start {l l' : Listener} {record : LogRecord} (started : l.start = .ok (l', record)) :
    Reaches l l' := by
  refine ⟨[.started, .stepped], ?_⟩
  rw [along_cons]
  simp only [next, started, Option.bind_some]
  rw [Listener.start_eq started]
  rfl

/-- What a listener does in one go after a call. -/
theorem resume (l : Listener) (outcome : Except Failure (List Notification)) :
    Reaches l (l.resume outcome).listener := by
  by_cases ended : l.stage = .ended
  · have same : (l.resume outcome).listener = l := by simp only [Listener.resume, ended]
    rw [same]
    exact refl l
  · have turned : next ⟨l, .calling⟩ (.turned outcome) = some (turn ⟨l, .calling⟩ outcome) :=
      if_pos ⟨rfl, decide_eq_true ended⟩
    have go (steps : List ThreadEvent)
        (reaches : (turn ⟨l, .calling⟩ outcome).along steps =
          some ⟨(l.resume outcome).listener, .calling⟩) : Reaches l (l.resume outcome).listener :=
      ⟨.turned outcome :: steps, by rw [along_cons, turned, Option.bind_some, reaches]⟩
    cases stage : l.stage with
    | ended => exact absurd stage ended
    | polling =>
      cases outcome with
      | ok batch =>
        obtain ⟨steps, through⟩ := along_handling l batch
        refine go steps ?_
        simpa only [turn, Listener.resume, stage] using through
      | error failure => exact go [] (by simp only [turn, stage]; rfl)
    | acting due rest =>
      obtain ⟨steps, through⟩ := along_handling (l.counting outcome) rest
      have same : l.resume outcome = l.afterAction due rest (outcome.map fun _ => ()) := by
        cases outcome <;> simp only [Listener.resume, stage] <;> rfl
      have counted : (l.afterAction due rest (outcome.map fun _ => ())).listener =
          ((l.counting outcome).dispatch rest).listener := by
        cases outcome <;> rfl
      refine go steps ?_
      rw [same, counted, ← through]
      simp only [turn, stage]
    | waiting =>
      rcases Bool.eq_false_or_eq_true l.stopRequested with stop | running
      · refine go [] ?_
        simp only [turn, Listener.resume, Listener.afterWait, stage, stop, if_true]
        rfl
      · refine go [.stepped] ?_
        simp only [turn, Listener.resume, Listener.afterWait, stage, running, Bool.false_eq_true,
          if_false]
        simp [along, next, step?, Listener.toHead, Listener.headStage]
    | opening | subscribing | closing | leaving =>
      exact go [] (by simp only [turn, stage]; rfl)

end Reaches

end Moment

/-! ## Scenarios -/

namespace Scenario

namespace ListenerWorld

open Moment

variable {σ : Type} (o : Outside σ) (w : ListenerWorld σ)

theorem reaches_resume {l : Listener} {w : ListenerWorld σ} (same : w.listener = l)
    (outcome : Except Failure (List Notification)) : Reaches l (w.resume o outcome).listener := by
  subst same
  exact .resume w.listener outcome

theorem reaches_turnOut {l : Listener} {w : ListenerWorld σ} (same : w.listener = l)
    (call? : Option PlannedCall) : Reaches l (w.turnOut o call?).listener := by
  unfold turnOut
  cases call? with
  | none => exact reaches_resume o same _
  | some call =>
    dsimp only
    split
    · rw [← same]
      exact .refl _
    · exact reaches_resume o same _

theorem reaches_serve (request : Request) : Reaches w.listener (w.serve o request).listener := by
  cases request with
  | openConnection | subscribe channels | close =>
    apply reaches_turnOut
    rfl
  | poll timeout =>
    change Reaches w.listener (w.servePoll o timeout).listener
    unfold servePoll
    split
    · apply reaches_turnOut
      rfl
    · split
      · exact reaches_resume o rfl _
      · exact .refl _
  | wait delay =>
    change Reaches w.listener (w.serveWait o delay).listener
    unfold serveWait
    dsimp only
    split
    · exact reaches_resume o rfl _
    · split
      · refine (Reaches.requestStop _).trans ?_
        apply reaches_resume
        rfl
      · apply reaches_resume
        rfl
    · exact reaches_resume o rfl _
  | act due =>
    change Reaches w.listener (w.serveAction o due).listener
    unfold serveAction
    dsimp only
    split
    · apply reaches_resume
      rfl
    · apply reaches_resume
      rfl
    · refine (Reaches.requestStop _).trans ?_
      apply reaches_resume
      rfl
    · exact .refl _

theorem reaches_run : Reaches w.listener (w.run o).listener := by
  fun_induction run o w with
  | case1 w request parked asked nearer ih => exact (reaches_serve o w request).trans ih
  | case2 w => exact .refl _

theorem reaches_endRest : Reaches w.listener (w.endRest o).listener := by
  refine Reaches.trans ?_ (reaches_run o _)
  apply reaches_resume
  rfl

theorem reaches_wake (limit : Double) : Reaches w.listener (w.wake o limit).listener := by
  unfold wake
  split
  · exact .refl _
  · exact .refl _
  all_goals
    split
    · exact reaches_endRest o w
    · exact .refl _

/-- Whatever a scenario does with a listener, these steps can come to it. -/
theorem reaches_perform (limit : Double) (op : ListenerOp) :
    Reaches w.listener (w.perform o limit op).2.listener := by
  cases op with
  | start =>
    simp only [perform, start]
    cases started : w.listener.start with
    | error failure => exact .refl _
    | ok result =>
      obtain ⟨l, record⟩ := result
      exact (Reaches.start started).trans
        (reaches_run o { w.tell o [record] with listener := l })
  | plan more =>
    simp only [perform, extendPlan]
    split
    · exact reaches_run o { w with plan := w.plan.extend more }.unpark
    · exact reaches_endRest o { w with plan := w.plan.extend more }
    · exact .refl _
  | release =>
    simp only [perform, release]
    split
    · refine Reaches.trans ?_ (reaches_run o _)
      apply reaches_resume
      rfl
    · exact reaches_endRest o w
    · exact .refl _
  | stop own =>
    have stopped := (Reaches.requestStop w.listener).trans
      (reaches_wake o { w with listener := w.listener.requestStop } (own.getD limit))
    simp only [perform, stop]
    split <;> exact stopped
  | channels | unreadable => exact .refl _

end ListenerWorld

end Scenario

end Paywatch
