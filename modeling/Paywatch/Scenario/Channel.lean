import Paywatch.Listener.Step

/-!
# A listener on a planned channel

In a scenario the outside of a listener is planned: how each call on the channel
turns out, whether it blocks until it is released, and during which wait a stop
is requested.  What is not planned succeeds, save that polling rests until
something is planned or a stop is requested.

A run goes on until the listener rests, is blocked or has ended.  Every call
that keeps it from one of these uses up an outcome or brings it nearer to
polling, so that the run is finite.
-/

namespace Paywatch

namespace Scenario

structure PlannedCall where
  blocks : Bool := false
  outcome : Except Failure (List Notification) := .ok []

/-- The planned outcomes of each kind of call, and the wait in which a stop is requested. -/
structure ChannelPlan where
  opens : List PlannedCall := []
  subscriptions : List PlannedCall := []
  polls : List PlannedCall := []
  closes : List PlannedCall := []
  stopOnWait : Option Nat := none

def ChannelPlan.size (p : ChannelPlan) : Nat :=
  p.opens.length + p.subscriptions.length + p.polls.length + p.closes.length

def ChannelPlan.extend (p more : ChannelPlan) : ChannelPlan where
  opens := p.opens ++ more.opens
  subscriptions := p.subscriptions ++ more.subscriptions
  polls := p.polls ++ more.polls
  closes := p.closes ++ more.closes
  stopOnWait := more.stopOnWait

/--
Why a run does not go on: there is nothing to poll, a call is blocked, or a stop
has ended the rest and nobody has waited for the listener since.
-/
inductive Parked where
  | idle
  | blocked (outcome : Except Failure (List Notification))
  | woken

inductive ActionCourse where
  | returns
  | fails (failure : Failure)
  | stops
  | blocks
  deriving DecidableEq, Repr

inductive ListenerEvent where
  | called (request : Request)
  | pollStopped (timeout : Double)
  | waited (delay : Double)
  | acted (due : DueAction) (stopped : Bool)
  | broken (failure : Failure)
  deriving DecidableEq, Repr

/-- How the outside of a listener behaves: what its actions do, and where its log goes. -/
structure Outside (σ : Type) where
  act : DueAction → σ → ActionCourse × σ
  tell : List LogRecord → σ → σ

structure PlannedListener where
  listener : Listener
  plan : ChannelPlan := {}
  parked : Option Parked := none
  events : List ListenerEvent := []

/-- A listener on a planned channel, beside the state of its outside. -/
structure ListenerWorld (σ : Type) extends PlannedListener where
  outside : σ

namespace ListenerWorld

variable {σ : Type}

def note (w : ListenerWorld σ) (events : List ListenerEvent) : ListenerWorld σ :=
  { w with events := w.events ++ events }

def tell (o : Outside σ) (w : ListenerWorld σ) (records : List LogRecord) : ListenerWorld σ :=
  { w with outside := o.tell records w.outside }

def park (w : ListenerWorld σ) (parked : Parked) : ListenerWorld σ :=
  { w with parked := some parked }

/-- Let the listener go on after a call. -/
def resume (o : Outside σ) (w : ListenerWorld σ)
    (outcome : Except Failure (List Notification)) : ListenerWorld σ :=
  let resumed := w.listener.resume outcome
  { (w.note (resumed.broken.toList.map .broken)).tell o resumed.log with
    listener := resumed.listener }

/-- Let a call turn out as planned, or well. -/
def turnOut (o : Outside σ) (w : ListenerWorld σ) : Option PlannedCall → ListenerWorld σ
  | none => w.resume o (.ok [])
  | some call => if call.blocks then w.park (.blocked call.outcome) else w.resume o call.outcome

def servePoll (o : Outside σ) (w : ListenerWorld σ) (timeout : Double) : ListenerWorld σ :=
  match w.plan.polls with
  | call :: later =>
    { w.note [.called (.poll timeout)] with plan := { w.plan with polls := later } }.turnOut o
      (some call)
  | [] =>
    if w.listener.stopRequested then (w.note [.pollStopped timeout]).resume o (.ok [])
    else w.park .idle

def serveWait (o : Outside σ) (w : ListenerWorld σ) (delay : Double) : ListenerWorld σ :=
  let w := w.note [.waited delay]
  match w.plan.stopOnWait with
  | none => w.resume o (.ok [])
  | some (n + 1) =>
    if n = 0 then
      { w with
        plan := { w.plan with stopOnWait := none }
        listener := w.listener.requestStop }.resume o (.ok [])
    else { w with plan := { w.plan with stopOnWait := some n } }.resume o (.ok [])
  | some 0 => w.resume o (.ok [])

def serveAction (o : Outside σ) (w : ListenerWorld σ) (due : DueAction) : ListenerWorld σ :=
  let (course, outside) := o.act due w.outside
  let w := { w.note [.acted due (course == .stops)] with outside := outside }
  match course with
  | .returns => w.resume o (.ok [])
  | .fails failure => w.resume o (.error failure)
  | .stops => { w with listener := w.listener.requestStop }.resume o (.ok [])
  | .blocks => w.park (.blocked (.ok []))

def serve (o : Outside σ) (w : ListenerWorld σ) : Request → ListenerWorld σ
  | .openConnection =>
    { w.note [.called .openConnection] with
      plan := { w.plan with opens := w.plan.opens.drop 1 } }.turnOut o w.plan.opens.head?
  | .subscribe channels =>
    { w.note [.called (.subscribe channels)] with
      plan := { w.plan with subscriptions := w.plan.subscriptions.drop 1 } }.turnOut o
        w.plan.subscriptions.head?
  | .poll timeout => w.servePoll o timeout
  | .close =>
    { w.note [.called .close] with
      plan := { w.plan with closes := w.plan.closes.drop 1 } }.turnOut o w.plan.closes.head?
  | .wait delay => w.serveWait o delay
  | .act due => serveAction o w due

/-! ## Every run ends -/

def stageRank : Stage → Nat
  | .ended => 0
  | .leaving => 1
  | .polling => 2
  | .subscribing => 3
  | .opening => 4
  | .waiting => 5
  | .closing => 6
  | .acting _ rest => 7 + rest.length

def rank (w : ListenerWorld σ) : Nat :=
  2 * stageRank w.listener.stage + (if w.parked.isNone then 1 else 0)

theorem stageRank_dispatch (l : Listener) (batch : List Notification) :
    stageRank (l.dispatch batch).listener.stage < 7 + batch.length := by
  induction batch generalizing l with
  | nil => cases h : l.stopRequested <;> simp [Listener.dispatch, Listener.toHead,
      Listener.headStage, stageRank, h]
  | cons n rest ih =>
    have hl := ih l
    have hf := ih l.countFailure
    unfold Listener.dispatch
    split
    · cases h : l.stopRequested <;> simp [Listener.toHead, Listener.headStage, stageRank, h]
      all_goals omega
    · split
      · simp only [List.length_cons]; omega
      · split
        · simp only [List.length_cons]; omega
        · simp [stageRank]

/-- A run comes nearer to its end: fewer planned outcomes, or as many and a lower rank. -/
def Nearer (after before : ListenerWorld σ) : Prop :=
  after.plan.size < before.plan.size ∨
    after.plan.size = before.plan.size ∧ after.rank < before.rank

theorem nearer_of_listener {w after : ListenerWorld σ} (plan : after.plan.size = w.plan.size)
    (parked : w.parked = none)
    (rank : stageRank after.listener.stage < stageRank w.listener.stage) :
    Nearer after w := by
  refine .inr ⟨plan, ?_⟩
  unfold ListenerWorld.rank
  rw [parked]
  split <;> simp <;> omega

theorem nearer_of_park {w : ListenerWorld σ} (why : Parked) (after : ListenerWorld σ)
    (plan : after.plan.size = w.plan.size) (parked : w.parked = none)
    (stage : after.listener.stage = w.listener.stage) : Nearer (after.park why) w := by
  refine .inr ⟨plan, ?_⟩
  simp [ListenerWorld.rank, park, parked, stage]

@[simp]
theorem plan_resume (o : Outside σ) (w : ListenerWorld σ)
    (outcome : Except Failure (List Notification)) : (w.resume o outcome).plan = w.plan := rfl

@[simp]
theorem listener_resume (o : Outside σ) (w : ListenerWorld σ)
    (outcome : Except Failure (List Notification)) :
    (w.resume o outcome).listener = (w.listener.resume outcome).listener := rfl

theorem plan_turnOut (o : Outside σ) (w : ListenerWorld σ) (call? : Option PlannedCall) :
    (w.turnOut o call?).plan = w.plan := by
  cases call? with
  | none => rfl
  | some call => cases blocks : call.blocks <;> simp [turnOut, park, blocks]

/-- A call uses up an outcome that is planned for it, or the listener goes on to a lower stage. -/
theorem nearer_turnOut (o : Outside σ) {w served : ListenerWorld σ} (planned : List PlannedCall)
    (listener : served.listener = w.listener)
    (plan : served.plan.size + planned.length = w.plan.size + (planned.drop 1).length)
    (parked : w.parked = none)
    (lower : stageRank (w.listener.resume (.ok [])).listener.stage < stageRank w.listener.stage) :
    Nearer (served.turnOut o planned.head?) w := by
  cases planned with
  | nil =>
    refine nearer_of_listener ?_ parked ?_
    · simpa [turnOut] using plan
    · simpa [turnOut, listener] using lower
  | cons call later =>
    refine .inl ?_
    rw [plan_turnOut]
    simp only [List.length_cons, List.drop_succ_cons, List.drop_zero] at plan
    omega

theorem nearer_servePoll (o : Outside σ) (w : ListenerWorld σ) (timeout : Double)
    (parked : w.parked = none) (polling : w.listener.stage = .polling) :
    Nearer (w.servePoll o timeout) w := by
  unfold servePoll
  split
  · rename_i call later planned
    refine .inl ?_
    rw [plan_turnOut]
    simp [ChannelPlan.size, planned]
  · split
    · rename_i stopped
      refine nearer_of_listener rfl parked ?_
      simp [note, Listener.resume, Listener.dispatch, Listener.toHead, Listener.headStage, polling,
        stopped, stageRank]
    · exact nearer_of_park .idle w rfl parked rfl

theorem nearer_serveAction (o : Outside σ) (w : ListenerWorld σ) {due : DueAction}
    {rest : List Notification} (parked : w.parked = none)
    (acting : w.listener.stage = .acting due rest) : Nearer (serveAction o w due) w := by
  have lower (l : Listener) (outcome : Except Failure (List Notification))
      (same : l.stage = w.listener.stage) :
      stageRank (l.resume outcome).listener.stage < stageRank w.listener.stage := by
    rw [acting] at same ⊢
    cases outcome <;>
      simpa [Listener.resume, same, Listener.afterAction, stageRank] using
        stageRank_dispatch _ rest
  unfold serveAction
  obtain ⟨course, outside⟩ := o.act due w.outside
  cases course with
  | returns | fails => exact nearer_of_listener rfl parked (lower w.listener _ rfl)
  | stops => exact nearer_of_listener rfl parked (lower w.listener.requestStop _ rfl)
  | blocks => exact nearer_of_park _ _ rfl parked rfl

theorem nearer_serveWait (o : Outside σ) (w : ListenerWorld σ) (delay : Double)
    (parked : w.parked = none) (waiting : w.listener.stage = .waiting) :
    Nearer (w.serveWait o delay) w := by
  have lower (l : Listener) (same : l.stage = .waiting) :
      stageRank (l.resume (.ok [])).listener.stage < stageRank w.listener.stage := by
    rw [waiting]
    cases stopped : l.stopRequested <;>
      simp [Listener.resume, Listener.afterWait, same, stopped, stageRank]
  simp only [serveWait, note]
  split
  · exact nearer_of_listener rfl parked (lower w.listener waiting)
  · split
    · exact nearer_of_listener rfl parked (lower w.listener.requestStop waiting)
    · exact nearer_of_listener rfl parked (lower w.listener waiting)
  · exact nearer_of_listener rfl parked (lower w.listener waiting)

/-- Serving a call brings a run nearer to its end. -/
theorem nearer_serve (o : Outside σ) (w : ListenerWorld σ) (parked : w.parked = none)
    {request : Request} (asked : w.listener.request? = some request) :
    Nearer (w.serve o request) w := by
  unfold Listener.request? at asked
  cases stage : w.listener.stage with
  | ended => simp [stage] at asked
  | polling =>
    simp only [stage, Option.some.injEq] at asked
    subst asked
    exact nearer_servePoll o w _ parked stage
  | acting due rest =>
    simp only [stage, Option.some.injEq] at asked
    subst asked
    exact nearer_serveAction o w parked stage
  | waiting =>
    simp only [stage, Option.some.injEq] at asked
    subst asked
    exact nearer_serveWait o w _ parked stage
  | opening =>
    simp only [stage, Option.some.injEq] at asked
    subst asked
    exact nearer_turnOut o w.plan.opens rfl (by simp only [ChannelPlan.size]; omega) parked
      (by simp [Listener.resume, stage, stageRank])
  | subscribing =>
    simp only [stage, Option.some.injEq] at asked
    subst asked
    exact nearer_turnOut o w.plan.subscriptions rfl (by simp only [ChannelPlan.size]; omega)
      parked (by simp [Listener.resume, Listener.connected, stage, stageRank])
  | closing | leaving =>
    simp only [stage, Option.some.injEq] at asked
    subst asked
    exact nearer_turnOut o w.plan.closes rfl (by simp only [ChannelPlan.size]; omega) parked
      (by simp [Listener.resume, stage, stageRank])

/-- Let the listener go on until it rests, is blocked or has ended. -/
def run (o : Outside σ) (w : ListenerWorld σ) : ListenerWorld σ :=
  match parked : w.parked, asked : w.listener.request? with
  | none, some request =>
    have _ := nearer_serve o w parked asked
    run o (w.serve o request)
  | _, _ => w
termination_by (w.plan.size, w.rank)
decreasing_by
  rcases ‹Nearer _ _› with h | ⟨h, r⟩
  · exact Prod.Lex.left _ _ h
  · rw [h]; exact Prod.Lex.right _ r

end ListenerWorld

end Scenario

end Paywatch
