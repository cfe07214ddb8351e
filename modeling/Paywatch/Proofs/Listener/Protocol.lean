import Paywatch.Proofs.Listener.Course

/-!
# The order of the calls on the channel

A run uses its channel in cycles.  A cycle opens the connection, subscribes and
polls until one of these fails, and then closes the connection; so a poll is only
made on a connection that has been opened and subscribed to since the last
failure.  Nothing ends a run but a stop.
-/

namespace Paywatch

def Call.onChannel (c : Call) : Bool :=
  match c.request with
  | .wait _ | .act _ => false
  | _ => true

def channelCalls (calls : List Call) : List Call :=
  calls.filter Call.onChannel

theorem channelCalls_append (calls later : List Call) :
    channelCalls (calls ++ later) = channelCalls calls ++ channelCalls later :=
  List.filter_append calls later

/-! ## Connections -/

/-- A connection is opened, subscribed to all channels, and polled. -/
def connection (options : ListenerOptions) (opened subscribed : List Notification)
    (batches : List (List Notification)) : List Call :=
  [⟨.openConnection, .ok opened⟩, ⟨.subscribe options.channels, .ok subscribed⟩] ++
    batches.map fun batch => ⟨.poll options.pollTimeout, .ok batch⟩

/-- A connection that cannot be opened, cannot be subscribed to, or fails at a later poll. -/
inductive FailingCycle (options : ListenerOptions) : List Call → Prop
  | unopened (failure : Failure) (closing : Except Failure (List Notification)) :
      FailingCycle options [⟨.openConnection, .error failure⟩, ⟨.close, closing⟩]
  | unsubscribed (opened : List Notification) (failure : Failure)
      (closing : Except Failure (List Notification)) :
      FailingCycle options
        [⟨.openConnection, .ok opened⟩, ⟨.subscribe options.channels, .error failure⟩,
          ⟨.close, closing⟩]
  | lost (opened subscribed : List Notification) (batches : List (List Notification))
      (failure : Failure) (closing : Except Failure (List Notification)) :
      FailingCycle options
        (connection options opened subscribed batches ++
          [⟨.poll options.pollTimeout, .error failure⟩, ⟨.close, closing⟩])

theorem connection_poll (options : ListenerOptions) (opened subscribed : List Notification)
    (batches : List (List Notification)) (batch : List Notification) :
    connection options opened subscribed batches ++ [⟨.poll options.pollTimeout, .ok batch⟩] =
      connection options opened subscribed (batches ++ [batch]) := by
  simp [connection]

/-! ## The cycle of a stage -/

inductive Current (options : ListenerOptions) : Stage → List Call → Prop
  | opening : Current options .opening []
  | subscribing (opened : List Notification) :
      Current options .subscribing [⟨.openConnection, .ok opened⟩]
  | polling (opened subscribed : List Notification) (batches : List (List Notification)) :
      Current options .polling (connection options opened subscribed batches)
  | acting (due : DueAction) (rest opened subscribed : List Notification)
      (batches : List (List Notification)) (polled : batches ≠ []) :
      Current options (.acting due rest) (connection options opened subscribed batches)
  | closing (calls : List Call)
      (failed : ∀ closing, FailingCycle options (calls ++ [⟨.close, closing⟩])) :
      Current options .closing calls
  | waiting : Current options .waiting []
  | unconnected : Current options .leaving []
  | leaving (opened subscribed : List Notification) (batches : List (List Notification))
      (polled : batches ≠ []) :
      Current options .leaving (connection options opened subscribed batches)

/-- Is a failure counted already whose cycle is not closed yet? -/
def Stage.failing : Stage → Nat
  | .closing => 1
  | _ => 0

namespace Listener

/-- A course on its way: failing cycles, then the current one. -/
structure Midway (l : Listener) (calls : List Call) (m : Listener) (cycles : List (List Call))
    (current : List Call) : Prop where
  options : m.options = l.options
  calls : channelCalls calls = cycles.flatten ++ current
  failing : ∀ cycle ∈ cycles, FailingCycle l.options cycle
  current : Current l.options m.stage current
  reconnects : m.reconnects = l.reconnects + cycles.length + m.stage.failing
  noticed : m.stage = .leaving → m.stopRequested = true

/--
A course at its end: failing cycles, then nothing or a connection that has not
failed, then one last call that closes it.
-/
structure Completed (l : Listener) (calls : List Call) (broken : Option Failure) (m : Listener)
    (cycles : List (List Call)) (last : List Call) (closing : Except Failure (List Notification)) :
    Prop where
  calls : channelCalls calls = cycles.flatten ++ last ++ [⟨.close, closing⟩]
  failing : ∀ cycle ∈ cycles, FailingCycle l.options cycle
  last : last = [] ∨ ∃ opened subscribed batches,
    batches ≠ [] ∧ last = connection l.options opened subscribed batches
  reconnects : m.reconnects = l.reconnects + cycles.length
  stopped : m.stopRequested = true
  broken : broken = failure? closing

variable {l m m' : Listener} {calls current current' : List Call} {cycles : List (List Call)}

/-- One more call carries the current cycle on. -/
structure Carries (m : Listener) (current : List Call) (c : Call) (m' : Listener) : Prop where
  shape : Current m.options m'.stage (current ++ channelCalls [c])
  options : m'.options = m.options
  reconnects : m'.reconnects = m.reconnects + m'.stage.failing
  noticed : m'.stage = .leaving → m'.stopRequested = true

/-- A call that fails brings the cycle to its closing. -/
theorem Carries.losing {c : Call}
    (failed : ∀ closing,
      FailingCycle m.options (current ++ channelCalls [c] ++ [⟨.close, closing⟩])) :
    m.Carries current c m.losing :=
  ⟨.closing _ failed, rfl, rfl, fun leaving => nomatch leaving⟩

/-- After a batch the cycle goes on, or the listener leaves. -/
theorem Dispatches.carries {batch : List Notification} {counted : Listener}
    (dispatches : counted.Dispatches batch m') (options : counted.options = m.options)
    (reconnects : counted.reconnects = m.reconnects) {opened subscribed : List Notification}
    {batches : List (List Notification)} (polled : batches ≠ []) {c : Call}
    (called : current ++ channelCalls [c] = connection m.options opened subscribed batches) :
    m.Carries current c m' := by
  cases dispatches with
  | left => exact ⟨called ▸ .leaving _ _ _ polled, options, reconnects, fun _ => rfl⟩
  | through =>
    exact ⟨called ▸ .polling _ _ _, options, reconnects, fun leaving => nomatch leaving⟩
  | due =>
    exact ⟨called ▸ .acting _ _ _ _ _ polled, options, reconnects, fun leaving => nomatch leaving⟩

/-- Every call but the one that closes the connection carries the current cycle on. -/
theorem Goes.carries {c : Call} {broken : Option Failure} (goes : m.Goes c broken m')
    (shape : Current m.options m.stage current) (staying : m.stage ≠ .leaving)
    (connected : m.stage ≠ .closing) : broken = none ∧ m.Carries current c m' := by
  cases goes with
  | opened opening answer =>
    rw [opening] at shape
    cases shape
    exact ⟨rfl, .subscribing answer, rfl, rfl, fun leaving => nomatch leaving⟩
  | unopened opening failure =>
    rw [opening] at shape
    cases shape
    exact ⟨rfl, .losing fun closing => .unopened failure closing⟩
  | subscribed subscribing answer =>
    rw [subscribing] at shape
    cases shape with
    | subscribing opened =>
      exact ⟨rfl, .polling opened answer [], rfl, rfl, fun leaving => nomatch leaving⟩
  | unsubscribed subscribing failure =>
    rw [subscribing] at shape
    cases shape with
    | subscribing opened =>
      exact ⟨rfl, .losing fun closing => .unsubscribed opened failure closing⟩
  | polled polling batch dispatches =>
    rw [polling] at shape
    cases shape with
    | polling opened subscribed batches =>
      have polled : batches ++ [batch] ≠ [] := by simp
      exact ⟨rfl, dispatches.carries (m := m) rfl rfl polled (connection_poll ..)⟩
  | lost polling failure =>
    rw [polling] at shape
    cases shape with
    | polling opened subscribed batches =>
      refine ⟨rfl, .losing fun closing => ?_⟩
      rw [List.append_assoc]
      exact .lost opened subscribed batches failure closing
  | @acted due rest acting outcome m' dispatches =>
    rw [acting] at shape
    cases shape with
    | acting due rest opened subscribed batches polled =>
      have counted : (m.counting outcome).options = m.options ∧
          (m.counting outcome).reconnects = m.reconnects := by
        cases outcome <;> exact ⟨rfl, rfl⟩
      exact ⟨rfl, dispatches.carries counted.1 counted.2 polled (List.append_nil _)⟩
  | waited waiting =>
    rw [waiting] at shape
    cases shape
    exact ⟨rfl, .opening, rfl, rfl, fun leaving => nomatch leaving⟩
  | gaveUp waiting =>
    rw [waiting] at shape
    cases shape
    exact ⟨rfl, .unconnected, rfl, rfl, fun _ => rfl⟩
  | closed closing => exact absurd closing connected
  | left leaving => exact absurd leaving staying

/-- One more call of the current cycle. -/
theorem Midway.carry (midway : Midway l calls m cycles current) {c : Call}
    (carries : m.Carries current c m') (connected : m.stage ≠ .closing) :
    Midway l (calls ++ [c]) m' cycles (current ++ channelCalls [c]) where
  options := carries.options.trans midway.options
  calls := by rw [channelCalls_append, midway.calls, List.append_assoc]
  failing := midway.failing
  current := midway.options ▸ carries.shape
  reconnects := by
    have unfailing : m.stage.failing = 0 := by
      cases stage : m.stage with
      | closing => exact absurd stage connected
      | _ => rfl
    rw [carries.reconnects, midway.reconnects, unfailing, Nat.add_zero]
  noticed := carries.noticed

/-- The call that closes a connection that has failed completes its cycle. -/
theorem Midway.close (midway : Midway l calls m cycles current) (closing : m.stage = .closing)
    (outcome : Except Failure (List Notification)) :
    Midway l (calls ++ [⟨.close, outcome⟩]) { m with stage := .waiting }
      (cycles ++ [current ++ [⟨.close, outcome⟩]]) [] where
  options := midway.options
  calls := by
    rw [channelCalls_append, midway.calls]
    simp [channelCalls, Call.onChannel]
  failing := by
    have shape := midway.current
    rw [closing] at shape
    cases shape with
    | closing calls failed =>
      intro cycle inside
      rcases List.mem_append.mp inside with before | here
      · exact midway.failing cycle before
      · rw [List.mem_singleton.mp here]
        exact failed outcome
  current := .waiting
  reconnects := by
    have counted := midway.reconnects
    rw [closing] at counted
    rw [List.length_append, ← Nat.add_assoc]
    exact counted
  noticed := fun leaving => nomatch leaving

/-- One call of a listener that does not end. -/
theorem Midway.goes (midway : Midway l calls m cycles current) {c : Call}
    {broken : Option Failure} (goes : m.Goes c broken m') (staying : m.stage ≠ .leaving) :
    broken = none ∧ ∃ cycles' current', Midway l (calls ++ [c]) m' cycles' current' := by
  by_cases closing : m.stage = .closing
  · cases goes with
    | closed _ outcome => exact ⟨rfl, _, _, midway.close closing outcome⟩
    | opened stage | unopened stage | subscribed stage | unsubscribed stage | polled stage
    | lost stage | acted stage | waited stage | gaveUp stage | left stage =>
      rw [closing] at stage
      cases stage
  · obtain ⟨whole, carries⟩ := goes.carries (midway.options ▸ midway.current) staying closing
    exact ⟨whole, cycles, _, midway.carry carries closing⟩

/-- The last call. -/
theorem Midway.leaves (midway : Midway l calls m cycles current) {c : Call}
    {broken : Option Failure} (goes : m.Goes c broken m') (leaving : m.stage = .leaving) :
    m'.stage = .ended ∧ Completed l (calls ++ [c]) broken m' cycles current c.outcome := by
  have shape := midway.current
  rw [leaving] at shape
  cases goes with
  | left _ outcome =>
    refine ⟨rfl, ?_, midway.failing, ?_, ?_, midway.noticed leaving, rfl⟩
    · rw [channelCalls_append, midway.calls]
      rfl
    · cases shape with
      | unconnected => exact .inl rfl
      | leaving opened subscribed batches polled => exact .inr ⟨_, _, _, polled, rfl⟩
    · have counted := midway.reconnects
      rw [leaving] at counted
      exact counted
  | opened stage | unopened stage | subscribed stage | unsubscribed stage | polled stage
  | lost stage | acted stage | closed stage | waited stage | gaveUp stage =>
    rw [leaving] at stage
    cases stage

theorem Midway.running (midway : Midway l calls m cycles current) : m.stage ≠ .ended := by
  intro ended
  have shape := midway.current
  rw [ended] at shape
  cases shape

end Listener

end Paywatch
