import Mathlib.Tactic
import Paywatch.Link.Basic
import Paywatch.Proofs.Run

/-!
# What polling hands over

The driver buffers what arrives on a connection, also between two polls.  A poll
that finds the connection readable hands over all that was buffered and all that it
reads, and one that times out does not look at the buffer.  So nothing is lost,
handed over twice or out of order, but what was buffered before a time-out waits for
a poll that finds the connection readable.
-/

namespace Paywatch

def Arrival.handed (a : Arrival) (now : Double) : Notification :=
  ⟨a.channel, a.payload, now, a.pid⟩

def Notification.arrival (n : Notification) : Arrival :=
  ⟨n.pid, n.channel, n.payload⟩

theorem map_arrival_handed (arrivals : List Arrival) (now : Double) :
    (arrivals.map fun a => a.handed now).map Notification.arrival = arrivals := by
  rw [List.map_map]
  exact List.map_id arrivals

namespace PollCourse

/-- What arrives while the link polls, whether it is read or not. -/
def arrived (course : PollCourse) : List Arrival :=
  course.arriving.toOption.getD []

/-- What the driver reads while the link polls. -/
def read (course : PollCourse) : List Arrival :=
  match course.readable with
  | .ok true => course.arrived
  | _ => []

end PollCourse

namespace Link

open Run

/-- The link holds the connection with a number, which is open and has buffered some arrivals. -/
structure Holds (l : Link) (number : Nat) (buffered : List Arrival) : Prop where
  held : l.held = some number
  connection : ∃ c, l.connections[number]? = some c ∧ c.isClosed = false ∧ c.buffer = buffered

/--
If the link polls and is given an answer, that is all that was buffered and then all
that arrives, each once and with its channel, payload and process, and nothing stays
buffered.
-/
def HandsOver (l : Link) (number : Nat) (buffered : List Arrival) (course : PollCourse)
    (timeout : Double) : Prop :=
  ∀ ns, outcome (poll course timeout) l = .ok ns →
    ns = (buffered ++ course.arrived).map (fun a => a.handed course.now) ∧
      (after (poll course timeout) l).Holds number []

variable {l : Link} {number : Nat} {buffered left : List Arrival} {course : PollCourse}

/-! ## One poll -/

theorem outcome_require (holds : l.Holds number buffered) : outcome require l = .ok number := by
  obtain ⟨held, c, found, opened, -⟩ := holds
  simp [require, held, found, opened]

theorem after_require (l : Link) : after require l = l := by
  simp only [require, after_bind, outcome_get, after_get]
  split
  · rfl
  · split
    · rfl
    · split <;> rfl

/-- An event leaves the connections as they are. -/
theorem Holds.note (holds : l.Holds number buffered) (event : LinkEvent) :
    (after (note event) l).Holds number buffered :=
  ⟨holds.held, holds.connection⟩

/-- What a connection has buffered may change while it is open. -/
theorem Holds.change (holds : l.Holds number buffered) (buffer : List Arrival → List Arrival) :
    (after (change number fun c => { c with buffer := buffer c.buffer }) l).Holds number
      (buffer buffered) := by
  obtain ⟨held, c, found, opened, rfl⟩ := holds
  refine ⟨held, { c with buffer := buffer c.buffer }, ?_, opened, rfl⟩
  simp [Link.change, found]

/-- All that a poll can come to: what it answers, and what stays buffered. -/
inductive Polls (buffered : List Arrival) (course : PollCourse) :
    Except Failure (List Notification) → List Arrival → Prop
  | broken (failure : Failure) (readable : course.readable = .error failure) :
      Polls buffered course (.error (pollFailure failure)) buffered
  | timedOut (readable : course.readable = .ok false) : Polls buffered course (.ok []) buffered
  | unread (failure : Failure) (readable : course.readable = .ok true)
      (arriving : course.arriving = .error failure) :
      Polls buffered course (.error (pollFailure failure)) buffered
  | drained (arrivals : List Arrival) (readable : course.readable = .ok true)
      (arriving : course.arriving = .ok arrivals) :
      Polls buffered course (.ok ((buffered ++ arrivals).map fun a => a.handed course.now)) []

theorem drain_spec (holds : l.Holds number buffered) (now : Double) :
    outcome (drain number now) l = .ok (buffered.map fun a => a.handed now) ∧
      (after (drain number now) l).Holds number [] := by
  refine ⟨?_, holds.change fun _ => []⟩
  obtain ⟨held, c, found, opened, rfl⟩ := holds
  simp [drain, Link.change, found, Arrival.handed]

/-- What a poll does once the link has waited for the connection. -/
theorem polls_poll (holds : l.Holds number buffered) (course : PollCourse) (timeout : Double) :
    ∃ left, Polls buffered course (outcome (poll course timeout) l) left ∧
      (after (poll course timeout) l).Holds number left := by
  have selected := holds.note (.selected number timeout)
  have polled := selected.note (.polled number)
  have noted (event : LinkEvent) (l : Link) : outcome (note event) l = .ok () := rfl
  simp only [poll, outcome_bind, after_bind, outcome_require holds, after_require, noted]
  cases readable : course.readable with
  | error failure => exact ⟨buffered, .broken failure readable, selected⟩
  | ok seen =>
    cases seen with
    | false => exact ⟨buffered, .timedOut readable, selected⟩
    | true =>
      simp only [outcome_bind, after_bind, noted]
      cases arriving : course.arriving with
      | error failure => exact ⟨buffered, .unread failure readable arriving, polled⟩
      | ok arrivals =>
        have read := polled.change (· ++ arrivals)
        obtain ⟨answer, emptied⟩ := drain_spec read course.now
        simp only [outcome_bind, after_bind]
        refine ⟨[], ?_, emptied⟩
        exact answer ▸ .drained arrivals readable arriving

/-- What is handed over and what stays buffered is what was buffered and what is read. -/
theorem Polls.conserved {answer : Except Failure (List Notification)}
    (polls : Polls buffered course answer left) :
    (answer.toOption.getD []).map Notification.arrival ++ left = buffered ++ course.read := by
  cases polls with
  | broken failure readable | timedOut readable => simp [PollCourse.read, readable, Except.toOption]
  | unread failure readable arriving =>
    simp [PollCourse.read, PollCourse.arrived, readable, arriving, Except.toOption]
  | drained arrivals readable arriving =>
    have read : course.read = arrivals := by
      simp [PollCourse.read, PollCourse.arrived, readable, arriving, Except.toOption]
    rw [read]
    exact (List.append_nil _).trans (map_arrival_handed _ _)

/-- A poll that finds the connection readable hands over what was buffered and what arrives. -/
theorem poll_of_readable (holds : l.Holds number buffered) (timeout : Double)
    {arrivals : List Arrival} (readable : course.readable = .ok true)
    (arriving : course.arriving = .ok arrivals) :
    outcome (poll course timeout) l =
        .ok ((buffered ++ arrivals).map fun a => a.handed course.now) ∧
      (after (poll course timeout) l).Holds number [] := by
  obtain ⟨left, polls, polled⟩ := polls_poll holds course timeout
  generalize outcome (poll course timeout) l = answer at polls ⊢
  cases polls with
  | broken failure broken => rw [readable] at broken; cases broken
  | timedOut timedOut => rw [readable] at timedOut; cases timedOut
  | unread failure _ unread => rw [arriving] at unread; cases unread
  | drained arrivals' _ arriving' =>
    cases arriving.symm.trans arriving'
    exact ⟨rfl, polled⟩

/-- A poll that times out hands over nothing, and what was buffered stays so. -/
theorem poll_of_timedOut (holds : l.Holds number buffered) (timeout : Double)
    (timedOut : course.readable = .ok false) :
    outcome (poll course timeout) l = .ok [] ∧
      (after (poll course timeout) l).Holds number buffered := by
  obtain ⟨left, polls, polled⟩ := polls_poll holds course timeout
  generalize outcome (poll course timeout) l = answer at polls ⊢
  cases polls with
  | broken failure broken => rw [timedOut] at broken; cases broken
  | timedOut => exact ⟨rfl, polled⟩
  | unread failure readable => rw [timedOut] at readable; cases readable
  | drained arrivals readable => rw [timedOut] at readable; cases readable

theorem handsOver_iff (holds : l.Holds number buffered) (course : PollCourse) (timeout : Double) :
    l.HandsOver number buffered course timeout ↔
      course.readable ≠ .ok false ∨ buffered ++ course.arrived = [] := by
  constructor
  · intro handsOver
    refine or_iff_not_imp_left.mpr fun timedOut => ?_
    obtain ⟨answer, -⟩ := poll_of_timedOut holds timeout (not_not.mp timedOut)
    exact List.map_eq_nil_iff.mp (handsOver [] answer).1.symm
  · intro looked ns answer
    obtain ⟨left, polls, polled⟩ := polls_poll holds course timeout
    rw [answer] at polls
    cases polls with
    | timedOut timedOut =>
      have nothing := looked.resolve_left (not_not.mpr timedOut)
      obtain ⟨rfl, -⟩ := List.append_eq_nil_iff.mp nothing
      exact ⟨by rw [nothing]; rfl, polled⟩
    | drained arrivals readable arriving =>
      have arrived : course.arrived = arrivals := by
        simp [PollCourse.arrived, arriving, Except.toOption]
      rw [arrived]
      exact ⟨rfl, polled⟩

/-! ## Many polls -/

/-- A connection that is open stays open and keeps its buffer while the link subscribes. -/
theorem Holds.subscribeFrom (holds : l.Holds number buffered) (fault : Option StatementFault)
    (executed : Nat) (channels : List String) :
    (after (subscribeFrom number fault executed channels) l).Holds number buffered := by
  induction channels generalizing l executed with
  | nil => exact holds
  | cons channel channels ih =>
    rw [Link.subscribeFrom]
    split
    · split <;> exact holds
    · exact ih ((holds.note _).note _) (executed + 1)

theorem Holds.subscribe (holds : l.Holds number buffered) (fault : Option StatementFault)
    (channels : List String) : (after (subscribe fault channels) l).Holds number buffered := by
  simp only [Link.subscribe, after_bind, outcome_require holds, after_require]
  exact holds.subscribeFrom fault 0 channels

end Link

/-- What happens: the driver buffers what arrives, or the link subscribes or polls. -/
inductive LinkIncident where
  | received (arrivals : List Arrival)
  | subscribed (channels : List String) (fault : Option StatementFault)
  | polled (course : PollCourse) (timeout : Double)

def LinkIncident.read : LinkIncident → List Arrival
  | .received arrivals => arrivals
  | .subscribed .. => []
  | .polled course _ => course.read

namespace Link

open Run

variable {l : Link} {number : Nat} {buffered : List Arrival}

def undergo (l : Link) : LinkIncident → Link
  | .received arrivals =>
    match l.held with
    | none => l
    | some number => after (change number fun c => { c with buffer := c.buffer ++ arrivals }) l
  | .subscribed channels fault => after (subscribe fault channels) l
  | .polled course timeout => after (poll course timeout) l

def given (l : Link) : LinkIncident → List Notification
  | .polled course timeout => (outcome (poll course timeout) l).toOption.getD []
  | _ => []

def throughout (l : Link) (incidents : List LinkIncident) : Link :=
  incidents.foldl undergo l

def allGiven (l : Link) : List LinkIncident → List Notification
  | [] => []
  | incident :: incidents => l.given incident ++ (l.undergo incident).allGiven incidents

theorem Holds.undergo (holds : l.Holds number buffered) (incident : LinkIncident) :
    ∃ left, (l.undergo incident).Holds number left ∧
      (l.given incident).map Notification.arrival ++ left = buffered ++ incident.read := by
  cases incident with
  | received arrivals =>
    refine ⟨buffered ++ arrivals, ?_, rfl⟩
    simp only [Link.undergo, holds.held]
    exact holds.change (· ++ arrivals)
  | subscribed channels fault =>
    exact ⟨buffered, holds.subscribe fault channels, (List.append_nil buffered).symm⟩
  | polled course timeout =>
    obtain ⟨left, polls, holds'⟩ := polls_poll holds course timeout
    exact ⟨left, holds', polls.conserved⟩

/-- Over any incidents what is handed over and what stays buffered is what the driver has read. -/
theorem Holds.throughout (holds : l.Holds number buffered) (incidents : List LinkIncident) :
    ∃ left, (l.throughout incidents).Holds number left ∧
      (l.allGiven incidents).map Notification.arrival ++ left =
        buffered ++ incidents.flatMap LinkIncident.read := by
  induction incidents generalizing l buffered with
  | nil => exact ⟨buffered, holds, (List.append_nil buffered).symm⟩
  | cons incident incidents ih =>
    obtain ⟨between, holds', first⟩ := holds.undergo incident
    obtain ⟨left, holds'', later⟩ := ih holds'
    refine ⟨left, holds'', ?_⟩
    rw [allGiven, List.map_append, List.append_assoc, later, ← List.append_assoc, first,
      List.append_assoc, List.flatMap_cons]

/--
Over any incidents nothing that the driver has read is lost, handed over twice or out
of order.  Then a poll that finds the connection readable hands over all that is still
buffered and all that it reads, and one that times out hands over nothing and leaves
what is buffered.  So a poll hands over everything unless it times out while something
is buffered or arrives.
-/
theorem handed_over_unless_timedOut (holds : l.Holds number buffered)
    (incidents : List LinkIncident) :
    ∃ left, (l.throughout incidents).Holds number left ∧
      (l.allGiven incidents).map Notification.arrival ++ left =
        buffered ++ incidents.flatMap LinkIncident.read ∧
      ∀ course timeout,
        let answer := outcome (poll course timeout) (l.throughout incidents)
        let polled := after (poll course timeout) (l.throughout incidents)
        (∀ arrivals, course.readable = .ok true → course.arriving = .ok arrivals →
          answer = .ok ((left ++ arrivals).map fun a => a.handed course.now) ∧
            polled.Holds number []) ∧
        (course.readable = .ok false → answer = .ok [] ∧ polled.Holds number left) ∧
        ((l.throughout incidents).HandsOver number left course timeout ↔
          course.readable ≠ .ok false ∨ left ++ course.arrived = []) := by
  obtain ⟨left, holds', conserved⟩ := holds.throughout incidents
  exact ⟨left, holds', conserved, fun course timeout =>
    ⟨fun _ => poll_of_readable holds' timeout, poll_of_timedOut holds' timeout,
      handsOver_iff holds' course timeout⟩⟩

/-! ### An address that is announced while the link subscribes -/

def announced : Arrival :=
  ⟨some 101, "bitcoin", some "1ABCxJ5Lj1hrSy7WQ1CZYGv4iqYkB1DvQ3"⟩

def opened : Link :=
  after (openWith none) {}

/-- The link subscribes, and an announcement arrives on the connection meanwhile. -/
def subscribing : List LinkIncident :=
  [.subscribed ["bitcoin"] none, .received [announced]]

def silent : PollCourse where
  readable := .ok false
  arriving := .ok []
  now := Double.ofInt 1500000000

/-- The announcement arrives once more, and makes the connection readable. -/
def noticed : PollCourse where
  readable := .ok true
  arriving := .ok [announced]
  now := Double.ofInt 1500000000

theorem opened_holds : opened.Holds 0 [] :=
  ⟨rfl, {}, rfl, rfl, rfl⟩

/-- The announcement is handed over with the next one only, after two time-outs. -/
theorem handed_over_unless_timedOut_subscribing :
    let incidents :=
      subscribing ++ [.polled silent (Double.ofInt 1), .polled silent (Double.ofInt 1)]
    opened.allGiven incidents = [] ∧
      outcome (poll noticed (Double.ofInt 1)) (opened.throughout incidents) =
        .ok [announced.handed noticed.now, announced.handed noticed.now] := by
  intro incidents
  obtain ⟨left, -, conserved, polls⟩ := handed_over_unless_timedOut opened_holds incidents
  have given : opened.allGiven incidents = [] := rfl
  rw [given] at conserved
  obtain rfl : left = [announced] := conserved
  exact ⟨given, ((polls noticed (Double.ofInt 1)).1 [announced] rfl rfl).1⟩

/-- What was buffered while the link subscribed is withheld by a poll that times out. -/
theorem not_handsOver_timedOut :
    (opened.throughout subscribing).Holds 0 [announced] ∧
      ¬ (opened.throughout subscribing).HandsOver 0 [announced] silent (Double.ofInt 1) := by
  have withheld : (opened.throughout subscribing).Holds 0 [announced] :=
    ⟨rfl, { buffer := [announced] }, rfl, rfl, rfl⟩
  refine ⟨withheld, fun handsOver => ?_⟩
  rcases (handsOver_iff withheld silent _).mp handsOver with readable | nothing
  · exact readable rfl
  · cases nothing

end Link

end Paywatch
