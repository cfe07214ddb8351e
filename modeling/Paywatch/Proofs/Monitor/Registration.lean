import Paywatch.Monitor.Basic
import Paywatch.Proofs.Feed.Earliest
import Paywatch.Proofs.Listener.Dispatch
import Paywatch.Proofs.Run

/-!
# From notifications to watched addresses

The monitor watches the addresses that are announced for bitcoin, each since the
earliest whole second at which it was, and no others.  In which order, how often
and in which batches they are announced makes no difference, and neither does
anything that is announced for ether or on a channel that is not bound.
-/

namespace Paywatch

namespace Monitor

variable {ω : Type}

/-! ## What the actions do -/

def asked? (due : DueAction) : Option (String × Int) :=
  if due.notification.channel = Currency.bitcoin.text then
    (due.notification.payload.filter (!·.isEmpty)).map fun address => (address, due.seconds)
  else none

def watchedAfter (feed : Feed Callback) (due : DueAction) : List Watched :=
  match asked? due with
  | some (address, since) => (feed.watch ⟨address, since, Feed.defaultCurrency⟩).1.watched
  | none => feed.watched

/-- No action fails, and none but those for bitcoin change what is watched. -/
theorem act_spec (due : DueAction) (t : Tracking ω) :
    Run.outcome (act due) t = .ok () ∧
      (Run.after (act due) t).feed.watched = watchedAfter t.feed due := by
  unfold act watchedAfter asked?
  by_cases bitcoin : due.notification.channel = Currency.bitcoin.text
  · rw [bitcoin, Currency.ofText?_text, if_pos rfl]
    dsimp only
    unfold bitcoinAnnounced
    cases due.notification.payload.filter (!·.isEmpty) with
    | none => exact ⟨rfl, rfl⟩
    | some address => exact ⟨rfl, rfl⟩
  · rw [if_neg bitcoin]
    cases currency : Currency.ofText? due.notification.channel with
    | none => exact ⟨rfl, rfl⟩
    | some currency' =>
      cases currency' with
      | bitcoin =>
        have named := List.find?_some currency
        exact absurd (beq_iff_eq.mp named).symm bitcoin
      | ether =>
        dsimp only
        unfold etherAnnounced
        cases due.notification.payload.filter (!·.isEmpty) with
        | none => exact ⟨rfl, rfl⟩
        | some address => exact ⟨rfl, rfl⟩

/-! ## The tracker beside the listener -/

/--
The tracker after calls of a listener.  An action turns out as it does with the
tracker as it is then; between two calls the tracker may do anything else, but
watch other addresses.
-/
inductive Serves (t : Tracking ω) : List Call → Tracking ω → Prop
  | begun : Serves t [] t
  | called {calls : List Call} {u : Tracking ω} (before : Serves t calls u) (due : DueAction)
      {outcome : Except Failure (List Notification)}
      (returns : outcome.map (fun _ => ()) = Run.outcome (act due) u) :
      Serves t (calls ++ [⟨.act due, outcome⟩]) (Run.after (act due) u)
  | apart {calls : List Call} {u : Tracking ω} (before : Serves t calls u) {c : Call}
      (unacted : c.acted? = none) : Serves t (calls ++ [c]) u
  | beside {calls : List Call} {u : Tracking ω} (before : Serves t calls u) {v : Tracking ω}
      (same : v.feed.watched = u.feed.watched) : Serves t calls v

variable {t u : Tracking ω} {calls : List Call}

/-- All that is watched is what the actions asked for, and no action failed. -/
theorem Serves.earliest (serves : Serves t calls u) (empty : t.feed.watched = []) :
    Feed.Earliest ((acted calls).filterMap asked?) u.feed.watched ∧ raised calls = 0 := by
  induction serves with
  | begun =>
    rw [empty]
    exact ⟨Feed.earliest_nil, rfl⟩
  | @called calls u before due outcome returns ih =>
    obtain ⟨earliest, unraised⟩ := ih
    obtain ⟨ok, watched⟩ := act_spec due u
    have unfailed : raised [⟨.act due, outcome⟩] = 0 := by
      rw [ok] at returns
      cases outcome with
      | ok answer => rfl
      | error failure => cases returns
    refine ⟨?_, by rw [raised_append, unraised, unfailed]⟩
    rw [acted_append, List.filterMap_append, watched, watchedAfter]
    change Feed.Earliest (_ ++ [due].filterMap asked?) _
    cases new : asked? due with
    | none => simpa [new] using earliest
    | some request => simpa [new] using earliest.watch request.1 request.2
  | @apart calls u before c unacted ih =>
    have idle : acted [c] = [] := by simp [acted, unacted]
    have unfailed : raised [c] = 0 := by simp [raised, unacted]
    rw [acted_append, idle, List.append_nil, raised_append, unfailed]
    exact ih
  | beside before same ih =>
    rw [same]
    exact ih

def serve (t : Tracking ω) (c : Call) : Tracking ω :=
  match c.acted? with
  | some due => Run.after (act due) t
  | none => t

/-- Whatever a listener calls, a tracker serves it, as long as its actions turn out well. -/
theorem serves_foldl (t : Tracking ω) {calls : List Call}
    (returning : ∀ c ∈ calls, c.acted?.isSome → c.isFailed = false) :
    Serves t calls (calls.foldl serve t) := by
  induction calls using List.reverseRecOn with
  | nil => exact .begun
  | append_singleton calls c ih =>
    have before := ih fun c' inside => returning c' (List.mem_append_left _ inside)
    rw [List.foldl_concat]
    have turned := returning c (List.mem_append_right _ List.mem_cons_self)
    unfold serve
    obtain ⟨request, outcome⟩ := c
    cases request with
    | act due =>
      refine before.called due ?_
      rw [(act_spec due _).1]
      cases outcome with
      | ok answer => rfl
      | error failure => exact absurd (turned rfl) Bool.noConfusion
    | _ => exact before.apart rfl

end Monitor

/-! ## Runs of a monitor -/

/--
A monitor that was started with nothing watched and that nobody has asked to stop:
its listener as it was created, started and is now, the calls that it has made,
and the tracker.
-/
structure MonitorRun (ω : Type) where
  settings : Settings
  poll : Option Double := none
  initial : Option Double := none
  greatest : Option Double := none
  created : Listener
  started : Listener
  record : LogRecord
  calls : List Call
  broken : Option Failure
  listener : Listener
  before : Tracking ω
  tracker : Tracking ω
  creates :
    Listener.create (Monitor.listenerOptions settings poll initial greatest) = .ok created
  starts : created.start = .ok (started, record)
  course : started.Course calls broken listener
  unstopped : listener.stopRequested = false
  unwatched : before.feed.watched = []
  serves : Monitor.Serves before calls tracker

/-- The whole seconds at which an address was announced for bitcoin. -/
def announcedAt (notifications : List Notification) (address : String) : Set Int :=
  {since | ∃ n ∈ notifications, n.channel = Currency.bitcoin.text ∧ n.payload = some address ∧
    ∃ time, n.receivedAt.value? = some time ∧ since = Double.towardZero time}

/-- Is the notification for bitcoin or ether, and its time not finite? -/
def Notification.IsUntimely (n : Notification) : Prop :=
  n.channel ∈ Currency.all.map (·.text) ∧ n.receivedAt.value? = none

instance (n : Notification) : Decidable n.IsUntimely :=
  inferInstanceAs (Decidable (_ ∧ _))

namespace MonitorRun

variable {ω : Type} (run : MonitorRun ω)

/-- The addresses that are watched now. -/
def watched : List Watched :=
  run.tracker.feed.watched

/-- The notifications dealt with so far: all that were polled, but the rest of the last batch. -/
def handled : List Notification :=
  (polled run.calls).take ((polled run.calls).length - run.listener.unhandled.length)

theorem started_spec : run.started.stage = .opening ∧ run.started.failed = 0 ∧
    run.started.options.channels = Currency.all.map (·.text) := by
  have creates := run.creates
  unfold Listener.create at creates
  split at creates
  · cases creates
  · rw [Listener.start_eq run.starts, ← Except.ok.inj creates]
    exact ⟨rfl, rfl, rfl⟩

/-- The listener's accounts are those of the notifications dealt with. -/
theorem exact : Listener.Exact run.started run.calls run.handled run.listener := by
  obtain ⟨handled, exact⟩ := run.course.exact run.started_spec.1 run.unstopped
  have same : run.handled = handled := by
    rw [MonitorRun.handled, exact.parted, List.length_append, Nat.add_sub_cancel, List.take_left]
  rwa [same]

/-- An address was asked for when it was announced for bitcoin at a finite time. -/
theorem mem_asked {notifications : List Notification} {address : String} {since : Int} :
    (address, since) ∈
        (notifications.filterMap run.started.options.due?).filterMap Monitor.asked? ↔
      address ≠ "" ∧ since ∈ announcedAt notifications address := by
  have channels := run.started_spec.2.2
  constructor
  · intro inside
    obtain ⟨due, among, asked⟩ := List.mem_filterMap.mp inside
    obtain ⟨n, given, called⟩ := List.mem_filterMap.mp among
    unfold ListenerOptions.due? at called
    split at called
    · obtain ⟨time, finite, rfl⟩ := Option.map_eq_some_iff.mp called
      unfold Monitor.asked? at asked
      split at asked
      · next bitcoin =>
        obtain ⟨address', payload, same⟩ := Option.map_eq_some_iff.mp asked
        cases same
        obtain ⟨payload, nonempty⟩ := Option.filter_eq_some_iff.mp payload
        exact ⟨by simpa using nonempty, n, given, bitcoin, payload, time, finite, rfl⟩
      · cases asked
    · cases called
  · rintro ⟨nonempty, n, given, bitcoin, payload, time, finite, rfl⟩
    have binds : run.started.options.Binds n := by
      rw [ListenerOptions.Binds, channels, bitcoin]
      exact List.mem_cons_self
    refine List.mem_filterMap.mpr ⟨⟨n, Double.towardZero time⟩, List.mem_filterMap.mpr ⟨n, given, ?_⟩, ?_⟩
    · rw [ListenerOptions.due?, if_pos binds, finite, Option.map_some]
    · simp [Monitor.asked?, bitcoin, payload, nonempty]

/-- What is watched, in terms of the notifications. -/
theorem mem_watched (entry : Watched) :
    entry ∈ run.watched ↔ entry.currency = Currency.bitcoin.text ∧ entry.address ≠ "" ∧
      IsLeast (announcedAt run.handled entry.address) entry.since := by
  have earliest := (run.serves.earliest run.unwatched).1
  rw [run.exact.acted] at earliest
  have times : {since | (entry.address, since) ∈
        (run.handled.filterMap run.started.options.due?).filterMap Monitor.asked?} =
      {since | entry.address ≠ "" ∧ since ∈ announcedAt run.handled entry.address} := by
    ext since
    exact run.mem_asked
  rw [watched, earliest.mem_iff, times]
  refine and_congr_right fun _ => ⟨fun ⟨⟨nonempty, member⟩, least⟩ => ?_, fun ⟨nonempty, least⟩ => ?_⟩
  · exact ⟨nonempty, member, fun since later => least ⟨nonempty, later⟩⟩
  · exact ⟨⟨nonempty, least.1⟩, fun since later => least.2 later.2⟩

/--
The watched addresses are exactly those that have been announced for bitcoin, each
once, since the least of the whole seconds at which it was announced.  Whatever else
was announced, two runs in which the same was announced for bitcoin watch the same
addresses since the same times, in whatever order, batches and repetitions it came.
The listener counts as failures the announcements whose time is not finite.
-/
theorem registered_exactly :
    polled run.calls = run.handled ++ run.listener.unhandled ∧
    (∀ entry, entry ∈ run.watched ↔
      entry.currency = Currency.bitcoin.text ∧ entry.address ≠ "" ∧
        IsLeast (announcedAt run.handled entry.address) entry.since) ∧
    (run.watched.map (·.address)).Nodup ∧
    (∀ address ≠ "", (announcedAt run.handled address).Nonempty →
      ∃ entry ∈ run.watched, entry.address = address) ∧
    run.listener.failed = run.handled.countP (·.IsUntimely) ∧
    ∀ ⦃ω' : Type⦄ (other : MonitorRun ω'),
      (∀ n, n.channel = Currency.bitcoin.text → (n ∈ other.handled ↔ n ∈ run.handled)) →
      ∀ entry, entry ∈ other.watched ↔ entry ∈ run.watched := by
  have exact := run.exact
  obtain ⟨earliest, unraised⟩ := run.serves.earliest run.unwatched
  refine ⟨exact.parted, run.mem_watched, earliest.nodup, ?_, ?_, fun ω' other same entry => ?_⟩
  · rintro address nonempty ⟨since, member⟩
    rw [exact.acted] at earliest
    obtain ⟨entry, inside, named, -⟩ :=
      earliest.covers address since (run.mem_asked.mpr ⟨nonempty, member⟩)
    exact ⟨entry, inside, named⟩
  · rw [exact.failed, run.started_spec.2.1, unraised, Nat.zero_add]
    refine List.countP_congr fun n _ => ?_
    rw [decide_eq_true_iff, decide_eq_true_iff, ListenerOptions.Untimely, ListenerOptions.Binds,
      run.started_spec.2.2]
    rfl
  · have times : announcedAt other.handled entry.address = announcedAt run.handled entry.address := by
      ext since
      constructor
      · rintro ⟨n, given, bitcoin, announced⟩
        exact ⟨n, (same n bitcoin).mp given, bitcoin, announced⟩
      · rintro ⟨n, given, bitcoin, announced⟩
        exact ⟨n, (same n bitcoin).mpr given, bitcoin, announced⟩
    rw [other.mem_watched, run.mem_watched, times]

/-! ### Repeated announcements -/

/--
Announcements of all kinds, of which some come again after the connection was
lost, in another order and earlier.
-/
def repeated : List (Option (Except Failure (List Notification))) :=
  [some (.ok []), some (.ok []),
    some (.ok
      [{ channel := "bitcoin", payload := some "a", receivedAt := Double.ofInt 9 },
        { channel := "ether", payload := some "e", receivedAt := Double.ofInt 9 },
        { channel := "bitcoin", payload := some "", receivedAt := Double.ofInt 9 },
        { channel := "litecoin", payload := some "l", receivedAt := .nan },
        { channel := "ether", payload := some "b", receivedAt := .infinite false },
        { channel := "bitcoin", payload := some "b", receivedAt := Double.ofInt 5 },
        { channel := "bitcoin", payload := some "a",
          receivedAt := Double.ofScientific false 79 (-1) }]),
    some (.ok []), some (.ok []), some (.ok []), some (.ok []), some (.ok []),
    some (.error (.fault .connection "server closed the connection")),
    some (.ok []), some (.ok []), some (.ok []), some (.ok []),
    some (.ok
      [{ channel := "bitcoin", payload := some "b", receivedAt := .nan },
        { channel := "bitcoin", payload := some "b",
          receivedAt := Double.ofScientific true 15 (-1) },
        { channel := "bitcoin", payload := none, receivedAt := Double.ofInt 0 },
        { channel := "bitcoin", payload := some "a", receivedAt := Double.ofInt 9 }]),
    some (.ok []), some (.ok []), some (.ok [])]

def usual : Listener :=
  { options := Monitor.listenerOptions {} none none none, delay := Double.ofInt 1 }

/-- How far it has come with them. -/
def progressed : Listener.Progress :=
  Listener.Progress.along { listener := { usual with stage := .opening } } repeated

def redelivered : MonitorRun Unit where
  settings := {}
  created := usual
  started := { usual with stage := .opening }
  record := ⟨.info, "🚀 LISTENER: 'payin-address-listener' started for channels bitcoin, ether", none⟩
  calls := progressed.calls
  broken := progressed.broken
  listener := progressed.listener
  before := { outside := () }
  tracker := progressed.calls.foldl Monitor.serve { outside := () }
  creates := by decide +kernel
  starts := by decide +kernel
  course := Listener.course_along _ repeated
  unstopped := by decide +kernel
  unwatched := rfl
  serves := Monitor.serves_foldl _ (by decide +kernel)

theorem registered_exactly_redelivered :
    redelivered.watched = [⟨"a", 7, "bitcoin"⟩, ⟨"b", -1, "bitcoin"⟩] ∧
      redelivered.listener.failed = 2 ∧
      redelivered.handled.countP (·.IsUntimely) = 2 ∧
      IsLeast (announcedAt redelivered.handled "a") 7 := by
  obtain ⟨-, watched, -, -, failed, -⟩ := registered_exactly redelivered
  have entries : redelivered.watched = [⟨"a", 7, "bitcoin"⟩, ⟨"b", -1, "bitcoin"⟩] := by
    decide +kernel
  have counted : redelivered.listener.failed = 2 := by decide +kernel
  have first : (⟨"a", 7, "bitcoin"⟩ : Watched) ∈ redelivered.watched := by simp [entries]
  exact ⟨entries, counted, by rw [← failed, counted], ((watched _).mp first).2.2⟩

end MonitorRun

end Paywatch
