import Mathlib.Logic.Relation
import Paywatch.Link.Basic
import Paywatch.Proofs.Run

/-!
# The one connection that a link holds

A link that opens or closes first forgets the connection that it holds, then looks
whether that is closed, then tells it to close, and only then asks for a new one.
The server may close any connection between two of these steps, and the driver may
fail in each of them.  So a call is taken apart here into its steps, and what holds
at every moment between two steps is shown: no connection is open but the one that
the link holds, be it only in the hands of the call under way.  What a link does in
one go, as `openWith` and `close` have it, is one of the ways in which these steps
can follow each other.
-/

namespace Paywatch

open Run

/-- A call in which a link gives the connection up that it holds. -/
inductive LinkCall where
  | opening
  | closing
  deriving DecidableEq, Repr

inductive LinkPosition where
  /-- In none; the last one, and the failure with which it ended. -/
  | resting (last : Option (LinkCall × Option Failure))
  /-- It has forgotten a connection, and looks next whether that is closed. -/
  | taken (number : Nat) (call : LinkCall)
  /-- It has found the connection open, and tells it to close next. -/
  | found (number : Nat) (call : LinkCall)
  /-- It has told the connection to close, and waits for the driver. -/
  | telling (number : Nat) (call : LinkCall)
  /-- It has asked the driver for a new connection. -/
  | asking
  /-- It was given a new connection, and holds it next. -/
  | given (number : Nat)
  deriving DecidableEq, Repr

/-- Where a call goes on when the old connection is out of the way. -/
def LinkCall.onward : LinkCall → LinkPosition
  | .opening => .asking
  | .closing => .resting (some (.closing, none))

structure LinkMoment where
  link : Link
  position : LinkPosition := .resting none
  deriving DecidableEq, Repr

/-- The connection that the link holds, be it only in the hands of a call. -/
def LinkMoment.own? (m : LinkMoment) : Option Nat :=
  match m.position with
  | .taken number _ | .found number _ | .given number => some number
  | .resting _ | .telling .. | .asking => m.link.held

/-- Was the connection neither closed nor told to close? -/
def Connection.IsLoose (c : Connection) : Prop :=
  c.isClosed = false ∧ c.closeCalls = 0

def Connection.standing (c : Connection) : Int × Nat :=
  (c.closed, c.closeCalls)

namespace Link

theorem outcome_note (event : LinkEvent) (l : Link) : outcome (note event) l = .ok () := rfl

theorem change_getElem? (l : Link) (number : Nat) (f : Connection → Connection) (n : Nat) :
    (after (change number f) l).connections[n]? =
      l.connections[n]?.map fun c => if number = n then f c else c :=
  List.getElem?_modify f number l.connections n

/-- Nothing has changed in what the link holds and in how its connections stand. -/
structure SameHold (l l' : Link) : Prop where
  held : l'.held = l.held
  standing : l'.connections.map Connection.standing = l.connections.map Connection.standing

namespace SameHold

variable {l l' l'' : Link}

theorem refl (l : Link) : SameHold l l :=
  ⟨rfl, rfl⟩

theorem trans (first : SameHold l l') (second : SameHold l' l'') : SameHold l l'' :=
  ⟨second.held.trans first.held, second.standing.trans first.standing⟩

theorem note (l : Link) (event : LinkEvent) : SameHold l (after (note event) l) :=
  ⟨rfl, rfl⟩

/-- What a connection has buffered does not matter here. -/
theorem change (l : Link) (number : Nat) {f : Connection → Connection}
    (keeps : ∀ c, (f c).standing = c.standing) : SameHold l (after (change number f) l) := by
  refine ⟨rfl, List.ext_getElem? fun n => ?_⟩
  rw [List.getElem?_map, List.getElem?_map, change_getElem?, Option.map_map]
  congr 1
  funext c
  rw [Function.comp_apply]
  split
  · exact keeps c
  · rfl

theorem found (same : SameHold l l') {n : Nat} {c : Connection}
    (found : l'.connections[n]? = some c) :
    ∃ before, l.connections[n]? = some before ∧ before.standing = c.standing := by
  have equal := congrArg (·[n]?) same.standing
  simp only [List.getElem?_map, found, Option.map_some] at equal
  obtain ⟨before, found', standing⟩ := Option.map_eq_some_iff.mp equal.symm
  exact ⟨before, found', standing⟩

end SameHold

end Link

/--
What can happen next: the link takes its next step, the driver answers, the server
closes a connection, or something happens that has nothing to do with who holds what.
-/
inductive LinkMove : LinkMoment → LinkMoment → Prop where
  /-- It is told to open or to close while it holds a connection. -/
  | forgot {l : Link} {last : Option (LinkCall × Option Failure)} {number : Nat} (call : LinkCall)
      (held : l.held = some number) :
      LinkMove ⟨l, .resting last⟩ ⟨{ l with held := none }, .taken number call⟩
  /-- It is told to open or to close while it holds none. -/
  | free {l : Link} {last : Option (LinkCall × Option Failure)} (call : LinkCall)
      (held : l.held = none) : LinkMove ⟨l, .resting last⟩ ⟨l, call.onward⟩
  /-- The connection is closed already. -/
  | spared {l : Link} {number : Nat} {call : LinkCall}
      (closed : ∀ c, l.connections[number]? = some c → c.isClosed = true) :
      LinkMove ⟨l, .taken number call⟩ ⟨l, call.onward⟩
  | looked {l : Link} {number : Nat} {call : LinkCall} {c : Connection}
      (found : l.connections[number]? = some c) (opened : c.isClosed = false) :
      LinkMove ⟨l, .taken number call⟩ ⟨l, .found number call⟩
  | told {l : Link} {number : Nat} {call : LinkCall} :
      LinkMove ⟨l, .found number call⟩
        ⟨after (Link.change number fun c => { c with closeCalls := c.closeCalls + 1 }) l,
          .telling number call⟩
  /-- The driver has closed the connection. -/
  | closed {l : Link} {number : Nat} {call : LinkCall} :
      LinkMove ⟨l, .telling number call⟩
        ⟨after (Link.change number fun c => { c with closed := 1 }) l, call.onward⟩
  /-- The driver says that it could not, which the log is told. -/
  | unclosed {l : Link} {number : Nat} {call : LinkCall} (failure : Failure)
      (driver : failure.isDriverFault = true) :
      LinkMove ⟨l, .telling number call⟩
        ⟨after (Link.note (.logged (Link.closeRecord failure))) l, call.onward⟩
  /-- Another failure ends the call. -/
  | failed {l : Link} {number : Nat} {call : LinkCall} (failure : Failure)
      (other : failure.isDriverFault = false) :
      LinkMove ⟨l, .telling number call⟩ ⟨l, .resting (some (call, some failure))⟩
  /-- The driver has made no connection. -/
  | refused {l : Link} (failure : Failure) :
      LinkMove ⟨l, .asking⟩ ⟨l, .resting (some (.opening, some failure))⟩
  | made {l : Link} :
      LinkMove ⟨l, .asking⟩
        ⟨{ l with connections := l.connections ++ [{}] }, .given l.connections.length⟩
  | holds {l : Link} {number : Nat} :
      LinkMove ⟨l, .given number⟩
        ⟨{ l with held := some number }, .resting (some (.opening, none))⟩
  /-- The server closes a connection, at any time. -/
  | severed {l : Link} {position : LinkPosition} (number : Nat) {value : Int}
      (nonzero : value ≠ 0) :
      LinkMove ⟨l, position⟩
        ⟨after (Link.change number fun c => { c with closed := value }) l, position⟩
  /-- The link subscribes or polls, notifications arrive, or closing is to fail. -/
  | beside {l l' : Link} {position : LinkPosition} (same : l.SameHold l') :
      LinkMove ⟨l, position⟩ ⟨l', position⟩

/-- What can happen in any number of moves. -/
abbrev LinkMoves : LinkMoment → LinkMoment → Prop :=
  Relation.ReflTransGen LinkMove

/-! ## What a link does in one go -/

def failure? {α : Type} : Except Failure α → Option Failure
  | .ok _ => none
  | .error failure => some failure

namespace Link

variable (l : Link) (last : Option (LinkCall × Option Failure))

/-- Where a call is after it was done with the old connection. -/
def settled (call : LinkCall) : Except Failure Unit → LinkPosition
  | .ok _ => call.onward
  | .error failure => .resting (some (call, some failure))

theorem moves_closeConnection (number : Nat) (call : LinkCall) :
    LinkMoves ⟨l, .taken number call⟩
      ⟨after (closeConnection number) l,
        settled call (outcome (closeConnection number) l)⟩ := by
  unfold closeConnection
  simp only [outcome_bind, after_bind, outcome_get, after_get]
  cases connection : l.connections[number]? with
  | none => exact .single (.spared fun c found => by rw [connection] at found; cases found)
  | some c =>
    dsimp only
    rcases Bool.eq_false_or_eq_true c.isClosed with closed | opened
    · rw [if_pos closed]
      refine .single (.spared fun c' found => ?_)
      rw [connection] at found
      cases found
      exact closed
    · rw [if_neg (by simp [opened])]
      refine .head (.looked connection opened) (.head .told ?_)
      simp only [outcome_bind, after_bind]
      cases c.closeFault with
      | none => exact .single .closed
      | some failure =>
        cases driver : failure.isDriverFault with
        | false =>
          simp only [driver, Bool.false_eq_true, if_false]
          exact .single (.failed failure driver)
        | true =>
          simp only [driver, if_true]
          exact .single (.unclosed failure driver)

/-- Closing, or giving the old connection up in order to open. -/
theorem moves_giveUp (call : LinkCall) :
    LinkMoves ⟨l, .resting last⟩ ⟨after close l, settled call (outcome close l)⟩ := by
  unfold close
  simp only [outcome_bind, after_bind, outcome_get, after_get]
  cases held : l.held with
  | none => exact .single (.free call held)
  | some number =>
    simp only [outcome_bind, after_bind, outcome_modify, after_modify]
    exact .head (.forgot call held) (moves_closeConnection _ number call)

theorem moves_close :
    LinkMoves ⟨l, .resting last⟩
      ⟨after close l, .resting (some (.closing, failure? (outcome close l)))⟩ := by
  have moves := moves_giveUp l last .closing
  cases ended : outcome close l with
  | ok | error failure =>
    rw [ended] at moves
    exact moves

theorem moves_openWith (refused : Option Failure) :
    LinkMoves ⟨l, .resting last⟩
      ⟨after (openWith refused) l,
        .resting (some (.opening, failure? (outcome (openWith refused) l)))⟩ := by
  have moves := moves_giveUp l last .opening
  unfold openWith
  simp only [outcome_bind, after_bind]
  cases ended : outcome close l with
  | error failure =>
    rw [ended] at moves
    exact moves
  | ok =>
    rw [ended] at moves
    refine moves.trans ?_
    cases refused with
    | none => exact .head .made (.single .holds)
    | some failure =>
      dsimp only
      split <;> exact .single (.refused _)

/-! ## Subscribing and polling -/

theorem sameHold_require : SameHold l (after require l) := by
  simp only [require, after_bind, outcome_get, after_get]
  split
  · exact .refl l
  · split
    · exact .refl l
    · split <;> exact .refl l

theorem sameHold_subscribeFrom (number : Nat) (fault : Option StatementFault) (executed : Nat)
    (channels : List String) : SameHold l (after (subscribeFrom number fault executed channels) l) := by
  induction channels generalizing l executed with
  | nil => exact .refl l
  | cons channel channels ih =>
    rw [subscribeFrom]
    split
    · split <;> exact .refl l
    · exact ((SameHold.note l _).trans (.note _ _)).trans (ih _ (executed + 1))

theorem sameHold_subscribe (fault : Option StatementFault) (channels : List String) :
    SameHold l (after (subscribe fault channels) l) := by
  simp only [subscribe, after_bind]
  split
  · exact (sameHold_require l).trans (sameHold_subscribeFrom _ _ fault 0 channels)
  · exact sameHold_require l

theorem sameHold_drain (number : Nat) (now : Double) : SameHold l (after (drain number now) l) := by
  simp only [drain, after_bind, outcome_get, after_get]
  exact .change l number fun _ => rfl

theorem sameHold_poll (course : PollCourse) (timeout : Double) :
    SameHold l (after (poll course timeout) l) := by
  simp only [poll, after_bind, outcome_note]
  refine (sameHold_require l).trans ?_
  cases outcome require l with
  | error failure => exact .refl _
  | ok number =>
    refine (SameHold.note _ (.selected number timeout)).trans ?_
    cases course.readable with
    | error failure => exact .refl _
    | ok readable =>
      cases readable with
      | false => exact .refl _
      | true =>
        simp only [after_bind, outcome_note]
        refine (SameHold.note _ (.polled number)).trans ?_
        cases course.arriving with
        | error failure => exact .refl _
        | ok arrivals =>
          have read := SameHold.change
            (after (note (.polled number)) (after (note (.selected number timeout)) (after require l)))
            number (f := fun c => { c with buffer := c.buffer ++ arrivals }) fun _ => rfl
          exact read.trans (sameHold_drain _ number course.now)

/-- Without an open connection a link that is to subscribe or to poll only says so. -/
theorem require_unopened {l : Link}
    (unopened : ∀ number c, l.held = some number → l.connections[number]? = some c →
      c.isClosed = true) : outcome require l = .error .notOpen ∧ after require l = l := by
  simp only [require, outcome_bind, after_bind, outcome_get, after_get]
  cases held : l.held with
  | none => exact ⟨rfl, rfl⟩
  | some number =>
    dsimp only
    cases found : l.connections[number]? with
    | none => exact ⟨rfl, rfl⟩
    | some c =>
      dsimp only
      rw [if_pos (unopened number c held found)]
      exact ⟨rfl, rfl⟩

end Link

/-! ## What holds at every moment -/

/-- What is known of the connections of a link, wherever it is in a call. -/
structure LinkMoment.Sole (m : LinkMoment) : Prop where
  /-- No connection is loose but the one that the link holds. -/
  loose : ∀ (n : Nat) (c : Connection), m.link.connections[n]? = some c → c.IsLoose →
    m.own? = some n
  once : ∀ (n : Nat) (c : Connection), m.link.connections[n]? = some c → c.closeCalls ≤ 1
  /-- The connection that the link holds was not told to close. -/
  untold : ∀ (n : Nat) (c : Connection), m.own? = some n → m.link.connections[n]? = some c →
    c.closeCalls = 0
  /-- The field is filled by opening and emptied by any call. -/
  filled : m.link.held ≠ none → m.position = .resting (some (.opening, none))

namespace LinkMoment.Sole

variable {m : LinkMoment} {l l' : Link} {position position' : LinkPosition}

theorem start : Sole ⟨{}, .resting none⟩ where
  loose := fun _ _ found => nomatch found
  once := fun _ _ found => nomatch found
  untold := fun _ _ _ found => nomatch found
  filled := fun held => absurd rfl held

/-- The field is empty in a call. -/
theorem held_eq_none (sole : Sole ⟨l, position⟩)
    (calling : position ≠ .resting (some (.opening, none))) : l.held = none :=
  Classical.not_not.mp fun held => calling (sole.filled held)

/-- Connections that are told to close no more often, and stay closed if they are. -/
theorem of_standing (sole : Sole ⟨l, position⟩)
    (own : own? ⟨l', position'⟩ = own? ⟨l, position⟩)
    (filled : l'.held ≠ none → position' = .resting (some (.opening, none)))
    (before : ∀ (n : Nat) (c : Connection), l'.connections[n]? = some c →
      ∃ c', l.connections[n]? = some c' ∧ c.closeCalls = c'.closeCalls ∧
        (c.isClosed = false → c'.isClosed = false)) :
    Sole ⟨l', position'⟩ where
  loose := by
    intro n c found loose
    obtain ⟨c', found', told, opened⟩ := before n c found
    rw [own]
    exact sole.loose n c' found' ⟨opened loose.1, told ▸ loose.2⟩
  once := by
    intro n c found
    obtain ⟨c', found', told, -⟩ := before n c found
    rw [told]
    exact sole.once n c' found'
  untold := by
    intro n c held found
    obtain ⟨c', found', told, -⟩ := before n c found
    rw [told]
    exact sole.untold n c' (own ▸ held) found'
  filled := filled

/-- A call that goes on from one step to the next. -/
theorem of_same (sole : Sole ⟨l, position⟩) (own : own? ⟨l, position'⟩ = own? ⟨l, position⟩)
    (calling : l.held = none) : Sole ⟨l, position'⟩ :=
  sole.of_standing own (fun held => absurd calling held) fun _ c found => ⟨c, found, rfl, id⟩

theorem of_change {number : Nat} {f : Connection → Connection} (sole : Sole ⟨l, position⟩)
    (told : ∀ c, (f c).closeCalls = c.closeCalls) (closed : ∀ c, (f c).isClosed = true) :
    Sole ⟨after (Link.change number f) l, position⟩ := by
  refine sole.of_standing rfl sole.filled fun n c found => ?_
  rw [Link.change_getElem?] at found
  obtain ⟨c', found', rfl⟩ := Option.map_eq_some_iff.mp found
  refine ⟨c', found', ?_⟩
  split
  · exact ⟨told c', fun opened => by rw [closed c'] at opened; cases opened⟩
  · exact ⟨rfl, id⟩

theorem own?_onward (l : Link) (call : LinkCall) : own? ⟨l, call.onward⟩ = l.held := by
  cases call <;> rfl

/-- Of the connections only the one that was taken could be loose, and it is closed. -/
theorem spared {number : Nat} {call : LinkCall} (sole : Sole ⟨l, .taken number call⟩)
    (closed : ∀ c, l.connections[number]? = some c → c.isClosed = true) :
    Sole ⟨l, call.onward⟩ := by
  have empty := sole.held_eq_none (by simp)
  refine ⟨fun n c found loose => ?_, sole.once, fun n c own => ?_, fun held => absurd empty held⟩
  · cases sole.loose n c found loose
    have opened := loose.1
    rw [closed c found] at opened
    cases opened
  · rw [own?_onward, empty] at own
    cases own

/-- A connection in the hands of a call was not told to close before. -/
theorem told {number : Nat} {call : LinkCall} (sole : Sole ⟨l, .found number call⟩) :
    Sole ⟨after (Link.change number fun c => { c with closeCalls := c.closeCalls + 1 }) l,
      .telling number call⟩ := by
  have empty := sole.held_eq_none (by simp)
  have before : ∀ (n : Nat) (c : Connection),
      (after (Link.change number fun c => { c with closeCalls := c.closeCalls + 1 })
        l).connections[n]? = some c →
      ∃ c', l.connections[n]? = some c' ∧
        (n = number ∧ c.closeCalls = c'.closeCalls + 1 ∨ n ≠ number ∧ c = c') := by
    intro n c found
    rw [Link.change_getElem?] at found
    obtain ⟨c', found', rfl⟩ := Option.map_eq_some_iff.mp found
    refine ⟨c', found', ?_⟩
    split
    · next same => exact .inl ⟨same.symm, rfl⟩
    · next other => exact .inr ⟨Ne.symm other, rfl⟩
  refine ⟨fun n c found loose => ?_, fun n c found => ?_, fun n c own => ?_,
    fun held => absurd empty held⟩
  · obtain ⟨c', found', ⟨-, more⟩ | ⟨other, rfl⟩⟩ := before n c found
    · have none := loose.2
      omega
    · cases sole.loose n c found' loose
      exact absurd rfl other
  · obtain ⟨c', found', ⟨rfl, more⟩ | ⟨-, rfl⟩⟩ := before n c found
    · have untold := sole.untold n c' rfl found'
      omega
    · exact sole.once n c found'
  · change l.held = some n at own
    rw [empty] at own
    cases own

/-- A new connection is asked for when no other is loose. -/
theorem made (sole : Sole ⟨l, .asking⟩) :
    Sole ⟨{ l with connections := l.connections ++ [{}] }, .given l.connections.length⟩ := by
  have empty := sole.held_eq_none (by simp)
  have before : ∀ (n : Nat) (c : Connection), (l.connections ++ [({} : Connection)])[n]? = some c →
      l.connections[n]? = some c ∨ n = l.connections.length ∧ c = ({} : Connection) := by
    intro n c found
    rw [List.getElem?_append] at found
    split at found
    · exact .inl found
    · rw [List.getElem?_singleton] at found
      split at found
      · cases found
        exact .inr ⟨by omega, rfl⟩
      · cases found
  refine ⟨fun n c found loose => ?_, fun n c found => ?_, fun n c own found => ?_,
    fun held => absurd empty held⟩
  · rcases before n c found with old | ⟨rfl, -⟩
    · have own : l.held = some n := sole.loose n c old loose
      rw [empty] at own
      cases own
    · rfl
  · rcases before n c found with old | ⟨-, rfl⟩
    · exact sole.once n c old
    · exact Nat.zero_le 1
  · cases own
    rcases before _ c found with old | ⟨-, rfl⟩
    · rw [List.getElem?_eq_none (Nat.le_refl _)] at old
      cases old
    · rfl

/-- Every move keeps the one connection. -/
theorem move {m' : LinkMoment} (sole : m.Sole) (move : LinkMove m m') : m'.Sole := by
  cases move with
  | forgot call held =>
    exact sole.of_standing held.symm (fun other => absurd rfl other)
      fun _ c found => ⟨c, found, rfl, id⟩
  | free call held => exact sole.of_same (own?_onward _ call) held
  | spared closed => exact sole.spared closed
  | looked => exact sole.of_same rfl (sole.held_eq_none (by simp))
  | told => exact sole.told
  | @closed l number call =>
    have closed : Sole ⟨after (Link.change number fun c => { c with closed := 1 }) l,
        .telling number call⟩ :=
      sole.of_change (fun _ => rfl) fun _ => rfl
    exact closed.of_same (own?_onward _ call) (sole.held_eq_none (by simp))
  | @unclosed _ _ call =>
    have empty := sole.held_eq_none (by simp)
    exact sole.of_standing (own?_onward _ call) (fun held => absurd empty held)
      fun _ c found => ⟨c, found, rfl, id⟩
  | failed => exact sole.of_same rfl (sole.held_eq_none (by simp))
  | refused => exact sole.of_same rfl (sole.held_eq_none (by simp))
  | made => exact sole.made
  | holds => exact sole.of_standing rfl (fun _ => rfl) fun _ c found => ⟨c, found, rfl, id⟩
  | severed number nonzero =>
    exact sole.of_change (fun _ => rfl) fun _ => by simpa [Connection.isClosed] using nonzero
  | @beside l l' position same =>
    have own : own? ⟨l', position⟩ = own? ⟨l, position⟩ := by
      cases position with
      | taken | found | given => rfl
      | resting | telling | asking => exact same.held
    refine sole.of_standing own (fun held => sole.filled (same.held ▸ held)) fun n c found => ?_
    obtain ⟨c', found', standing⟩ := same.found found
    obtain ⟨closed, told⟩ := Prod.mk.inj standing
    exact ⟨c', found', told.symm, fun opened => by rwa [Connection.isClosed, closed]⟩

theorem moves (moves : LinkMoves ⟨{}, .resting none⟩ m) : m.Sole := by
  induction moves with
  | refl => exact start
  | tail _ move ih => exact ih.move move

end LinkMoment.Sole

/--
At every moment, between any two steps of any calls and whatever the driver and the
server do, no connection is neither closed nor told to close but the one that the
link holds, and each is told to close at most once.  Only after opening did succeed
the link holds a connection in its field, so that it holds none after closing or
after opening has failed.  Between the calls it may be told to open, to close, to
subscribe or to poll, each of which comes down to such steps.  Whenever a link holds
no connection or a closed one, subscribing and polling fail for the lack of a
connection and do nothing.
-/
theorem held_alone {m : LinkMoment} (moves : LinkMoves ⟨{}, .resting none⟩ m) :
    (∀ n c, m.link.connections[n]? = some c → c.IsLoose → m.own? = some n) ∧
    (∀ c ∈ m.link.connections, c.closeCalls ≤ 1) ∧
    (m.link.held ≠ none → m.position = .resting (some (.opening, none))) ∧
    (∀ last, m.position = .resting last →
      m.own? = m.link.held ∧
      (LinkMoves m ⟨after Link.close m.link,
          .resting (some (.closing, failure? (outcome Link.close m.link)))⟩ ∧
        (after Link.close m.link).held = none) ∧
      (∀ refused, LinkMoves m ⟨after (Link.openWith refused) m.link,
          .resting (some (.opening, failure? (outcome (Link.openWith refused) m.link)))⟩ ∧
        ((∃ failure, outcome (Link.openWith refused) m.link = .error failure) →
          (after (Link.openWith refused) m.link).held = none)) ∧
      (∀ fault channels,
        LinkMoves m ⟨after (Link.subscribe fault channels) m.link, m.position⟩) ∧
      ∀ course timeout, LinkMoves m ⟨after (Link.poll course timeout) m.link, m.position⟩) ∧
    ((∀ n c, m.link.held = some n → m.link.connections[n]? = some c → c.isClosed = true) →
      Failure.notOpen.isConnectionLoss = true ∧
      (∀ fault channels,
        outcome (Link.subscribe fault channels) m.link = .error .notOpen ∧
          after (Link.subscribe fault channels) m.link = m.link) ∧
      ∀ course timeout,
        outcome (Link.poll course timeout) m.link = .error .notOpen ∧
          after (Link.poll course timeout) m.link = m.link) := by
  have sole := LinkMoment.Sole.moves moves
  refine ⟨sole.loose, fun c inside => ?_, sole.filled, fun last resting => ?_, fun unopened => ?_⟩
  · obtain ⟨n, found⟩ := List.mem_iff_getElem?.mp inside
    exact sole.once n c found
  · obtain ⟨l, position⟩ := m
    cases resting
    have closing := Link.moves_close l last
    refine ⟨rfl, ⟨closing, ?_⟩, fun refused => ?_, fun fault channels => ?_,
      fun course timeout => ?_⟩
    · exact (LinkMoment.Sole.moves (moves.trans closing)).held_eq_none (by simp)
    · have opening := Link.moves_openWith l last refused
      refine ⟨opening, fun ⟨failure, failed⟩ => ?_⟩
      refine (LinkMoment.Sole.moves (moves.trans opening)).held_eq_none ?_
      rw [failed]
      simp [failure?]
    · exact .single (.beside (Link.sameHold_subscribe l fault channels))
    · exact .single (.beside (Link.sameHold_poll l course timeout))
  · obtain ⟨unready, unmoved⟩ := Link.require_unopened unopened
    refine ⟨rfl, fun fault channels => ?_, fun course timeout => ?_⟩
    · simp only [Link.subscribe, outcome_bind, after_bind, unready, unmoved, and_self]
    · simp only [Link.poll, outcome_bind, after_bind, unready, unmoved, and_self]

/-! ### A connection that the server closes while the link tells it to close -/

def alreadyGone : Failure :=
  .fault .driverInterface "connection already closed"

/-- The link has opened twice, and is given its second connection. -/
def givenSecond : LinkMoment where
  link :=
    { connections := [{ closed := 2, closeCalls := 1 }, {}]
      events := [.logged (Link.closeRecord alreadyGone)] }
  position := .given 1

/-- It holds the second connection, which the server has closed too. -/
def lostSecond : LinkMoment where
  link :=
    { connections := [{ closed := 2, closeCalls := 1 }, { closed := 2 }]
      held := some 1
      events := [.logged (Link.closeRecord alreadyGone)] }
  position := .resting (some (.opening, none))

theorem moves_givenSecond : LinkMoves ⟨{}, .resting none⟩ givenSecond := by
  have severed : (2 : Int) ≠ 0 := by decide
  refine .head (.free .opening rfl) (.head .made (.head .holds ?_))
  refine .head (.forgot .opening rfl) (.head (.looked (c := {}) rfl rfl) ?_)
  exact .head (.severed 0 severed) (.head .told (.head (.unclosed alreadyGone rfl) (.single .made)))

theorem moves_lostSecond : LinkMoves ⟨{}, .resting none⟩ lostSecond := by
  have severed : (2 : Int) ≠ 0 := by decide
  exact moves_givenSecond.trans (.head .holds (.single (.severed 1 severed)))

/-- The first connection was told to close once, the second is the link's own until it is lost. -/
theorem held_alone_twice :
    (LinkMoves ⟨{}, .resting none⟩ givenSecond ∧ Connection.IsLoose {} ∧
      givenSecond.own? = some 1 ∧ givenSecond.link.held = none) ∧
    LinkMoves ⟨{}, .resting none⟩ lostSecond ∧
    (∀ c ∈ lostSecond.link.connections, c.closeCalls ≤ 1) ∧
    (after Link.close lostSecond.link).held = none ∧
    outcome (Link.subscribe none ["bitcoin"]) lostSecond.link = .error .notOpen ∧
    after (Link.subscribe none ["bitcoin"]) lostSecond.link = lostSecond.link := by
  have own := (held_alone moves_givenSecond).1 1 {} rfl ⟨rfl, rfl⟩
  obtain ⟨-, once, -, resting, unopened⟩ := held_alone moves_lostSecond
  obtain ⟨-, ⟨-, closed⟩, -⟩ := resting _ rfl
  have lost : ∀ n c, lostSecond.link.held = some n → lostSecond.link.connections[n]? = some c →
      c.isClosed = true := by
    intro n c held found
    cases held
    cases found
    rfl
  obtain ⟨-, subscribing, -⟩ := unopened lost
  exact ⟨⟨moves_givenSecond, ⟨rfl, rfl⟩, own, rfl⟩, moves_lostSecond, once, closed,
    subscribing none ["bitcoin"]⟩

end Paywatch
