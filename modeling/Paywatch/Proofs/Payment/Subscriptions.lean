import Paywatch.Proofs.Payment.Consistency
import Paywatch.Proofs.Payment.Credits

/-!
# Subscriptions that are held

While an output is being subscribed to, its subscription is there and no sighting
holds it yet.  At all other times a sighting holds the subscription that was made
for it, until it is credited or discarded.  A sighting that is credited before it
holds its subscription gets it all the same, and keeps it for good.
-/

namespace Paywatch

namespace Tracking

variable {ω : Type} {t u v : Tracking ω} {scope : Scope} {number : Nat}

/-! ## Keeping a subscription -/

namespace Numbered

/-- To keep a subscription does not concern those of other sightings. -/
theorem live_keep (numbered : t.Numbered) {m : Nat} {sub : Subscription Callback}
    (issued : t.issued? m = some sub) (other : number ≠ m) (live : t.Live number) :
    (Run.after (Tracking.keep m sub.id) t).Live number := by
  have held := (live_holding t m number (some sub.id)).mpr live
  rw [after_keep]
  split
  · exact (numbered.holding issued).live_release held fun here => absurd here other
  · exact held

end Numbered

theorem held?_keep (t : Tracking ω) {m id : Nat} (known : m < t.sightings.length)
    (other : number ≠ m) : (Run.after (keep m id) t).held? number = t.held? number := by
  have held := held?_holding t m number (some id) known
  rw [if_neg other.symm] at held
  rw [after_keep]
  split
  · rw [held?_release, if_neg other.symm, held]
  · exact held

/-- The subscription that is kept with a sighting after what was announced meanwhile. -/
theorem Span.issued_sighting {output : Output} (inner : Span scope (t.sighting output) u)
    (numbered : t.Numbered)
    (undecided : Phase.atFirst output.confidence output.height = .observed) :
    ∃ sub, u.issued? t.sightings.length = some sub ∧ sub.id = t.feed.nextId := by
  have issued := issued?_sighting t (Phase.atFirst_eq_observed.mp undecided)
  exact ⟨_, issued?_of_prior inner.moves.outputs_prefix issued, numbered.next.symm⟩

/-! ## What comes later leaves the subscriptions of others alone -/

/-- A sighting that is there and holds nothing is left so, and so is its subscription. -/
theorem Span.unheld (span : Span scope t u) (numbered : t.Numbered)
    (known : number < t.sightings.length) (unheld : t.held? number = none) :
    u.held? number = none ∧ (t.Live number → u.Live number) := by
  induction span with
  | refl => exact ⟨unheld, id⟩
  | moved _ plain _ ih =>
    obtain ⟨held, live⟩ := ih numbered known unheld
    exact ⟨(plain.held?_eq number).trans held,
      fun there => (plain.live_iff number).mpr (live there)⟩
  | @ended _ u v before plain m _ _ ih =>
    obtain ⟨held, live⟩ := ih numbered known unheld
    replace held := (plain.held?_eq number).trans held
    constructor
    · rw [held?_release, held, ite_self]
    · intro there
      refine ((before.numbered numbered).plain plain).live_release
        ((plain.live_iff number).mpr (live there)) ?_
      rintro rfl
      exact held
  | outside _ _ _ _ ih => exact ih numbered known unheld
  | @sighted _ u before output _ _ _ _ _ ih =>
    obtain ⟨held, live⟩ := ih numbered known unheld
    exact ⟨(held?_sighting u output number).trans held,
      fun there => (before.numbered numbered).live_sighting output (live there)⟩
  | @followed _ u v before output _ _ _ _ undecided inner _ ih innerIh =>
    obtain ⟨held, live⟩ := ih numbered known unheld
    have begun := before.numbered numbered
    have earlier : number < u.sightings.length := Moves.known before.moves known
    have other : number ≠ u.sightings.length := Nat.ne_of_lt earlier
    have longer : (u.sighting output).sightings.length = u.sightings.length + 1 := by simp
    obtain ⟨held', live'⟩ := innerIh (begun.sighting output) (by omega)
      ((held?_sighting u output number).trans held)
    obtain ⟨sub, issued, same⟩ := inner.issued_sighting begun undecided
    rw [← same]
    constructor
    · rw [held?_keep v (lt_of_issued? issued) other]
      exact held'
    · intro there
      exact (inner.numbered (begun.sighting output)).live_keep issued other
        (live' (begun.live_sighting output (live there)))

/-- An output that is being followed has its subscription, which is not kept yet. -/
theorem Span.unheld_sighting {output : Output} (inner : Span scope (t.sighting output) u)
    (numbered : t.Numbered)
    (undecided : Phase.atFirst output.confidence output.height = .observed) :
    u.held? t.sightings.length = none ∧ u.Live t.sightings.length := by
  have last := t.sighting_last output
  have begun := numbered.sighting output
  have known := (List.getElem?_eq_some_iff.mp last).1
  obtain ⟨unheld, live⟩ := inner.unheld begun known (by rw [held?, last]; rfl)
  exact ⟨unheld, live (begun.observed _ _ last undecided)⟩

/-! ## What is held is there -/

/-- What sightings hold is there. -/
def Upheld (t : Tracking ω) : Prop :=
  ∀ number, t.held? number ≠ none → t.Live number

theorem upheld_start (manner : FeedManner) (outside : ω) : (start manner outside).Upheld :=
  fun _ held => absurd rfl held

namespace Upheld

theorem plain (upheld : t.Upheld) (plain : Plain t u) : u.Upheld := by
  intro number held
  rw [plain.held?_eq] at held
  exact (plain.live_iff number).mpr (upheld number held)

theorem release (upheld : t.Upheld) (numbered : t.Numbered) (number : Nat) :
    (Run.after (Tracking.release number) t).Upheld := by
  intro m held
  rw [held?_release] at held
  split at held
  · exact absurd rfl held
  · rename_i other
    exact numbered.live_release (upheld m held) fun here => absurd here.symm other

theorem sighting (upheld : t.Upheld) (numbered : t.Numbered) (output : Output) :
    (t.sighting output).Upheld := by
  intro number held
  rw [held?_sighting] at held
  exact numbered.live_sighting output (upheld number held)

/-- A subscription that is there is kept with its sighting. -/
theorem keep (upheld : t.Upheld) (numbered : t.Numbered) {sub : Subscription Callback}
    (issued : t.issued? number = some sub) (live : t.Live number) :
    (Run.after (Tracking.keep number sub.id) t).Upheld := by
  have kept : (t.holding number (some sub.id)).Upheld := by
    intro m held
    rw [live_holding]
    rw [held?_holding _ _ _ _ (lt_of_issued? issued)] at held
    split at held
    · rename_i here
      rw [← here]
      exact live
    · exact upheld m held
  rw [after_keep]
  split
  · exact kept.release (numbered.holding issued) number
  · exact kept

end Upheld

theorem Span.upheld (span : Span scope t u) (numbered : t.Numbered) (upheld : t.Upheld) :
    u.Upheld := by
  induction span with
  | refl => exact upheld
  | moved _ plain _ ih => exact (ih numbered upheld).plain plain
  | ended before plain number _ _ ih =>
    exact ((ih numbered upheld).plain plain).release ((before.numbered numbered).plain plain) number
  | outside _ _ _ _ ih => exact ih numbered upheld
  | sighted before output _ _ _ _ _ ih =>
    exact (ih numbered upheld).sighting (before.numbered numbered) output
  | followed before output _ _ _ _ undecided inner _ ih innerIh =>
    have begun := before.numbered numbered
    have within := begun.sighting output
    obtain ⟨-, live⟩ := inner.unheld_sighting begun undecided
    obtain ⟨sub, issued, same⟩ := inner.issued_sighting begun undecided
    rw [← same]
    exact (innerIh within ((ih numbered upheld).sighting begun output)).keep
      (inner.numbered within) issued live

/-! ## What is there is held -/

/-- Subscriptions are held, but for those of some sightings. -/
def HeldBut (t : Tracking ω) (pending : Nat → Prop) : Prop :=
  ∀ number, t.Live number → t.held? number ≠ none ∨ pending number

theorem heldBut_start (manner : FeedManner) (outside : ω) :
    (start manner outside).HeldBut fun _ => False := by
  rintro _ ⟨_, inside, -⟩
  cases inside

namespace HeldBut

variable {pending : Nat → Prop}

theorem plain (kept : t.HeldBut pending) (plain : Plain t u) : u.HeldBut pending := by
  intro number live
  rw [plain.held?_eq]
  exact kept number ((plain.live_iff number).mp live)

theorem release (kept : t.HeldBut pending) (numbered : t.Numbered)
    (honoured : t.manner.keepsCancelled = false) (number : Nat) :
    (Run.after (Tracking.release number) t).HeldBut pending := by
  intro m live
  obtain ⟨live, unheld⟩ := numbered.live_of_release honoured live
  rw [held?_release]
  split
  · rename_i here
    subst here
    exact .inr ((kept number live).resolve_left fun held => held (unheld rfl))
  · exact kept m live

/-- The subscription of a sighting that begins undecided is still to be kept. -/
theorem sighting (kept : t.HeldBut pending) (numbered : t.Numbered) (output : Output) :
    (t.sighting output).HeldBut fun number => pending number ∨
      number = t.sightings.length ∧
        Phase.atFirst output.confidence output.height = .observed := by
  intro number live
  rw [held?_sighting]
  rcases numbered.live_of_sighting live with old | new
  · exact (kept number old).imp_right .inl
  · exact .inr (.inr new)

/-- Nothing is left to be done about a subscription that is kept. -/
theorem keep (numbered : t.Numbered) (honoured : t.manner.keepsCancelled = false)
    {sub : Subscription Callback} (issued : t.issued? number = some sub)
    (kept : t.HeldBut fun m => pending m ∨ m = number) :
    (Run.after (Tracking.keep number sub.id) t).HeldBut pending := by
  have held : (t.holding number (some sub.id)).HeldBut pending := by
    intro m live
    rw [live_holding] at live
    rw [held?_holding _ _ _ _ (lt_of_issued? issued)]
    split
    · exact .inl (Option.some_ne_none _)
    · rename_i other
      exact (kept m live).imp_right fun rest => rest.resolve_right (Ne.symm other)
  rw [after_keep]
  split
  · exact held.release (numbered.holding issued) honoured number
  · exact held

theorem imp {other : Nat → Prop} (kept : t.HeldBut pending)
    (weaker : ∀ number, pending number → other number) : t.HeldBut other :=
  fun number live => (kept number live).imp_right (weaker number)

end HeldBut

/--
In a run in which nothing fails, every subscription that is made is held at the
end of the operation that made it.
-/
theorem Span.heldBut {pending : Nat → Prop} (span : Span scope t u) (ending : ¬ scope.failing)
    (numbered : t.Numbered) (honoured : t.manner.keepsCancelled = false)
    (kept : t.HeldBut pending) : u.HeldBut pending := by
  induction span generalizing pending with
  | refl => exact kept
  | moved _ plain _ ih => exact (ih numbered honoured kept).plain plain
  | ended before plain number _ _ ih =>
    refine ((ih numbered honoured kept).plain plain).release
      ((before.numbered numbered).plain plain) ?_ number
    rw [plain.manner, before.keepsCancelled, honoured]
  | outside _ _ _ _ ih => exact ih numbered honoured kept
  | sighted before output _ _ _ _ decided ih =>
    refine ((ih numbered honoured kept).sighting (before.numbered numbered) output).imp ?_
    rintro number (old | ⟨-, undecided⟩)
    · exact old
    · exact absurd undecided (decided.resolve_right ending)
  | @followed _ u v before output _ _ _ _ undecided inner _ ih innerIh =>
    have begun := before.numbered numbered
    have within := begun.sighting output
    have honoured' : (u.sighting output).manner.keepsCancelled = false := by
      rw [sighting_manner, before.keepsCancelled, honoured]
    have inside : (u.sighting output).HeldBut fun m => pending m ∨ m = u.sightings.length :=
      ((ih numbered honoured kept).sighting begun output).imp fun m => .imp_right And.left
    obtain ⟨sub, issued, same⟩ := inner.issued_sighting begun undecided
    rw [← same]
    exact .keep (inner.numbered within) (inner.keepsCancelled.trans honoured') issued
      (innerIh within honoured' inside)

/-! ## What has come to its end holds nothing -/

/-- No sighting in a phase holds a subscription. -/
def Spent (t : Tracking ω) (phase : Phase) : Prop :=
  ∀ (number : Nat) (s : Sighting), t.sightings[number]? = some s → s.phase = phase →
    t.held? number = none

theorem spent_start (manner : FeedManner) (outside : ω) (phase : Phase) :
    (start manner outside).Spent phase :=
  fun _ _ found => by cases found

/-- To give a subscription up or to keep it changes no phase. -/
theorem release_found {t : Tracking ω} {m : Nat} {s' : Sighting}
    (found' : (Run.after (release m) t).sightings[number]? = some s') :
    ∃ s, t.sightings[number]? = some s ∧ s'.output = s.output ∧ s'.phase = s.phase := by
  rw [release_getElem?] at found'
  obtain ⟨s, found, rfl⟩ := Option.map_eq_some_iff.mp found'
  refine ⟨s, found, ?_⟩
  split <;> exact ⟨rfl, rfl⟩

theorem holding_found {t : Tracking ω} {m : Nat} {subscription : Option Nat} {s' : Sighting}
    (found' : (t.holding m subscription).sightings[number]? = some s') :
    ∃ s, t.sightings[number]? = some s ∧ s'.output = s.output ∧ s'.phase = s.phase := by
  rw [holding_getElem?] at found'
  obtain ⟨s, found, rfl⟩ := Option.map_eq_some_iff.mp found'
  refine ⟨s, found, ?_⟩
  split <;> exact ⟨rfl, rfl⟩

theorem keep_found {t : Tracking ω} {m id : Nat} {s' : Sighting}
    (found' : (Run.after (keep m id) t).sightings[number]? = some s') :
    ∃ s, t.sightings[number]? = some s ∧ s'.output = s.output ∧ s'.phase = s.phase := by
  rw [after_keep] at found'
  split at found'
  · obtain ⟨s₁, found₁, output, phase⟩ := release_found found'
    obtain ⟨s, found, output', phase'⟩ := holding_found found₁
    exact ⟨s, found, output.trans output', phase.trans phase'⟩
  · exact holding_found found'

namespace Spent

variable {phase : Phase}

/-- A sighting that was at its end before has held nothing since. -/
theorem plain (spent : t.Spent phase) (closed : phase.isOpen = false) (plain : Plain t u)
    (lasting : u.Closed number → t.Closed number) {s' : Sighting}
    (found' : u.sightings[number]? = some s') (ended : s'.phase = phase) :
    u.held? number = none := by
  obtain ⟨s, found, past⟩ := lasting ⟨s', found', by rw [ended]; exact closed⟩
  obtain ⟨s₀, found₀, -, precedes⟩ := plain.found found'
  rw [found] at found₀
  cases found₀
  rw [plain.held?_eq]
  exact spent number s found ((precedes.eq_of_closed past).symm.trans ended)

theorem sighting (spent : t.Spent phase) (output : Output) : (t.sighting output).Spent phase := by
  intro number s found ended
  rw [held?_sighting]
  rcases sighting_found found with old | ⟨last, -⟩
  · exact spent number s old ended
  · rw [last, held?, List.getElem?_eq_none (Nat.le_refl _)]
    rfl

/-- A discarded sighting does not keep its subscription. -/
theorem keep (spent : t.Spent phase) {m : Nat} (known : m < t.sightings.length) (id : Nat)
    (reason : phase = .discarded ∨ ∀ s, t.sightings[m]? = some s → s.phase ≠ phase) :
    (Run.after (Tracking.keep m id) t).Spent phase := by
  intro number s' found' ended
  obtain ⟨s, found, -, same⟩ := keep_found found'
  by_cases here : number = m
  · subst here
    have discarded : phase = .discarded :=
      reason.resolve_right fun other => other s found (same.symm.trans ended)
    rw [after_keep] at found' ⊢
    split
    · rw [held?_release, if_pos rfl]
    · rename_i kept
      rw [if_neg kept] at found'
      rw [found', Option.map_some, ended, discarded] at kept
      exact absurd rfl kept
  · rw [held?_keep t known here]
    exact spent number s found (same.symm.trans ended)

end Spent

/-- An output is not credited as long as no output is. -/
theorem Span.uncredited {output : Output} (inner : Span scope (t.sighting output) u)
    (orderly : u.Orderly) (new : t.isProcessed output.outpoint = false)
    (unchanged : u.ledger = t.ledger) {s : Sighting}
    (found : u.sightings[t.sightings.length]? = some s) : s.phase ≠ .credited := by
  intro credited
  have last := t.sighting_last output
  obtain ⟨s', found', reported, -⟩ := inner.moves.kept last
  rw [found] at found'
  cases found'
  have processed := orderly.processed _ s found credited
  rw [isProcessed, unchanged, Sighting.outpoint, reported] at processed
  rw [isProcessed, processed] at new
  cases new

/--
A sighting gives its subscription up when it is discarded.  It does so when it is
credited, unless it does not hold its subscription yet.
-/
theorem Span.spent {phase : Phase} (span : Span scope t u) (orderly : t.Orderly)
    (closed : phase.isOpen = false)
    (reason : phase = .discarded ∨ ¬ scope.announced .building) (spent : t.Spent phase) :
    u.Spent phase := by
  induction span with
  | refl => exact spent
  | moved _ plain lasting ih =>
    exact fun number _ => (ih orderly spent).plain closed plain (lasting number)
  | @ended _ u v before plain m _ lasting ih =>
    intro number s' found' ended
    rw [held?_release]
    split
    · rfl
    · rename_i other
      obtain ⟨s, found, -, same⟩ := release_found found'
      exact (ih orderly spent).plain closed plain (lasting number (Ne.symm other)) found
        (same.symm.trans ended)
  | outside _ _ _ _ ih => exact ih orderly spent
  | sighted _ output _ _ _ _ _ ih => exact (ih orderly spent).sighting output
  | @followed _ u v before output new watched unknown _ _ inner unchanged ih innerIh =>
    have begun : (u.sighting output).Orderly :=
      Move.orderly (.sighted u output new watched unknown) (before.moves.orderly orderly)
    have known := inner.known_sighting
    refine (innerIh begun ((ih orderly spent).sighting output)).keep known _ ?_
    cases phase with
    | discarded => exact .inl rfl
    | credited =>
      have quiet := reason.resolve_left fun same => by cases same
      exact .inr fun _ => inner.uncredited (inner.moves.orderly begun) new (unchanged quiet)
    | observed | confirmed => cases closed

/-! ## Credited too early -/

/-- A sighting has been credited while its subscription is there and not kept yet. -/
structure CreditedUnheld (t : Tracking ω) (number : Nat) : Prop where
  credited : ∃ s, t.sightings[number]? = some s ∧ s.phase = .credited
  live : t.Live number
  unheld : t.held? number = none

/-- A sighting has been credited and holds a subscription nevertheless. -/
structure CreditedHeld (t : Tracking ω) (number : Nat) : Prop where
  credited : ∃ s, t.sightings[number]? = some s ∧ s.phase = .credited
  held : t.held? number ≠ none

/-- On the way from one state to another one, a sighting was credited before it held anything. -/
def CreditedEarly (t : Tracking ω) (number : Nat) (u : Tracking ω) : Prop :=
  ∃ v : Tracking ω, Span {} t v ∧ Moves v u ∧ v.CreditedUnheld number

theorem CreditedEarly.earlier (early : u.CreditedEarly number v) (span : Span {} t u) :
    t.CreditedEarly number v := by
  obtain ⟨w, between, later, unheld⟩ := early
  exact ⟨w, span.trans between, later, unheld⟩

theorem CreditedEarly.later (early : t.CreditedEarly number u) (moves : Moves u v) :
    t.CreditedEarly number v := by
  obtain ⟨w, between, later, unheld⟩ := early
  exact ⟨w, between, later.trans moves, unheld⟩

namespace CreditedHeld

theorem of_plain (holds : u.CreditedHeld number) (plain : Plain t u)
    (lasting : u.Closed number → t.Closed number) : t.CreditedHeld number := by
  obtain ⟨⟨s', found', credited⟩, held⟩ := holds
  obtain ⟨s, found, past⟩ := lasting ⟨s', found', by rw [credited]; rfl⟩
  obtain ⟨s₀, found₀, -, precedes⟩ := plain.found found'
  rw [found] at found₀
  cases found₀
  rw [plain.held?_eq] at held
  exact ⟨⟨s, found, (precedes.eq_of_closed past).symm.trans credited⟩, held⟩

/-- A sighting that has given its subscription up holds none. -/
theorem of_release {m : Nat} (holds : (Run.after (release m) t).CreditedHeld number) :
    number ≠ m ∧ t.CreditedHeld number := by
  obtain ⟨⟨s', found', credited⟩, held⟩ := holds
  obtain ⟨s, found, -, same⟩ := release_found found'
  rw [held?_release] at held
  split at held
  · exact absurd rfl held
  · rename_i other
    exact ⟨Ne.symm other, ⟨s, found, same.symm.trans credited⟩, held⟩

theorem of_sighting {output : Output} (holds : (t.sighting output).CreditedHeld number) :
    t.CreditedHeld number := by
  obtain ⟨⟨s, found, credited⟩, held⟩ := holds
  rw [held?_sighting] at held
  rcases sighting_found found with old | ⟨-, rfl⟩
  · exact ⟨⟨s, old, credited⟩, held⟩
  · exact absurd credited (Phase.atFirst_ne_credited _ _)

end CreditedHeld

/--
A sighting that has been credited and holds a subscription was credited before it
held it.
-/
theorem Span.creditedEarly (span : Span scope t u) (numbered : t.Numbered)
    (holds : u.CreditedHeld number) : t.CreditedHeld number ∨ t.CreditedEarly number u := by
  induction span with
  | refl => exact .inl holds
  | moved _ plain lasting ih =>
    refine (ih numbered (holds.of_plain plain (lasting number))).imp_right fun early => ?_
    exact early.later plain.moves
  | @ended _ u v before plain m closed lasting ih =>
    have ending : Span scope u (Run.after (release m) v) :=
      (Span.refl u).ended plain m closed lasting
    obtain ⟨other, held⟩ := holds.of_release
    refine (ih numbered (held.of_plain plain (lasting number other))).imp_right fun early => ?_
    exact early.later ending.moves
  | @outside _ u _ announced outside _ ih =>
    obtain ⟨credited, held⟩ := holds
    refine (ih numbered ⟨credited, held⟩).imp_right fun early => ?_
    exact early.later (.single (.outside u announced outside))
  | @sighted _ u _ output new watched unknown _ _ ih =>
    refine (ih numbered holds.of_sighting).imp_right fun early => ?_
    exact early.later (.single (.sighted u output new watched unknown))
  | @followed _ u v before output new watched unknown _ undecided inner _ ih innerIh =>
    have begun := before.numbered numbered
    have known := inner.known_sighting
    have sighted : Span {} u (u.sighting output) :=
      (Span.refl u).sighted output new watched unknown trivial (.inr trivial)
    have keeping : Moves v (Run.after (keep u.sightings.length u.feed.nextId) v) :=
      moves_keep known _
    obtain ⟨⟨s', found', credited⟩, held⟩ := holds
    obtain ⟨s, found, -, same⟩ := keep_found found'
    by_cases here : number = u.sightings.length
    · subst here
      obtain ⟨unheld, live⟩ := inner.unheld_sighting begun undecided
      refine .inr ⟨v, (before.widen.trans sighted).trans inner.widen, keeping, ?_⟩
      exact ⟨⟨s, found, same.symm.trans credited⟩, live, unheld⟩
    · rw [held?_keep v known here] at held
      rcases innerIh (begun.sighting output) ⟨⟨s, found, same.symm.trans credited⟩, held⟩
        with holds | early
      · refine (ih numbered holds.of_sighting).imp_right fun early => ?_
        exact early.later ((sighted.moves.trans inner.moves).trans keeping)
      · exact .inr ((early.earlier (before.widen.trans sighted)).later keeping)

/-! ## Subscriptions and handles -/

/-- A sighting that holds a subscription holds the one that was made for it. -/
theorem Numbered.holder (numbered : t.Numbered) {sub : Subscription Callback}
    (issued : t.issued? number = some sub) (held : t.held? number ≠ none) :
    ∃ s, t.sightings[number]? = some s ∧ s.subscription = some sub.id ∧
      s.outpoint = sub.output := by
  obtain ⟨id, held⟩ := Option.ne_none_iff_exists'.mp held
  obtain ⟨sub', issued', rfl⟩ := numbered.held number id held
  rw [issued] at issued'
  cases issued'
  obtain ⟨s, found, subscription⟩ := Option.bind_eq_some_iff.mp held
  obtain ⟨output, reported, -, made⟩ := issued?_eq_some.mp issued
  rw [outputs_getElem?, found] at reported
  cases reported
  exact ⟨s, found, subscription, by rw [made]; rfl⟩

/-- The subscriptions that are there are those that sightings hold. -/
structure Matched (t : Tracking ω) : Prop where
  numbered : t.Numbered
  upheld : t.Upheld
  held : t.HeldBut fun _ => False

namespace Matched

/-- A subscription is held by the sighting for which it was made. -/
theorem holder (matched : t.Matched) {sub : Subscription Callback}
    (inside : sub ∈ t.feed.subscriptions) :
    ∃ number s, t.sightings[number]? = some s ∧ s.subscription = some sub.id ∧
      s.outpoint = sub.output ∧ t.issued? number = some sub := by
  obtain ⟨number, issued⟩ := matched.numbered.issued sub inside
  have held := (matched.held number ⟨sub, inside, issued⟩).resolve_right id
  obtain ⟨s, found, subscription, output⟩ := matched.numbered.holder issued held
  exact ⟨number, s, found, subscription, output, issued⟩

/-- Handles are held in the order of their sightings. -/
theorem pairwise_handles (matched : t.Matched) :
    (t.sightings.filterMap (·.subscription)).Pairwise (· < ·) := by
  rw [List.pairwise_filterMap, List.pairwise_iff_getElem]
  intro m n hm hn lower id held id' held'
  have handles {number id : Nat} (inside : number < t.sightings.length)
      (held : t.sightings[number].subscription = some id) :
      ∃ sub, t.issued? number = some sub ∧ sub.id = id := by
    apply matched.numbered.held number id
    rw [held?, List.getElem?_eq_getElem inside, Option.bind_some, held]
  obtain ⟨sub, issued, rfl⟩ := handles hm held
  obtain ⟨sub', issued', rfl⟩ := handles hn held'
  rw [id_of_issued? issued, id_of_issued? issued']
  exact handle_lt issued lower

theorem perm_handles (matched : t.Matched) :
    (t.feed.subscriptions.map (·.id)).Perm (t.sightings.filterMap (·.subscription)) := by
  have distinct := matched.pairwise_handles.imp Nat.ne_of_lt
  refine (List.perm_ext_iff_of_nodup matched.numbered.distinct distinct).mpr fun id => ?_
  rw [List.mem_map, List.mem_filterMap]
  constructor
  · rintro ⟨sub, inside, rfl⟩
    obtain ⟨number, s, found, held, -⟩ := matched.holder inside
    exact ⟨s, List.mem_of_getElem? found, held⟩
  · rintro ⟨s, inside, held⟩
    obtain ⟨number, found⟩ := List.mem_iff_getElem?.mp inside
    have holds : t.held? number = some id := by rw [held?, found, Option.bind_some, held]
    have holding : t.held? number ≠ none := by rw [holds]; exact Option.some_ne_none id
    obtain ⟨sub, there, issued⟩ := matched.upheld number holding
    obtain ⟨sub', issued', same⟩ := matched.numbered.held number id holds
    rw [issued] at issued'
    cases issued'
    exact ⟨sub, there, same⟩

/-- No output has two subscriptions. -/
theorem nodup_outputs (matched : t.Matched) (orderly : t.Orderly) (spent : t.Spent .discarded) :
    (t.feed.subscriptions.map (·.output)).Nodup := by
  rw [List.Nodup, List.pairwise_map]
  refine (List.pairwise_map.mp matched.numbered.distinct).imp_of_mem ?_
  intro sub sub' inside inside' distinct same
  obtain ⟨m, s, found, held, output, issued⟩ := matched.holder inside
  obtain ⟨n, s', found', held', output', issued'⟩ := matched.holder inside'
  have other : m ≠ n := by
    rintro rfl
    rw [issued] at issued'
    cases issued'
    exact distinct rfl
  have holds {number : Nat} {s : Sighting} {id : Nat} (found : t.sightings[number]? = some s)
      (held : s.subscription = some id) : s.phase ≠ .discarded := by
    intro discarded
    have none := spent number s found discarded
    rw [held?, found, Option.bind_some, held] at none
    cases none
  rcases orderly.single m n s s' other found found' (output.trans (same.trans output'.symm))
    with discarded | discarded
  · exact holds found held discarded
  · exact holds found' held' discarded

end Matched

/-- The handles of all sightings are those of the open ones, if no other one holds any. -/
theorem openSightings_handles (credited : t.Spent .credited) (discarded : t.Spent .discarded) :
    t.openSightings.filterMap (·.subscription) = t.sightings.filterMap (·.subscription) := by
  rw [openSightings, List.filterMap_filter]
  apply List.filterMap_congr
  intro s inside
  obtain ⟨number, found⟩ := List.mem_iff_getElem?.mp inside
  have holds {phase : Phase} (spent : t.Spent phase) (ended : s.phase = phase) :
      s.subscription = none := by
    have none := spent number s found ended
    rw [held?, found] at none
    exact none
  cases phase : s.phase with
  | observed | confirmed => rfl
  | credited => exact (holds credited phase).symm
  | discarded => exact (holds discarded phase).symm

/-! ## No leak -/

/-- The subscriptions that are there are those of the open sightings, one at most for an output. -/
structure Leakless (t : Tracking ω) : Prop where
  handles : (t.feed.subscriptions.map (·.id)).Perm (t.openSightings.filterMap (·.subscription))
  single : (t.feed.subscriptions.map (·.output)).Nodup
  empty : t.trackedCount = 0 → t.feed.subscriptions = []

theorem Matched.leakless (matched : t.Matched) (orderly : t.Orderly)
    (credited : t.Spent .credited) (discarded : t.Spent .discarded) : t.Leakless := by
  have handles : (t.feed.subscriptions.map (·.id)).Perm
      (t.openSightings.filterMap (·.subscription)) := by
    rw [openSightings_handles credited discarded]
    exact matched.perm_handles
  refine ⟨handles, matched.nodup_outputs orderly discarded, fun none => ?_⟩
  have closed : t.openSightings = [] := by
    rw [trackedCount, List.countP_eq_length_filter] at none
    exact List.eq_nil_of_length_eq_zero none
  rw [closed] at handles
  exact List.map_eq_nil_iff.mp (List.perm_nil.mp handles)

/-- No subscription is left behind but those that were there and are still to be kept. -/
theorem Span.leaves (span : Span scope t u) (ending : ¬ scope.failing) (numbered : t.Numbered)
    (honoured : t.manner.keepsCancelled = false) {sub : Subscription Callback}
    (inside : sub ∈ u.feed.subscriptions) :
    (∃ s ∈ u.sightings, s.subscription = some sub.id ∧ s.outpoint = sub.output) ∨
      sub ∈ t.feed.subscriptions ∧ ∀ s ∈ t.sightings, s.subscription ≠ some sub.id := by
  have numbered' := span.numbered numbered
  have kept : u.HeldBut fun m => t.Live m ∧ t.held? m = none :=
    span.heldBut ending numbered honoured fun m live =>
      (Classical.em (t.held? m ≠ none)).imp_right fun unheld => ⟨live, not_ne_iff.mp unheld⟩
  obtain ⟨number, issued⟩ := numbered'.issued sub inside
  rcases kept number ⟨sub, inside, issued⟩ with held | ⟨⟨before, there, issued'⟩, unheld⟩
  · obtain ⟨s, found, subscription, output⟩ := numbered'.holder issued held
    exact .inl ⟨s, List.mem_of_getElem? found, subscription, output⟩
  · have same := issued?_of_prior span.moves.outputs_prefix issued'
    rw [issued] at same
    cases same
    refine .inr ⟨there, fun s known subscription => ?_⟩
    obtain ⟨m, found⟩ := List.mem_iff_getElem?.mp known
    have held : t.held? m = some sub.id := by rw [held?, found, Option.bind_some, subscription]
    obtain ⟨other, made, same⟩ := numbered.held m sub.id held
    rw [issued?_inj made issued' same, unheld] at held
    cases held

/--
In a run in which no operation fails and cancellations are honoured, what a
sighting holds is there and what is there is held, by one sighting of its output,
and no output has two subscriptions.  The sighting is open, or it was credited
before it held the subscription.  If none
was, in particular if the feed announces no block at once, then the subscriptions
are those of the open sightings.  An operation that is performed while others are
under way leaves no more than its own subscriptions, all held, and those that it
found there and that are still to be kept.
-/
theorem subscriptions_held (manner : FeedManner) (outside : ω) (scope : Scope)
    (ending : ¬ scope.failing) (honoured : manner.keepsCancelled = false)
    (admits : scope.Admits manner.announcedAtOnce) {t : Tracking ω}
    (evolves : EvolvesWithin scope (start manner outside) t) :
    (t.feed.subscriptions.map (·.id)).Perm (t.sightings.filterMap (·.subscription)) ∧
    (t.feed.subscriptions.map (·.output)).Nodup ∧
    (∀ sub ∈ t.feed.subscriptions, ∃ number s, t.sightings[number]? = some s ∧
      s.subscription = some sub.id ∧ s.outpoint = sub.output ∧
      (s.phase.isOpen = true ∨ (start manner outside).CreditedEarly number t)) ∧
    ((∀ number, ¬ (start manner outside).CreditedEarly number t) → t.Leakless) ∧
    (¬ scope.announced .building → t.Leakless) ∧
    ∀ s u : Tracking ω, Span {} (start manner outside) s → scope.Admits s.manner.announcedAtOnce →
      EvolvesWithin scope s u → ∀ sub ∈ u.feed.subscriptions,
        (∃ s' ∈ u.sightings, s'.subscription = some sub.id ∧ s'.outpoint = sub.output) ∨
        sub ∈ s.feed.subscriptions ∧ ∀ s' ∈ s.sightings, s'.subscription ≠ some sub.id := by
  have span := evolves.span admits
  have numbered := numbered_start manner outside
  have orderly := orderly_start manner outside
  have matched : t.Matched := ⟨span.numbered numbered,
    span.upheld numbered (upheld_start manner outside),
    span.heldBut ending numbered honoured (heldBut_start manner outside)⟩
  have orderly' : t.Orderly := span.moves.orderly orderly
  have discarded : t.Spent .discarded :=
    span.spent orderly rfl (.inl rfl) (spent_start manner outside .discarded)
  have early {number : Nat} (holds : t.CreditedHeld number) :
      (start manner outside).CreditedEarly number t := by
    refine (span.creditedEarly numbered holds).resolve_left fun before => ?_
    obtain ⟨⟨s, found, -⟩, -⟩ := before
    cases found
  refine ⟨matched.perm_handles, matched.nodup_outputs orderly' discarded, ?_, ?_, ?_, ?_⟩
  · intro sub inside
    obtain ⟨number, s, found, held, output, -⟩ := matched.holder inside
    refine ⟨number, s, found, held, output, ?_⟩
    have holds : t.held? number ≠ none := by
      rw [held?, found, Option.bind_some, held]
      exact Option.some_ne_none _
    cases phase : s.phase with
    | observed | confirmed => exact .inl rfl
    | credited => exact .inr (early ⟨⟨s, found, phase⟩, holds⟩)
    | discarded => exact absurd (discarded number s found phase) holds
  · intro timely
    refine matched.leakless orderly' (fun number s found credited => ?_) discarded
    by_contra holds
    exact timely number (early ⟨⟨s, found, credited⟩, holds⟩)
  · intro quiet
    have credited : t.Spent .credited :=
      span.spent orderly rfl (.inr quiet) (spent_start manner outside .credited)
    exact matched.leakless orderly' credited discarded
  · intro s u passed admits within sub inside
    have honoured' : s.manner.keepsCancelled = false := passed.keepsCancelled.trans honoured
    exact (within.span admits).leaves ending (passed.numbered numbered) honoured' inside

def fixedRate (_ : Int) : Run (Tracking Unit) Decimal :=
  return Decimal.ofInt 20000

def unconfirmed : Output :=
  { payment with confidence := .pending, height := none }

def reported (manner : FeedManner) : Tracking Unit :=
  Run.after ((Operation.receive [unconfirmed]).perform fixedRate)
    (Run.after ((Operation.addAddress "address" 0).perform fixedRate) (start manner ()))

def eager : FeedManner :=
  { announcedAtOnce := [("tx", [(.building, some 7)])] }

/-- A run in which nothing fails. -/
theorem evolves_reported {manner : FeedManner} {scope : Scope}
    (delivered : ∀ output, scope.delivered output)
    (succeeds : Run.outcome ((Operation.receive [unconfirmed]).perform fixedRate)
      (Run.after ((Operation.addAddress "address" 0).perform fixedRate) (start manner ())) =
        .ok ()) :
    EvolvesWithin scope (start manner ()) (reported manner) :=
  .perform
    (.perform (.refl _) fixedRate (fun _ s => .refl s) (.addAddress "address" 0)
      (fun output _ => delivered output) (.inr ⟨(), rfl⟩))
    fixedRate (fun _ s => .refl s) (.receive [unconfirmed]) (fun output _ => delivered output)
    (.inr ⟨(), succeeds⟩)

theorem subscriptions_held_reported :
    (reported {}).Leakless ∧ (reported {}).trackedCount = 1 ∧
      (reported {}).feed.subscriptions.map (·.id) = [1] := by
  have evolves : EvolvesWithin { announced := (· ≠ .building), failing := False }
      (start {} ()) (reported {}) := evolves_reported (fun _ => trivial) (by decide +kernel)
  have admits : Scope.Admits { announced := (· ≠ .building), failing := False }
      ({} : FeedManner).announcedAtOnce := fun _ announced => by cases announced
  obtain ⟨-, -, -, -, leakless, -⟩ := subscriptions_held {} () _ id rfl admits evolves
  exact ⟨leakless fun building => building rfl, by decide +kernel, by decide +kernel⟩

/-- A payment that is credited while it is being subscribed to leaves its subscription behind. -/
theorem not_leakless_eager :
    ¬ ∀ (manner : FeedManner) (t : Tracking Unit), manner.keepsCancelled = false →
      EvolvesWithin { failing := False } (start manner ()) t → t.Leakless := by
  intro leakless
  have evolves : EvolvesWithin { failing := False } (start eager ()) (reported eager) :=
    evolves_reported (fun _ => trivial) (by decide +kernel)
  have none := (leakless eager _ rfl evolves).empty (by decide +kernel)
  have one : (reported eager).feed.subscriptions.length = 1 := by decide +kernel
  rw [none] at one
  cases one

end Tracking

end Paywatch
