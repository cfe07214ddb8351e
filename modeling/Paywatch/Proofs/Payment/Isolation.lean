import Paywatch.Proofs.Payment.Lockstep
import Paywatch.Proofs.Payment.Parallel
import Paywatch.Proofs.Payment.Standing

/-!
# Transactions do not interfere

What becomes of the outputs of a transaction does not depend on what is reported of
others.  A run is compared with one from which the reports of all other transactions
have been deleted; what the operator does and the rates stay.
-/

namespace Paywatch

namespace Tracking

variable {ω : Type} {rates : RateList} {t u : Tracking RateList} {txid : String}

/-! ## Runs -/

inductive Report where
  /-- The transaction reaches the feed, with what it pays to whom. -/
  | received (payments : List (String × Int)) (confidence : Confidence) (height : Option Int)
  /-- One output of it is reported to the tracker. -/
  | shown (index : Int) (address : String) (satoshi : Int) (confidence : Confidence)
      (height : Option Int)
  /-- A change of its confidence is announced by the feed. -/
  | announced (confidence : Confidence) (height : Option Int)
  /-- The tracker is called about one output, whether or not it is subscribed to it. -/
  | called (index : Int) (confidence : Confidence) (height : Option Int)
  deriving DecidableEq, Repr

def Report.operation (txid : String) : Report → Operation
  | .received payments confidence height =>
    .receive (Feed.outputsOf txid payments confidence height)
  | .shown index address satoshi confidence height =>
    .output ⟨⟨txid, index⟩, address, satoshi, confidence, height⟩
  | .announced confidence height => .announce txid confidence height
  | .called index confidence height => .callback ⟨txid, index⟩ confidence height

inductive Incident where
  | reported (txid : String) (report : Report)
  | registered (address : String) (since : Int)
  | retried
  /-- Other rates are known from now on, or no rate can be had for some reason. -/
  | rated (rates : RateList)
  deriving DecidableEq, Repr

namespace Incident

def perform : Incident → Run (Tracking RateList) Unit
  | .reported txid report => (report.operation txid).perform lookup
  | .registered address since => (Operation.addAddress address since).perform lookup
  | .retried => Operation.retry.perform lookup
  | .rated rates => modify fun t => { t with outside := rates }

/-- Is it anything else than a report of another transaction? -/
def concerns (txid : String) : Incident → Bool
  | .reported other _ => other == txid
  | _ => true

end Incident

/-- Incidents, one after another; the first one that fails ends them. -/
def undergo (incidents : List Incident) : Run (Tracking RateList) Unit :=
  incidents.forM Incident.perform

/-! ## What becomes of an output -/

/-- What becomes of an output. -/
structure Outcome where
  standing : Option Standing
  /-- The block in which it is, as long as it is open. -/
  height : Option Int
  processed : Bool
  /-- Does its open sighting hold a subscription? -/
  holds : Bool
  /-- The number of subscriptions on it that the feed has. -/
  subscriptions : Nat
  /-- The amounts that it was credited with. -/
  credited : List Decimal
  deriving DecidableEq, Repr

def current? (t : Tracking ω) (output : Outpoint) : Option Sighting :=
  (t.open? output).bind (t.sightings[·]?)

def outcomeOf (t : Tracking ω) (output : Outpoint) : Outcome where
  standing := t.standing? output
  height := (t.current? output).bind (·.phase.height?)
  processed := t.isProcessed output
  holds := (t.current? output).any (·.subscription.isSome)
  subscriptions := t.feed.subscriptions.countP (·.output == output)
  credited := (t.credits.filter (·.output.outpoint == output)).map (·.usd)

theorem standing?_eq_current (t : Tracking ω) (output : Outpoint) :
    t.standing? output = match t.current? output with
      | some s => some (if s.phase = .observed then .observed else .confirmed)
      | none => if t.isProcessed output then some .confirmed else none :=
  standing?_eq t output

/-- The amounts are among those that the transaction was credited with. -/
theorem credited_eq (t : Tracking ω) (output : Outpoint) :
    (t.outcomeOf output).credited =
      ((t.creditsOf output.txid).filter (·.1.outpoint == output)).map (·.2.2.2) := by
  rw [creditsOf, List.filter_map, List.map_map, List.filter_filter]
  refine congrArg (List.map _) (List.filter_congr fun c _ => ?_)
  rw [Bool.eq_iff_iff, Bool.and_eq_true, beq_iff_eq, beq_iff_eq]
  exact ⟨fun same => ⟨beq_iff_eq.mpr same, congrArg Outpoint.txid same⟩,
    fun both => beq_iff_eq.mp both.1⟩

/-- The subscriptions are among those on the transaction. -/
theorem subscriptions_eq (t : Tracking ω) (output : Outpoint) :
    (t.outcomeOf output).subscriptions =
      ((t.feed.concernedBy output.txid).filter (·.output == output)).length := by
  rw [Feed.concernedBy, List.filter_filter, ← List.countP_eq_length_filter]
  refine List.countP_congr fun sub _ => ?_
  rw [Bool.and_eq_true, beq_iff_eq, beq_iff_eq]
  exact ⟨fun same => ⟨same, congrArg Outpoint.txid same⟩, And.left⟩

namespace SameShare

/-- The open sightings of an output of the transaction are alike, if there are any. -/
theorem current? (share : SameShare txid rates t u) {output : Outpoint} (own : output.txid = txid) :
    (t.current? output = none ∧ u.current? output = none) ∨
      ∃ s s', t.current? output = some s ∧ u.current? output = some s' ∧ s.Resembles s' := by
  unfold Tracking.current?
  rcases share.open? own with ⟨unknown, unknown'⟩ | ⟨number, place, known, known', here⟩
  · rw [unknown, unknown']
    exact .inl ⟨rfl, rfl⟩
  · obtain ⟨s, s', found, found', alike⟩ := share.sightings place number here
    rw [known, known', Option.bind_some, Option.bind_some]
    exact .inr ⟨s, s', found, found', alike⟩

/-- Where the shares are the same, the same has become of every output of the transaction. -/
theorem outcomeOf_eq (share : SameShare txid rates t u) {output : Outpoint}
    (own : output.txid = txid) : u.outcomeOf output = t.outcomeOf output := by
  have processed := share.isProcessed own
  have current := share.current? own
  subst own
  have credited : (u.outcomeOf output).credited = (t.outcomeOf output).credited := by
    rw [credited_eq, credited_eq, share.credits]
  have subscriptions : (u.outcomeOf output).subscriptions = (t.outcomeOf output).subscriptions := by
    rw [subscriptions_eq, subscriptions_eq]
    refine (List.rel_filter (fun sub sub' alike => ?_) share.subscriptions).length_eq.symm
    simp only [alike.output]
  simp only [outcomeOf, Outcome.mk.injEq] at credited subscriptions ⊢
  rw [standing?_eq_current, standing?_eq_current, processed, credited, subscriptions]
  rcases current with ⟨unknown, unknown'⟩ | ⟨s, s', known, known', alike⟩
  · rw [unknown, unknown']
    exact ⟨rfl, rfl, rfl, rfl, rfl, rfl⟩
  · rw [known, known']
    simp only [Option.bind_some, Option.any_some, alike.phase, alike.holds, and_self]

end SameShare

/-! ## Reports and incidents -/

theorem txid_of_mem_outputsOf {payments : List (String × Int)} {confidence : Confidence}
    {height : Option Int} {output : Output}
    (inside : output ∈ Feed.outputsOf txid payments confidence height) :
    output.outpoint.txid = txid := by
  obtain ⟨payment, -, rfl⟩ := List.mem_map.mp inside
  rfl

theorem Report.sparing {other : String} (distinct : other ≠ txid) (report : Report) :
    Sparing txid ((report.operation other).perform lookup) := by
  cases report with
  | received payments confidence height =>
    refine (sparing_receive fun output inside => ?_).discard
    rw [txid_of_mem_outputsOf inside]
    exact distinct
  | shown => exact sparing_outputReceived distinct
  | announced confidence height => exact sparing_announce distinct confidence height
  | called index confidence height =>
    have elsewhere : Outpoint.txid ⟨other, index⟩ ≠ txid := distinct
    exact sparing_confidenceChanged elsewhere confidence height

theorem Report.paralleled (txid : String) (report : Report) :
    Paralleled txid ((report.operation txid).perform lookup) := by
  cases report with
  | received => exact (paralleled_receive fun output => txid_of_mem_outputsOf).discard
  | shown => exact paralleled_outputReceived rfl
  | announced confidence height => exact paralleled_announce txid confidence height
  | called index confidence height =>
    have own : Outpoint.txid ⟨txid, index⟩ = txid := rfl
    exact paralleled_confidenceChanged own confidence height

/-- What an incident does if it is not deleted. -/
theorem SameShare.performed (share : SameShare txid rates t u) {incident : Incident}
    (succeeds : Run.Succeeds incident.perform t) (concerns : incident.concerns txid = true) :
    ∃ rates', Parallel txid rates' incident.perform t incident.perform u := by
  cases incident with
  | reported other report =>
    cases beq_iff_eq.mp concerns
    exact ⟨rates, report.paralleled _ share succeeds⟩
  | registered address since => exact ⟨rates, paralleled_addAddress address since share succeeds⟩
  | retried => exact ⟨rates, paralleled_retry share succeeds⟩
  | rated other => exact ⟨other, ⟨(), rfl⟩, share.exchanged other⟩

/-- What an incident does if it is deleted. -/
theorem SameShare.deleted (share : SameShare txid rates t u) {incident : Incident}
    (deleted : incident.concerns txid = false) :
    SameShare txid rates (Run.after incident.perform t) u := by
  cases incident with
  | reported other report =>
    exact share.spared (report.sparing (beq_eq_false_iff_ne.mp deleted) share.left share.silent)
  | registered | retried | rated => cases deleted

/-! ## Runs in which nothing fails -/

theorem Incident.perform_cases (incident : Incident) :
    (∃ operation : Operation, incident.perform = operation.perform lookup) ∨
      ∃ list, incident = .rated list := by
  cases incident with
  | reported txid report => exact .inl ⟨report.operation txid, rfl⟩
  | registered address since => exact .inl ⟨.addAddress address since, rfl⟩
  | retried => exact .inl ⟨.retry, rfl⟩
  | rated list => exact .inr ⟨list, rfl⟩

/-- An operation does not fail where the conversions do not: no tracker is behind itself. -/
theorem Operation.succeeds (operation : Operation) (regular : t.Regular rates)
    (nonneg : rates.NonNegative) (sound : (Run.after (operation.perform lookup) t).Sound) :
    Run.Succeeds (operation.perform lookup) t ∧
      (Run.after (operation.perform lookup) t).Regular rates := by
  have itself : Behind rates rates t t := by
    refine ⟨regular, regular, ⟨fun _ _ rated => rated, nonneg⟩, SameFeed.refl t, fun _ => rfl,
      fun number s s' found found' => ?_, fun _ made => made, fun _ => .inl⟩
    rw [found] at found'
    exact .inl (Option.some.inj found').symm
  have joint := operation.tied_perform itself sound
  exact ⟨joint.left, joint.behind.left⟩

theorem Sound.before_perform {incident : Incident}
    (sound : (Run.after incident.perform t).Sound) : t.Sound := by
  rcases incident.perform_cases with ⟨operation, same⟩ | ⟨list, rfl⟩
  · rw [same] at sound
    exact sound.before ((operation.spanning_perform spanning_lookup fun _ _ => trivial).moves t)
  · exact ⟨sound.amounts, sound.conversions⟩

/-- Whatever is sound in the end of a run was so in the beginning. -/
theorem Sound.before_undergo {incidents : List Incident}
    (sound : (Run.after (undergo incidents) t).Sound) : t.Sound := by
  induction incidents generalizing t with
  | nil => exact sound
  | cons incident incidents ih =>
    change (Run.after (incident.perform >>= fun _ => undergo incidents) t).Sound at sound
    rw [Run.after_bind] at sound
    split at sound
    · exact (ih sound).before_perform
    · exact sound.before_perform

/--
Nothing fails in a run in which no amount and no rate is below zero and every
conversion that is made succeeds.
-/
theorem succeeds_of_sound {incidents : List Incident} (regular : t.Regular rates)
    (nonneg : rates.NonNegative) (later : ∀ list, .rated list ∈ incidents → list.NonNegative)
    (sound : (Run.after (undergo incidents) t).Sound) : Run.Succeeds (undergo incidents) t := by
  induction incidents generalizing rates t with
  | nil => exact ⟨(), rfl⟩
  | cons incident incidents ih =>
    have later' : ∀ list, .rated list ∈ incidents → list.NonNegative :=
      fun list inside => later list (.tail _ inside)
    change (Run.after (incident.perform >>= fun _ => undergo incidents) t).Sound at sound
    change Run.Succeeds (incident.perform >>= fun _ => undergo incidents) t
    rcases incident.perform_cases with ⟨operation, same⟩ | ⟨list, rfl⟩
    · rw [same] at sound ⊢
      have here : (Run.after (operation.perform lookup) t).Sound := by
        rw [Run.after_bind] at sound
        split at sound
        · exact sound.before_undergo
        · exact sound
      obtain ⟨first, regular'⟩ := operation.succeeds regular nonneg here
      rw [first.after_seq.2] at sound
      exact first.seq (ih regular' nonneg later' sound)
    · have first : Run.Succeeds (Incident.rated list).perform t := ⟨(), rfl⟩
      rw [first.after_seq.2] at sound
      exact first.seq (ih (regular.exchanged list) (later list (.head _)) later' sound)

/-- What happens first in a run that gives a result gives a result. -/
theorem succeeds_before {before incidents : List Incident} (passed : before <+: incidents)
    (succeeds : Run.Succeeds (undergo incidents) t) : Run.Succeeds (undergo before) t := by
  obtain ⟨later, rfl⟩ := passed
  induction before generalizing t with
  | nil => exact ⟨(), rfl⟩
  | cons incident before ih =>
    obtain ⟨first, rest⟩ := succeeds.of_seq
    exact first.seq (ih rest)

/-! ## Two runs -/

theorem SameShare.happened (share : SameShare txid rates t u) {incidents : List Incident}
    (succeeds : Run.Succeeds (undergo incidents) t) :
    ∃ rates', Parallel txid rates' (undergo incidents) t
      (undergo (incidents.filter (·.concerns txid))) u := by
  induction incidents generalizing rates t u with
  | nil => exact ⟨rates, share.parallel_pure PUnit.unit PUnit.unit⟩
  | cons incident incidents ih =>
    obtain ⟨first, rest⟩ := succeeds.of_seq
    cases concerns : incident.concerns txid with
    | true =>
      obtain ⟨rates', parallel⟩ := share.performed first concerns
      obtain ⟨rates'', others⟩ := ih parallel.share rest
      rw [List.filter_cons_of_pos concerns]
      exact ⟨rates'', parallel.seq first others⟩
    | false =>
      obtain ⟨rates', others⟩ := ih (share.deleted concerns) rest
      rw [List.filter_cons_of_neg (by rw [concerns]; exact Bool.false_ne_true)]
      exact ⟨rates', others.skip first⟩

theorem sameShare_start {manner : FeedManner} (silent : manner.announcedAtOnce = [])
    (rates : RateList) (txid : String) :
    SameShare txid rates (start manner rates) (start manner rates) where
  left := regular_start manner rates
  right := regular_start manner rates
  silent := silent
  setting := rfl
  length := rfl
  sightings := fun _ _ here => by cases here
  subscriptions := .nil
  credits := rfl

/--
Transactions do not interfere.  In a run in which nothing fails, and in which the feed
announces nothing while it is subscribed to, the reports of all other transactions may
be deleted: then nothing fails either, and after every incident the same has become of
every output of the transaction.  When nothing fails is told by `succeeds_of_sound`.
-/
theorem transactions_isolated (manner : FeedManner) (silent : manner.announcedAtOnce = [])
    (rates : RateList) (incidents : List Incident)
    (succeeds : Run.Succeeds (undergo incidents) (start manner rates)) (txid : String)
    {before : List Incident} (passed : before <+: incidents) :
    Run.Succeeds (undergo (before.filter (·.concerns txid))) (start manner rates) ∧
      ∀ output : Outpoint, output.txid = txid →
        (Run.after (undergo (before.filter (·.concerns txid))) (start manner rates)).outcomeOf
            output =
          (Run.after (undergo before) (start manner rates)).outcomeOf output := by
  obtain ⟨rates', parallel⟩ :=
    (sameShare_start silent rates txid).happened (succeeds_before passed succeeds)
  exact ⟨parallel.right, fun output own => parallel.share.outcomeOf_eq own⟩

/-- The payments of two transactions wait for their rates, of which only one becomes known. -/
def mingled : List Incident :=
  [.registered "address" 0,
    .reported "other" (.received [("address", 100000000)] .pending none),
    .reported "tx" (.received [("address", 25000000), ("elsewhere", 5)] .pending none),
    .reported "other" (.announced .building (some 9)),
    .reported "tx" (.announced .building (some 7)),
    .retried,
    .rated { entries := [(7, .finite false 3000055 (-2))] },
    .retried,
    .reported "other" (.called 0 .dead none),
    .reported "tx" (.shown 0 "address" 25000000 .inConflict none)]

theorem transactions_isolated_mingled :
    (Run.after (undergo mingled) (start {} {})).awaitingCredit = [0] ∧
      (mingled.filter (·.concerns "tx")).length = 7 ∧
      Run.Succeeds (undergo (mingled.filter (·.concerns "tx"))) (start {} {}) ∧
      (Run.after (undergo ((mingled.take 6).filter (·.concerns "tx"))) (start {} {})).outcomeOf
        ⟨"tx", 0⟩ = ⟨some .confirmed, some 7, false, true, 1, []⟩ ∧
      (Run.after (undergo (mingled.filter (·.concerns "tx"))) (start {} {})).outcomeOf ⟨"tx", 0⟩ =
        ⟨some .confirmed, none, true, false, 0, [.finite false 750013 (-2)]⟩ := by
  have succeeds : Run.Succeeds (undergo mingled) (start {} {}) := ⟨(), by decide +kernel⟩
  obtain ⟨-, midway⟩ :=
    transactions_isolated {} rfl {} mingled succeeds "tx" (List.take_prefix 6 mingled)
  obtain ⟨alone, ended⟩ :=
    transactions_isolated {} rfl {} mingled succeeds "tx" (List.prefix_refl mingled)
  refine ⟨by decide +kernel, by decide +kernel, alone, ?_, ?_⟩
  · rw [midway ⟨"tx", 0⟩ rfl]
    decide +kernel
  · rw [ended ⟨"tx", 0⟩ rfl]
    decide +kernel

end Tracking

end Paywatch
