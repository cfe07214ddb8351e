import Paywatch.Proofs.Payment.Beside
import Paywatch.Proofs.Payment.Evolution

/-!
# Counting first sightings

A delivered output is sighted for the first time if its address is watched and
it is at that moment neither followed nor credited.  A count of these is kept
outside of the tracker, so that the tracker cannot see it: right before an output
is delivered the count goes up by one if the output is sighted for the first time.
Every run has a count, and the count goes up whenever a sighting begins.
-/

namespace Paywatch

namespace Tracking

variable {ω : Type}

/-! ## First sightings -/

/-- Is a delivered output sighted for the first time? -/
def isFirst (t : Tracking ω) (output : Output) : Bool :=
  t.feed.isWatched output.address && !t.isProcessed output.outpoint &&
    (t.open? output.outpoint).isNone

/-- Count an output that is about to be delivered. -/
def tally (output : Output) : Run (Tracking (ω × Nat)) Unit :=
  modify fun t => { t with outside := (t.outside.1, t.outside.2 + (t.isFirst output).toNat) }

/-- An output is counted and delivered. -/
def tallyReceived (ask : Int → Run (Tracking (ω × Nat)) Decimal) (output : Output) :
    Run (Tracking (ω × Nat)) Unit := do
  tally output
  outputReceived ask output

/-- A transaction reaches the feed; each output is counted when it is delivered. -/
def tallyReceive (ask : Int → Run (Tracking (ω × Nat)) Decimal) (outputs : List Output) :
    Run (Tracking (ω × Nat)) (List Output) :=
  Feed.deliver (·.feed)
    (fun callback output => match callback with
      | .received => tallyReceived ask output
      | .confidence _ => return)
    outputs

/-- Perform an operation and count the outputs that it delivers. -/
def Operation.performTallied (ask : Int → Run (Tracking (ω × Nat)) Decimal) :
    Operation → Run (Tracking (ω × Nat)) Unit
  | .receive outputs => discard (tallyReceive ask outputs)
  | .output reported => tallyReceived ask reported
  | operation => operation.perform ask

/-- What becomes of a tracker and of the count; nothing else changes the count. -/
inductive Tallied : Tracking (ω × Nat) → Tracking (ω × Nat) → Prop where
  | refl (t : Tracking (ω × Nat)) : Tallied t t
  | outside {t u : Tracking (ω × Nat)} (before : Tallied t u)
      (announced : List (String × List (Confidence × Option Int))) (outside : ω) :
      Tallied t { u with
        manner := { u.manner with announcedAtOnce := announced }
        outside := (outside, u.outside.2) }
  | logged {t u : Tracking (ω × Nat)} (before : Tallied t u) (record : LogRecord) :
      Tallied t (u.noted [.logged record])
  | perform {t u : Tracking (ω × Nat)} (before : Tallied t u)
      (ask : Int → Run (Tracking (ω × Nat)) Decimal)
      (reentrant : ∀ height s, Tallied s (Run.after (ask height) s)) (operation : Operation) :
      Tallied t (Run.after (operation.performTallied ask) u)

/-! ## The count and the sightings -/

/-- By how much the count exceeds the number of sightings. -/
def surplus (t : Tracking (ω × Nat)) : Int :=
  t.outside.2 - t.sightings.length

theorem keeps_note (event : TrackingEvent) :
    Run.Keeps surplus (note event : Run (Tracking (ω × Nat)) Unit) :=
  fun _ => rfl

theorem keeps_change (number : Nat) (f : Sighting → Sighting) :
    Run.Keeps surplus (change number f : Run (Tracking (ω × Nat)) Unit) := by
  intro t
  change ((t.outside.2 : Int) - (t.sightings.modify number f).length) = surplus t
  rw [List.length_modify, surplus]

theorem keeps_release (number : Nat) :
    Run.Keeps surplus (release number : Run (Tracking (ω × Nat)) Unit) := by
  unfold release
  refine .of_get fun t => ?_
  cases t.sightings[number]?.bind (·.subscription) with
  | none => exact .of_pure ()
  | some id =>
    refine .bind (keeps_change number _) fun _ => .bind (keeps_note _) fun _ t => ?_
    rw [Run.after_modify]
    split <;> rfl

theorem keeps_settle (number : Nat) (output : Output) (height : Int) (rate : Decimal) :
    Run.Keeps surplus (settle number output height rate : Run (Tracking (ω × Nat)) Bool) := by
  have entering (usd : Decimal) :
      Run.Keeps surplus (enter output usd : Run (Tracking (ω × Nat)) Decimal) := by
    unfold enter
    refine .bind (fun _ => rfl) fun entered => ?_
    split
    · exact .bind (keeps_note _) fun _ => .of_throw _
    · exact .of_except _
  unfold settle
  refine .bind (.of_except _) fun usd => .of_get fun t => .of_ite ?_ ?_
  · exact .bind (keeps_note _) fun _ => .of_pure false
  · exact .bind (entering usd) fun total => .bind (keeps_note _) fun _ =>
      .bind (keeps_change number _) fun _ => .bind (keeps_release number) fun _ =>
      .bind (keeps_note _) fun _ => .of_pure true

section

variable {ask : Int → Run (Tracking (ω × Nat)) Decimal}
  (asking : ∀ height, Run.Keeps surplus (ask height))

include asking

theorem keeps_credit (number : Nat) : Run.Keeps surplus (credit ask number) := by
  unfold credit
  refine .of_get fun t => ?_
  split
  · exact .of_pure false
  · refine .of_ite (.of_pure false) ?_
    split
    · exact .bind (keeps_note _) fun _ => .of_pure false
    · refine .bind (keeps_note _) fun _ => .bind (asking _) fun answer =>
        .bind (keeps_note _) fun _ => ?_
      split
      · refine .bind ?_ fun _ => .of_pure false
        unfold logNoRate
        exact .of_ite (keeps_note _) (keeps_note _)
      · exact keeps_settle _ _ _ _

theorem keeps_react (number : Nat) (confidence : Confidence) (height : Option Int) :
    Run.Keeps surplus (react ask number confidence height) := by
  have tried : Run.Keeps surplus
      (if confidence = .building then discard (credit ask number) else pure PUnit.unit) :=
    .of_ite (keeps_credit asking number).discard (.of_pure _)
  unfold react
  refine .of_get fun t => ?_
  split
  · exact .of_pure ()
  · exact .bind (keeps_note _) fun _ => .bind (keeps_change _ _) fun _ => .of_ite
      (.bind (keeps_note _) fun _ => .bind (keeps_release _) fun _ => tried) tried

theorem keeps_confidenceChanged (output : Outpoint) (confidence : Confidence)
    (height : Option Int) :
    Run.Keeps surplus (confidenceChanged ask output confidence height) := by
  unfold confidenceChanged
  refine .of_get fun t => ?_
  split
  · exact .of_pure ()
  · exact keeps_react asking _ _ _

theorem keeps_announce (txid : String) (confidence : Confidence) (height : Option Int) :
    Run.Keeps surplus (announce ask txid confidence height) := by
  unfold announce Feed.announce
  refine .of_get fun t => .bind (.forM fun sub => ?_) fun _ => .of_pure _
  split
  · exact .of_pure ()
  · exact keeps_confidenceChanged asking _ _ _

theorem keeps_follow (number : Nat) (output : Output) :
    Run.Keeps surplus (follow ask number output) := by
  have subscribing : Run.Keeps surplus (subscribe ask output.outpoint) := by
    unfold subscribe
    exact .of_get fun t => .bind (fun _ => rfl) fun _ => .of_get fun t =>
      .bind (.forM fun _ => (keeps_announce asking _ _ _).discard) fun _ => .of_pure _
  unfold follow
  exact .bind (keeps_note _) fun _ => .bind subscribing fun id => .bind (keeps_change _ _) fun _ =>
    .of_get fun t => .of_ite (keeps_release _) (.of_pure _)

theorem keeps_retry : Run.Keeps surplus (retry ask) := by
  have all (numbers : List Nat) : Run.Keeps surplus (creditAll ask numbers) := by
    induction numbers with
    | nil => exact .of_pure 0
    | cons number numbers ih =>
      exact .bind (keeps_credit asking number) fun _ => .bind ih fun _ => .of_pure _
  unfold retry
  exact .of_get fun t => .of_ite (.bind (keeps_note _) fun _ => all _) (all _)

/-- A sighting begins, and the count exceeds the number of sightings by one less. -/
theorem surplus_observe (t : Tracking (ω × Nat)) (output : Output) :
    surplus (Run.after (observe ask output) t) = surplus t - 1 := by
  have begun : surplus (t.beginning output) = surplus t - 1 := by
    simp only [surplus, beginning, List.length_append, List.length_singleton]
    omega
  rw [(observe_eq ask t output).after, ← begun]
  cases Phase.atFirst output.confidence output.height with
  | confirmed => exact (keeps_credit asking _).discard _
  | discarded => rfl
  | observed | credited => exact keeps_follow asking _ _ _

/-- The count goes up when a sighting begins, and else it stays. -/
theorem keeps_tallyReceived (output : Output) : Run.Keeps surplus (tallyReceived ask output) := by
  intro t
  let counted : Tracking (ω × Nat) :=
    { t with outside := (t.outside.1, t.outside.2 + (t.isFirst output).toNat) }
  have idle (other : t.isFirst output = false) : surplus counted = surplus t := by
    simp [counted, surplus, other]
  change surplus (Run.after (outputReceived ask output) counted) = surplus t
  cases new : t.isProcessed output.outpoint with
  | true =>
    rw [(outputReceived_none ask (t := counted) (.inl new)).after]
    exact idle (by simp [isFirst, new])
  | false =>
    cases watched : t.feed.isWatched output.address with
    | false =>
      rw [(outputReceived_none ask (t := counted) (.inr watched)).after]
      exact idle (by simp [isFirst, watched])
    | true =>
      cases known : t.open? output.outpoint with
      | none =>
        have first : t.isFirst output = true := by simp [isFirst, new, watched, known]
        rw [(outputReceived_unknown ask (t := counted) new watched known).after,
          surplus_observe asking]
        simp only [counted, surplus, first, Bool.toNat_true]
        omega
      | some number =>
        rw [(outputReceived_known ask (t := counted) new watched known).after,
          keeps_react asking number]
        exact idle (by simp [isFirst, known])

theorem Operation.keeps_performTallied (operation : Operation) :
    Run.Keeps surplus (operation.performTallied ask) := by
  cases operation with
  | receive outputs =>
    refine .discard (.of_get fun t => .of_ite ?_ (.of_pure _))
    refine .bind (.forM fun delivery => ?_) fun _ => .of_pure _
    obtain ⟨callback, output⟩ := delivery
    cases callback with
    | received => exact keeps_tallyReceived asking output
    | confidence => exact .of_pure ()
  | output reported => exact keeps_tallyReceived asking reported
  | addAddress address since =>
    exact .bind (keeps_note _) fun _ => .of_get fun t => .bind (fun _ => rfl) fun _ => keeps_note _
  | announce txid confidence height => exact (keeps_announce asking txid confidence height).discard
  | callback outpoint confidence height =>
    exact keeps_confidenceChanged asking outpoint confidence height
  | retry => exact (keeps_retry asking).discard

end

/-- The count goes up whenever a sighting begins, also during questions. -/
theorem Tallied.surplus_eq {t u : Tracking (ω × Nat)} (tallied : Tallied t u) :
    surplus u = surplus t := by
  induction tallied with
  | refl => rfl
  | outside _ announced outside ih => exact ih
  | logged _ record ih => exact ih
  | perform _ ask _ operation ih asking =>
    exact (operation.keeps_performTallied asking _).trans ih

/-! ## Every run has a count -/

def counting (t : Tracking ω) (count : Nat) : Tracking (ω × Nat) :=
  t.beside fun outside => (outside, count)

def uncounted (t : Tracking (ω × Nat)) : Tracking ω :=
  t.beside Prod.fst

section

variable {ask : Int → Run (Tracking ω) Decimal} {reply : Int → Run (Tracking (ω × Nat)) Decimal}
  (asking : ∀ height, Beside Prod.fst (reply height) (ask height))

include asking

theorem beside_tallyReceived (output : Output) :
    Beside Prod.fst (tallyReceived reply output) (outputReceived ask output) := by
  intro t
  have counted : Run.Mirrors (beside Prod.fst) (tally output) (pure ()) t := ⟨rfl, rfl⟩
  rw [← pure_bind () fun _ => outputReceived ask output]
  exact counted.bind fun _ => beside_outputReceived asking output _

/-- Counting the outputs does not change what an operation does. -/
theorem Operation.beside_performTallied (operation : Operation) :
    Beside Prod.fst (operation.performTallied reply) (operation.perform ask) := by
  intro t
  cases operation with
  | receive outputs =>
    refine Run.Mirrors.discard (.of_get (.of_ite .rfl ?_ (.of_pure _)))
    refine .bind (.forM (fun delivery s => ?_) _ t) fun _ => .of_pure _
    obtain ⟨callback, output⟩ := delivery
    cases callback with
    | received => exact beside_tallyReceived asking output s
    | confidence => exact .of_pure ()
  | output reported => exact beside_tallyReceived asking reported t
  | addAddress address since => exact beside_addAddress address since t
  | announce txid confidence height =>
    exact (beside_announce asking txid confidence height t).discard
  | callback outpoint confidence height =>
    exact beside_confidenceChanged asking outpoint confidence height t
  | retry => exact (beside_retry asking t).discard

end

/-- Whatever becomes of a tracker becomes of it beside a count. -/
theorem Evolves.tallied {t u : Tracking ω} (evolves : Evolves t u) :
    ∀ t' : Tracking (ω × Nat), t'.uncounted = t → ∃ u', Tallied t' u' ∧ u'.uncounted = u := by
  induction evolves with
  | refl => exact fun t' same => ⟨t', .refl t', same⟩
  | outside _ announced outside ih =>
    intro t' same
    obtain ⟨u', tallied, rfl⟩ := ih t' same
    exact ⟨_, tallied.outside announced outside, rfl⟩
  | logged _ record ih =>
    intro t' same
    obtain ⟨u', tallied, rfl⟩ := ih t' same
    exact ⟨_, tallied.logged record, rfl⟩
  | perform _ ask _ operation ih asking =>
    intro t' same
    obtain ⟨u', tallied, rfl⟩ := ih t' same
    -- The counted question does what the question does, and counts what is delivered during it.
    let reply (height : Int) : Run (Tracking (ω × Nat)) Decimal := fun s =>
      (Run.outcome (ask height) s.uncounted, Classical.choose (asking height s.uncounted s rfl))
    have chosen (height : Int) (s : Tracking (ω × Nat)) :=
      Classical.choose_spec (asking height s.uncounted s rfl)
    have repeats (height : Int) : Beside Prod.fst (reply height) (ask height) :=
      fun s => ⟨rfl, (chosen height s).2.symm⟩
    exact ⟨_, tallied.perform reply (fun height s => (chosen height s).1) operation,
      (operation.beside_performTallied repeats u').after.symm⟩

end Tracking

end Paywatch
