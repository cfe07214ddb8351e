import Paywatch.Payment.Tracker
import Paywatch.Proofs.Run

/-!
# Beside another outside

The tracker never looks at what lies outside; only questions do.  What it does
beside one outside is therefore the image of what it does beside another one, if
the questions are.
-/

namespace Paywatch

namespace Tracking

variable {ω ψ : Type}

/-- The tracker beside another outside. -/
def beside (f : ω → ψ) (t : Tracking ω) : Tracking ψ :=
  { t with outside := f t.outside }

@[simp]
theorem beside_open? (f : ω → ψ) (t : Tracking ω) (output : Outpoint) :
    (t.beside f).open? output = t.open? output := rfl

/-- A step does beside one outside what another step does beside the other one. -/
abbrev Beside {α : Type} (f : ω → ψ) (x : Run (Tracking ω) α) (y : Run (Tracking ψ) α) : Prop :=
  ∀ t, Run.Mirrors (beside f) x y t

variable {f : ω → ψ}

/-! ## Small steps -/

theorem beside_note (event : TrackingEvent) : Beside f (note event) (note event) :=
  fun _ => .of_modify rfl

theorem beside_log (level : Level) (text : String) (cause : Option Failure) :
    Beside f (log level text cause) (log level text cause) :=
  beside_note _

theorem beside_change (number : Nat) (g : Sighting → Sighting) :
    Beside f (change number g) (change number g) :=
  fun _ => .of_modify rfl

theorem beside_release (number : Nat) : Beside f (release number) (release number) := by
  intro t
  unfold release
  refine .of_get ?_
  simp only [beside]
  cases t.sightings[number]?.bind (·.subscription) with
  | none => exact .of_pure ()
  | some id =>
    refine (beside_change number _ t).bind fun _ => (beside_note _ _).bind fun _ => .of_modify ?_
    rw [apply_ite (beside f)]
    rfl

/-! ## Crediting -/

theorem beside_enter (output : Output) (usd : Decimal) :
    Beside f (enter output usd) (enter output usd) := by
  intro t
  unfold enter
  have entered : Run.Mirrors (beside f)
      (Run.within (·.ledger) (fun ledger (t : Tracking ω) => { t with ledger := ledger })
        (Ledger.commit output.outpoint usd))
      (Run.within (·.ledger) (fun ledger (t : Tracking ψ) => { t with ledger := ledger })
        (Ledger.commit output.outpoint usd)) t := ⟨rfl, rfl⟩
  refine entered.attempt.bind fun result => ?_
  split
  · exact (beside_log _ _ _ _).bind fun _ => .of_throw _
  · exact .of_except _

theorem beside_settle (number : Nat) (output : Output) (height : Int) (rate : Decimal) :
    Beside f (settle number output height rate) (settle number output height rate) := by
  intro t
  unfold settle
  refine (Run.Mirrors.of_except _).bind fun usd => .of_get (.of_ite .rfl ?_ ?_)
  · exact (beside_log _ _ _ _).bind fun _ => .of_pure false
  · exact (beside_enter output usd _).bind fun total => (beside_note _ _).bind fun _ =>
      (beside_change number _ _).bind fun _ => (beside_release number _).bind fun _ =>
      (beside_log _ _ _ _).bind fun _ => .of_pure true

theorem beside_logNoRate (output : Output) (height : Int) (failure : Failure) :
    Beside f (logNoRate output height failure) (logNoRate output height failure) := by
  intro t
  unfold logNoRate
  split <;> exact beside_log _ _ _ t

/-! ## Functions that ask -/

section

variable {ask : Int → Run (Tracking ω) Decimal} {reply : Int → Run (Tracking ψ) Decimal}
  (asking : ∀ height, Beside f (ask height) (reply height))

include asking

theorem beside_credit (number : Nat) : Beside f (credit ask number) (credit reply number) := by
  intro t
  unfold credit
  refine .of_get ?_
  simp only [beside]
  cases t.sightings[number]? with
  | none => exact .of_pure false
  | some s =>
    refine .of_ite .rfl (.of_pure false) ?_
    · cases s.phase.height? with
      | none => exact (beside_log _ _ _ _).bind fun _ => .of_pure false
      | some height =>
        refine (beside_note _ _).bind fun _ => (asking height _).attempt.bind fun answer =>
          (beside_note _ _).bind fun _ => ?_
        cases answer with
        | error failure => exact (beside_logNoRate _ _ _ _).bind fun _ => .of_pure false
        | ok rate => exact beside_settle _ _ _ _ _

theorem beside_react (number : Nat) (confidence : Confidence) (height : Option Int) :
    Beside f (react ask number confidence height) (react reply number confidence height) := by
  intro t
  unfold react
  refine .of_get ?_
  simp only [beside]
  cases t.sightings[number]? with
  | none => exact .of_pure ()
  | some s =>
    refine (beside_note _ _).bind fun _ => (beside_change _ _ _).bind fun _ => ?_
    refine .of_ite .rfl ?_ ?_
    · exact (beside_log _ _ _ _).bind fun _ => (beside_release _ _).bind fun _ =>
        .of_ite .rfl (beside_credit asking _ _).discard (.of_pure _)
    · exact .of_ite .rfl (beside_credit asking _ _).discard (.of_pure _)

theorem beside_confidenceChanged (output : Outpoint) (confidence : Confidence)
    (height : Option Int) : Beside f (confidenceChanged ask output confidence height)
      (confidenceChanged reply output confidence height) := by
  intro t
  unfold confidenceChanged
  refine .of_get ?_
  rw [beside_open?]
  cases t.open? output with
  | none => exact .of_pure ()
  | some number => exact beside_react asking number confidence height t

theorem beside_announce (txid : String) (confidence : Confidence) (height : Option Int) :
    Beside f (announce ask txid confidence height) (announce reply txid confidence height) := by
  intro t
  unfold announce Feed.announce
  refine .of_get (.bind (.forM (fun sub s => ?_) _ t) fun _ => .of_pure _)
  cases sub.callback with
  | received => exact .of_pure ()
  | confidence output => exact beside_confidenceChanged asking output confidence height s

theorem beside_subscribe (output : Outpoint) :
    Beside f (subscribe ask output) (subscribe reply output) := by
  intro t
  unfold subscribe
  refine .of_get (.bind (.of_modify rfl) fun _ => .of_get (.bind (.forM (fun report s => ?_) _ _)
    fun _ => .of_pure _))
  exact (beside_announce asking _ _ _ s).discard

theorem beside_follow (number : Nat) (output : Output) :
    Beside f (follow ask number output) (follow reply number output) := by
  intro t
  unfold follow
  refine (beside_log _ _ _ _).bind fun _ => (beside_subscribe asking _ _).bind fun id =>
    (beside_change _ _ _).bind fun _ => .of_get ?_
  exact .of_ite .rfl (beside_release _ _) (.of_pure _)

theorem beside_observe (output : Output) : Beside f (observe ask output) (observe reply output) := by
  intro t
  unfold observe
  refine .of_get (.bind (.of_modify rfl) fun _ => (beside_note _ _).bind fun _ =>
    (beside_note _ _).bind fun _ => ?_)
  simp only [beside]
  cases Phase.atFirst output.confidence output.height with
  | confirmed => exact (beside_credit asking _ _).discard
  | discarded => exact beside_log _ _ _ _
  | observed | credited => exact beside_follow asking _ _ _

theorem beside_outputReceived (output : Output) :
    Beside f (outputReceived ask output) (outputReceived reply output) := by
  intro t
  unfold outputReceived
  refine .of_get (.of_ite .rfl (.of_pure ()) (.of_ite .rfl (.of_pure ()) ?_))
  rw [beside_open?]
  cases t.open? output.outpoint with
  | none => exact beside_observe asking output t
  | some number => exact beside_react asking number _ _ t

theorem beside_creditAll (numbers : List Nat) :
    Beside f (creditAll ask numbers) (creditAll reply numbers) := by
  induction numbers with
  | nil => exact fun _ => .of_pure 0
  | cons number numbers ih =>
    exact fun t => (beside_credit asking number t).bind fun _ => (ih _).bind fun _ => .of_pure _

theorem beside_retry : Beside f (retry ask) (retry reply) := by
  intro t
  unfold retry
  exact .of_get (.of_ite .rfl ((beside_log _ _ _ _).bind fun _ => beside_creditAll asking _ _)
    (beside_creditAll asking _ _))

end

theorem beside_addAddress (address : String) (since : Int) :
    Beside f (addAddress address since) (addAddress address since) := by
  intro t
  unfold addAddress
  exact (beside_log _ _ _ _).bind fun _ => .of_get (.bind (.of_modify rfl) fun _ => beside_note _ _)

end Tracking

end Paywatch
