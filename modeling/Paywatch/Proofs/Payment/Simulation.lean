import Paywatch.Proofs.Payment.Bookkeeping
import Paywatch.Proofs.Payment.Register

/-!
# The tracker with a book does what the one with the register does

Every function of the tracker with a book gives the result of the same function of
the tracker with the register, and leaves a book that stands for the register which
that one leaves.  Between two functions the book is sound.
-/

namespace Paywatch

namespace Book

open Run

variable {ω α β : Type} {b c : Book ω} {number : Nat} {o : TrackedOutput}

/--
A step on the book does what a step on the register does.  Something holds after
it, or it fails and leaves a sound book.
-/
structure Simulates (x : Run (Book ω) α) (y : Run (Tracking ω) α) (b : Book ω)
    (post : α → Book ω → Prop) : Prop where
  mirrors : Mirrors register x y b
  post : ∀ a, outcome x b = .ok a → post a (after x b)
  sound : ∀ failure, outcome x b = .error failure → (after x b).Sound none

/-- The book is sound, whatever the result is. -/
abbrev Leaves (_ : α) (b : Book ω) : Prop :=
  b.Sound none

namespace Simulates

variable {x : Run (Book ω) α} {y : Run (Tracking ω) α} {post : α → Book ω → Prop}
  {rest : β → Book ω → Prop}

theorem of_pure {a : α} (holds : post a b) : Simulates (pure a) (pure a) b post where
  mirrors := .of_pure a
  post := fun _ ok => by cases ok; exact holds
  sound := fun _ failed => nomatch failed

theorem of_except (sound : b.Sound none) (result : Except Failure α) :
    Simulates (Run.ofExcept result) (Run.ofExcept result) b fun a c => c = b ∧ result = .ok a where
  mirrors := .of_except result
  post := fun a ok => by
    rw [outcome_ofExcept] at ok
    exact ⟨after_ofExcept result b, ok⟩
  sound := fun _ _ => by rwa [after_ofExcept]

theorem bind {k : α → Run (Book ω) β} {l : α → Run (Tracking ω) β} (first : Simulates x y b post)
    (later : ∀ a c, post a c → Simulates (k a) (l a) c rest) :
    Simulates (x >>= k) (y >>= l) b rest := by
  cases result : outcome x b with
  | ok a =>
    have second := later a _ (first.post a result)
    refine ⟨⟨?_, ?_⟩, ?_, ?_⟩
    · rw [outcome_bind, outcome_bind, first.mirrors.outcome, first.mirrors.after, result]
      exact second.mirrors.outcome
    · rw [after_bind, after_bind, first.mirrors.outcome, first.mirrors.after, result]
      exact second.mirrors.after
    · rw [outcome_bind, after_bind, result]
      exact second.post
    · rw [outcome_bind, after_bind, result]
      exact second.sound
  | error failure =>
    refine ⟨⟨?_, ?_⟩, ?_, ?_⟩
    · rw [outcome_bind, outcome_bind, first.mirrors.outcome, result]
    · rw [after_bind, after_bind, first.mirrors.outcome, first.mirrors.after, result]
    · rw [outcome_bind, result]
      exact fun _ ok => nomatch ok
    · rw [after_bind, result]
      exact fun _ _ => first.sound failure result

theorem of_get {k : Book ω → Run (Book ω) β} {l : Tracking ω → Run (Tracking ω) β}
    (later : Simulates (k b) (l b.register) b rest) : Simulates (get >>= k) (get >>= l) b rest :=
  ⟨.of_get later.mirrors, later.post, later.sound⟩

theorem of_ite {p q : Prop} [Decidable p] [Decidable q] {x' : Run (Book ω) α}
    {y' : Run (Tracking ω) α} (same : p ↔ q) (then_ : p → Simulates x y b post)
    (else_ : ¬ p → Simulates x' y' b post) :
    Simulates (if p then x else x') (if q then y else y') b post := by
  by_cases holds : p
  · rw [if_pos holds, if_pos (same.mp holds)]
    exact then_ holds
  · rw [if_neg holds, if_neg fun other => holds (same.mpr other)]
    exact else_ holds

theorem mono (simulates : Simulates x y b post) {post' : α → Book ω → Prop}
    (weaker : ∀ a c, post a c → post' a c) : Simulates x y b post' :=
  ⟨simulates.mirrors, fun a ok => weaker a _ (simulates.post a ok), simulates.sound⟩

/-- Other steps from other states that do the same. -/
theorem of_alike {x' : Run (Book ω) α} {y' : Run (Tracking ω) α} {b' : Book ω}
    (left : Alike x b x' b') (right : Alike y b.register y' b'.register)
    (simulates : Simulates x' y' b' post) : Simulates x y b post where
  mirrors := ⟨by rw [left.outcome, right.outcome, simulates.mirrors.outcome],
    by rw [left.after, right.after, simulates.mirrors.after]⟩
  post := by rw [left.outcome, left.after]; exact simulates.post
  sound := by rw [left.outcome, left.after]; exact simulates.sound

theorem leaves (simulates : Simulates x y b Leaves) : (after x b).Sound none := by
  cases result : outcome x b with
  | ok a => exact simulates.post a result
  | error failure => exact simulates.sound failure result

theorem discard (simulates : Simulates x y b Leaves) :
    Simulates (Functor.discard x) (Functor.discard y) b Leaves := by
  rw [discard_eq, discard_eq]
  exact simulates.bind fun _ _ sound => of_pure sound

/-- A step that may fail leaves a sound book in either case. -/
theorem attempt (simulates : Simulates x y b Leaves) :
    Simulates (Run.attempt x) (Run.attempt y) b
      fun _ c => c.Sound none ∧ c.register = after y b.register where
  mirrors := simulates.mirrors.attempt
  post := fun _ _ => by
    rw [after_attempt]
    exact ⟨simulates.leaves, simulates.mirrors.after.symm⟩
  sound := fun _ failed => nomatch failed

theorem forM {g : α → Run (Book ω) PUnit} {h : α → Run (Tracking ω) PUnit}
    (each : ∀ a c, c.Sound none → Simulates (g a) (h a) c Leaves) (as : List α)
    (sound : b.Sound none) : Simulates (as.forM g) (as.forM h) b Leaves := by
  induction as generalizing b with
  | nil => exact of_pure sound
  | cons a as ih => exact (each a b sound).bind fun _ _ => ih

end Simulates

/-! ## What has nothing to do with the map -/

def noted (b : Book ω) (events : List TrackingEvent) : Book ω :=
  { b with journal := b.journal ++ events }

theorem Sound.noted {resolving : Option Nat} (sound : b.Sound resolving)
    (events : List TrackingEvent) : (b.noted events).Sound resolving :=
  sound.of_bare rfl rfl rfl fun _ => id

theorem simulates_note (b : Book ω) (event : TrackingEvent) :
    Simulates (aside (Tracking.note event)) (Tracking.note event) b
      fun _ c => c = b.noted [event] :=
  ⟨⟨rfl, rfl⟩, fun _ _ => rfl, fun _ failed => nomatch failed⟩

theorem simulates_log (b : Book ω) (level : Level) (text : String) (cause : Option Failure) :
    Simulates (aside (Tracking.log level text cause)) (Tracking.log level text cause) b
      fun _ c => c = b.noted [.logged ⟨level, text, cause⟩] :=
  simulates_note b _

theorem simulates_logNoRate (b : Book ω) (output : Output) (height : Int) (failure : Failure) :
    Simulates (aside (Tracking.logNoRate output height failure))
      (Tracking.logNoRate output height failure) b
      fun _ c => ∃ record, c = b.noted [.logged record] := by
  obtain ⟨level, text, cause, logged⟩ := Tracking.logNoRate_eq_log (ω := ω) output height failure
  rw [logged]
  exact (simulates_log b level text cause).mono fun _ _ same => ⟨_, same⟩

/-- A step on everything but the sightings. -/
theorem simulates_aside {step : Run (Tracking ω) α} (sound : b.Sound none)
    (sightings : (after step b.register).sightings = b.register.sightings)
    (ledger : ∀ output, b.ledger.contains output = true →
      (after step b.register).ledger.contains output = true) :
    Simulates (aside step) step b fun a c =>
      c.Sound none ∧ c.objects = b.objects ∧ outcome step b.register = .ok a ∧
        c.ledger = (after step b.register).ledger := by
  have left : (after (aside step) b).Sound none := sound.of_bare rfl rfl rfl ledger
  refine ⟨⟨rfl, ?_⟩, fun a ok => ⟨left, rfl, ok, rfl⟩, fun _ _ => left⟩
  change _ = { after step b.register with sightings := b.register.sightings }
  rw [← sightings]

/-! ## Resolving -/

/-- The book with another subscription of an output. -/
def holding (b : Book ω) (number : Nat) (subscription : Option Nat) : Book ω :=
  { b with
    objects := b.objects.modify number fun o => { o with subscription := subscription } }

theorem register_holding (b : Book ω) (number : Nat) (subscription : Option Nat) :
    (b.holding number subscription).register = b.register.holding number subscription := by
  have mapped : (b.holding number subscription).register.sightings =
      b.register.sightings.modify number fun s => { s with subscription := subscription } :=
    map_modify fun _ _ => rfl
  rw [Tracking.holding, ← mapped]
  rfl

theorem Sound.holding {resolving : Option Nat} (sound : b.Sound resolving) (number : Nat)
    (subscription : Option Nat) : (b.holding number subscription).Sound resolving :=
  sound.of_bare (map_modify_of_same fun _ => rfl) rfl rfl fun _ => id

/-- An output leaves the map only if it is the one that is tracked under its outpoint. -/
theorem release_eq (found : b.objects[number]? = some o) :
    outcome (release number) b = .ok o.subscription ∧
      after (release number) b =
        (if b.tracked? o.output.outpoint = some number then b.without o else b).holding number
          none := by
  by_cases own : b.tracked? o.output.outpoint = some number
  · simp [release, found, own, change, Book.holding]
  · simp [release, found, own, change, Book.holding]

theorem Sound.release (sound : b.Sound none ∨ b.Sound (some number))
    (found : b.objects[number]? = some o) (closed : o.phase.isOpen = false) :
    (after (release number) b).Sound none := by
  rw [(release_eq found).2]
  refine Sound.holding ?_ number none
  rcases sound with sound | sound
  · have gone : b.tracked? o.output.outpoint ≠ some number := fun own => by
      obtain ⟨o', found', -, isOpen⟩ := sound.tracked?_eq_some.mp own
      rw [found] at found'
      cases found'
      rw [closed] at isOpen
      simp at isOpen
    rwa [if_neg gone]
  · rw [if_pos (sound.tracked?_eq_some.mpr ⟨o, found, rfl, .inr rfl⟩)]
    exact sound.without found closed

theorem cancel_eq (b : Book ω) (id : Nat) :
    outcome (cancel (some id)) b = .ok () ∧
      (after (cancel (some id)) b).register =
        (b.register.noted [.cancelled id]).cancelling id := by
  refine ⟨rfl, ?_⟩
  have sightings := Tracking.cancelling_sightings (b.register.noted [.cancelled id]) id
  change { (b.register.noted [.cancelled id]).cancelling id with
    sightings := b.register.sightings } = _
  exact congrArg (fun sightings =>
    { (b.register.noted [.cancelled id]).cancelling id with sightings }) sightings.symm

theorem Sound.cancel (sound : b.Sound none) (subscription : Option Nat) :
    (after (cancel subscription) b).Sound none := by
  cases subscription with
  | none => exact sound
  | some id =>
    refine sound.of_bare rfl rfl rfl fun output contained => ?_
    change ((b.register.noted [.cancelled id]).cancelling id).isProcessed output = true
    rw [Tracking.isProcessed, Tracking.cancelling_ledger]
    exact contained

/-- To resolve an output is to release its sighting. -/
theorem simulates_resolve (sound : b.Sound none ∨ b.Sound (some number))
    (found : b.objects[number]? = some o) (closed : o.phase.isOpen = false) :
    Simulates (resolve number) (Tracking.release number) b Leaves := by
  obtain ⟨subscription, released⟩ := release_eq found
  have register : (after (release number) b).register = b.register.holding number none := by
    rw [released, register_holding]
    split <;> rfl
  have held : b.register.sightings[number]?.bind (·.subscription) = o.subscription := by
    rw [register_getElem?, found]
    rfl
  have result : outcome (resolve number) b =
      outcome (cancel o.subscription) (after (release number) b) := by
    rw [resolve, outcome_bind, subscription]
  have ended : after (resolve number) b =
      after (cancel o.subscription) (after (release number) b) := by
    rw [resolve, after_bind, subscription]
  have left : (after (resolve number) b).Sound none :=
    ended ▸ (Sound.release sound found closed).cancel _
  refine ⟨⟨?_, ?_⟩, fun _ _ => left, fun _ _ => left⟩
  · rw [Tracking.outcome_release, result]
    cases o.subscription <;> rfl
  · rw [ended]
    cases given : o.subscription with
    | none =>
      rw [Tracking.after_release_none (held.trans given)]
      exact (register.trans (Tracking.holding_none (held.trans given))).symm
    | some id =>
      rw [Tracking.after_release_some (held.trans given), (cancel_eq _ id).2, register]

/-- An output without a subscription only leaves the map. -/
theorem simulates_resolve_of_none (sound : b.Sound (some number))
    (found : b.objects[number]? = some o) (closed : o.phase.isOpen = false)
    (held : o.subscription = none) : Simulates (resolve number) (pure ()) b Leaves := by
  have none : b.register.sightings[number]?.bind (·.subscription) = none := by
    rw [register_getElem?, found]
    exact held
  exact .of_alike ⟨rfl, rfl⟩
    ⟨(Tracking.outcome_release number _).symm, (Tracking.after_release_none none).symm⟩
    (simulates_resolve (.inr sound) found closed)

/-- A change of an output is one of its sighting. -/
theorem simulates_change {f : TrackedOutput → TrackedOutput} {g : Sighting → Sighting}
    (same : ∀ o, b.objects[number]? = some o → (f o).sighting = g o.sighting) :
    Simulates (change number f) (Tracking.change number g) b
      fun _ c => c = { b with objects := b.objects.modify number f } := by
  refine ⟨⟨rfl, ?_⟩, fun _ _ => rfl, fun _ failed => nomatch failed⟩
  change { b.register with sightings := b.register.sightings.modify number g } =
    { b.register with sightings := (b.objects.modify number f).map TrackedOutput.sighting }
  rw [map_modify same]
  rfl

/-! ## Crediting -/

/-- To enter a credit leaves the sightings, and an output that is entered is in the ledger. -/
theorem simulates_enter {output : Output} {usd : Decimal} (sound : b.Sound none)
    (new : b.ledger.contains output.outpoint = false) :
    Simulates (aside (Tracking.enter output usd)) (Tracking.enter output usd) b fun _ c =>
      c.Sound none ∧ c.objects = b.objects ∧ c.ledger.contains output.outpoint = true := by
  by_cases nonneg : usd.isNegative = .ok false
  · obtain ⟨-, summed, unsummed⟩ := Tracking.enter_new (t := b.register) nonneg new
    obtain ⟨total, entered⟩ : ∃ total, after (Tracking.enter output usd) b.register =
        b.register.entering output.outpoint total := by
      cases added : b.register.ledger.total.add usd with
      | ok sum => exact ⟨sum, summed sum added⟩
      | error signal => exact ⟨_, unsummed signal added⟩
    have contains (other : Outpoint) :
        (after (Tracking.enter output usd) b.register).ledger.contains other =
          (b.ledger.contains other || decide (other = output.outpoint)) := by
      rw [entered]
      exact Tracking.entering_isProcessed b.register output.outpoint other total
    refine (simulates_aside sound (by rw [entered]; rfl) fun other before => ?_).mono
      fun _ c left => ⟨left.1, left.2.1, ?_⟩
    · rw [contains, before, Bool.true_or]
    · rw [left.2.2.2, contains, decide_eq_true rfl, Bool.or_true]
  · obtain ⟨⟨failure, -, failed⟩, same⟩ := Tracking.enter_refused (t := b.register) nonneg
    refine (simulates_aside sound (by rw [same])
      fun other before => by rw [same]; exact before).mono fun _ c left => ?_
    rw [failed] at left
    cases left.2.2.1

/-- A credit is settled at a time when its output is still open, unless the ledger has it. -/
theorem simulates_settle {output : Output} (sound : b.Sound none)
    (still : b.ledger.contains output.outpoint = false → ∃ o, b.objects[number]? = some o ∧
      o.output = output ∧ o.phase.isOpen = true ∧ o.state = .confirmed)
    (height : Int) (rate : Decimal) :
    Simulates (settle number output height rate) (Tracking.settle number output height rate) b
      Leaves := by
  unfold settle Tracking.settle
  refine (Simulates.of_except sound _).bind ?_
  rintro usd c ⟨rfl, -⟩
  refine .of_get (.of_ite .rfl (fun _ => ?_) fun unprocessed => ?_)
  · refine (simulates_log _ _ _ _).bind ?_
    rintro _ _ rfl
    exact .of_pure (sound.noted _)
  · have new : c.ledger.contains output.outpoint = false := by simpa using unprocessed
    obtain ⟨o, found, rfl, isOpen, confirmed⟩ := still new
    refine (simulates_enter sound new).bind fun total c' entered => ?_
    obtain ⟨sound', objects, contains⟩ := entered
    refine (simulates_note _ _).bind ?_
    rintro _ _ rfl
    have found' : (c'.noted [.credited number o.output height rate usd]).objects[number]? =
        some o := objects ▸ found
    refine (simulates_change fun o _ => rfl).bind ?_
    rintro _ _ rfl
    have changed := (sound'.noted [.credited number o.output height rate usd]).change
      (f := fun o => { o with credited := true }) found' isOpen rfl
      ⟨fun other => absurd confirmed other, fun _ => ⟨confirmed, contains⟩⟩
    refine (simulates_resolve (.inr changed) (getElem?_modify_self found') rfl).bind
      fun _ c'' resolved => (simulates_log _ _ _ _).bind ?_
    rintro _ _ rfl
    exact .of_pure (Sound.noted resolved _)

/-- The book with a new output and its first report. -/
def begun (b : Book ω) (output : Output) : Book ω :=
  ((b.track output).noted [.sighted b.objects.length output]).noted
    [.reported b.objects.length output.confidence output.height]

theorem simulates_ignore {reply : Int → Run (Tracking ω) Decimal} (sound : b.Sound (some number))
    (found : b.objects[number]? = some o) (closed : o.phase.isOpen = false)
    (held : o.subscription = none) (output : Output) :
    Simulates (ignore number output) (Tracking.proceed reply number output .discarded) b
      Leaves := by
  rw [← bind_pure (Tracking.proceed reply number output .discarded)]
  refine (simulates_log b .warning _ none).bind ?_
  rintro ⟨⟩ _ rfl
  exact simulates_resolve_of_none (sound.noted _) found closed held

theorem observe_eq (ask : Int → Run (Book ω) Decimal) (b : Book ω) (output : Output) :
    Alike (observe ask output) b (firstReported ask b.objects.length output) (b.begun output) :=
  ⟨rfl, rfl⟩

/-- A new output that is changed by its first report stands for a new sighting. -/
theorem register_begun (b : Book ω) (output : Output) (f : TrackedOutput → TrackedOutput)
    (first : (f { output := output }).sighting =
      ⟨output, Phase.atFirst output.confidence output.height, none⟩) :
    register { b.begun output with
        objects := (b.begun output).objects.modify b.objects.length f } =
      b.register.beginning output := by
  have changed : (b.begun output).objects.modify b.objects.length f =
      b.objects ++ [f { output := output }] := modify_concat _ _ f
  rw [changed, Tracking.beginning, ← first]
  simp [register, begun, noted, track]

/-- A new output and a new sighting go on in the same way after the first report. -/
theorem simulates_begun {ask : Int → Run (Book ω) Decimal} {reply : Int → Run (Tracking ω) Decimal}
    {output : Output} {phase : Phase} {x : Run (Book ω) Unit}
    (first : Phase.atFirst output.confidence output.height = phase)
    (begun : c.register = b.register.beginning output) (left : Alike (observe ask output) b x c)
    (simulates : Simulates x (Tracking.proceed reply b.objects.length output phase) c Leaves) :
    Simulates (observe ask output) (Tracking.observe reply output) b Leaves := by
  have right := Tracking.observe_eq reply b.register output
  have number : b.register.sightings.length = b.objects.length := List.length_map _
  rw [number, first, ← begun] at right
  exact .of_alike left right simulates

/-! ## Functions that ask -/

section

variable {ask : Int → Run (Book ω) Decimal} {reply : Int → Run (Tracking ω) Decimal}
  (asking : ∀ height b, b.Sound none → Simulates (ask height) (reply height) b Leaves)
  (moving : ∀ height t, Tracking.Moves t (after (reply height) t))

include asking moving

theorem simulates_credit (sound : b.Sound none) (number : Nat) :
    Simulates (credit ask number) (Tracking.credit reply number) b Leaves := by
  unfold credit Tracking.credit
  refine .of_get ?_
  rw [register_getElem?]
  cases found : b.objects[number]? with
  | none => exact .of_pure sound
  | some o =>
    refine .of_ite .rfl (fun _ => .of_pure sound) fun unprocessed => ?_
    have new : b.ledger.contains o.output.outpoint = false := by simpa using unprocessed
    rw [(sound.valid_at found).height?_eq new]
    cases block : o.height with
    | none =>
      refine (simulates_log _ _ _ _).bind ?_
      rintro _ _ rfl
      exact .of_pure (sound.noted _)
    | some height =>
      refine (simulates_note _ _).bind ?_
      rintro _ _ rfl
      refine (asking height _ (sound.noted _)).attempt.bind fun answer c left => ?_
      refine (simulates_note _ _).bind ?_
      rintro _ _ rfl
      cases answer with
      | error failure =>
        refine (simulates_logNoRate _ _ _ _).bind ?_
        rintro _ _ ⟨record, rfl⟩
        exact .of_pure ((left.1.noted _).noted _)
      | ok rate =>
        refine simulates_settle (left.1.noted _) (fun new' => ?_) height rate
        have confirmed : o.sighting.phase = .confirmed (some height) :=
          Phase.eq_confirmed_of_height? (((sound.valid_at found).height?_eq new).trans block)
        have due : (b.noted [.asked number height]).register.Due number o.sighting height :=
          ⟨(register_getElem? _ number).trans (congrArg _ found), confirmed, new⟩
        have moves := moving height (b.noted [.asked number height]).register
        rw [← left.2] at moves
        obtain ⟨s', same, known, block', -⟩ := Tracking.Moves.due moves due new'
        rw [register_getElem?] at known
        obtain ⟨o', found', rfl⟩ := Option.map_eq_some_iff.mp known
        exact ⟨o', found', same, TrackedOutput.confirmed_of_phase block'⟩

/-- What a report to an open output does, it does to the sighting. -/
theorem simulates_react (sound : b.Sound none) (found : b.objects[number]? = some o)
    (isOpen : o.phase.isOpen = true) (confidence : Confidence) (height : Option Int) :
    Simulates (react ask number confidence height)
      (Tracking.react reply number confidence height) b Leaves := by
  have kept := (TrackedOutput.isOpen_iff.mp isOpen).2
  have valid := (sound.valid_at found).advance confidence height
  have observed (ended : (o.advance confidence height).1.state = .discarded) :
      o.state = .observed := TrackedOutput.state_advance ended kept
  have still (lasting : (o.advance confidence height).1.state ≠ .discarded) :
      (o.advance confidence height).1.phase.isOpen = true :=
    TrackedOutput.isOpen_advance isOpen lasting
  obtain ⟨sighting, due⟩ := TrackedOutput.sighting_advance isOpen confidence height
  have known : b.register.sightings[number]? = some o.sighting :=
    (register_getElem? b number).trans (congrArg _ found)
  have tried {c : Book ω} (sound : c.Sound none) :
      Simulates (if (o.advance confidence height).2 = true then discard (credit ask number)
          else pure PUnit.unit)
        (if confidence = .building then discard (Tracking.credit reply number)
          else pure PUnit.unit) c Leaves :=
    .of_ite due (fun _ => (simulates_credit asking moving sound number).discard)
      fun _ => .of_pure sound
  unfold react Tracking.react
  refine .of_get ?_
  rw [found, known]
  refine (simulates_note _ _).bind ?_
  rintro _ _ rfl
  generalize o.advance confidence height = result at valid observed still sighting due tried ⊢
  obtain ⟨advanced, isDue⟩ := result
  dsimp only at valid observed still sighting due tried ⊢
  have phase : advanced.phase = o.phase.advance confidence height :=
    congrArg Sighting.phase sighting
  have sound' := (sound.noted [.reported number confidence height]).change
    (f := fun _ => advanced) found isOpen (congrArg Sighting.output sighting) valid
  refine (simulates_change fun o' found' => ?_).bind ?_
  · cases found.symm.trans found'
    exact sighting
  · rintro _ _ rfl
    refine .of_ite ?_ (fun ended => ?_) fun lasting => ?_
    · rw [← valid.phase_eq_discarded, phase]
      rfl
    · have closed : advanced.phase = .discarded := valid.phase_eq_discarded.mpr ended
      rw [TrackedOutput.resolving, closed, if_neg (by simp [Phase.isOpen])] at sound'
      rw [if_pos (observed ended)]
      refine (simulates_log _ _ _ _).bind ?_
      rintro _ _ rfl
      refine (simulates_resolve (.inr (sound'.noted _)) (getElem?_modify_self found) ?_).bind
        fun _ _ => tried
      rw [closed]
      rfl
    · rw [TrackedOutput.resolving, if_pos (still lasting)] at sound'
      exact tried sound'

theorem simulates_confidenceChanged (sound : b.Sound none) (output : Outpoint)
    (confidence : Confidence) (height : Option Int) :
    Simulates (confidenceChanged ask output confidence height)
      (Tracking.confidenceChanged reply output confidence height) b Leaves := by
  unfold confidenceChanged Tracking.confidenceChanged
  refine .of_get ?_
  rw [← sound.tracked?_eq]
  cases known : b.tracked? output with
  | none => exact .of_pure sound
  | some number =>
    obtain ⟨o, found, -, isOpen⟩ := sound.tracked?_eq_some.mp known
    exact simulates_react asking moving sound found (isOpen.resolve_right (by simp)) confidence
      height

theorem simulates_announce (sound : b.Sound none) (txid : String) (confidence : Confidence)
    (height : Option Int) :
    Simulates (announce ask txid confidence height)
      (Tracking.announce reply txid confidence height) b Leaves := by
  unfold announce Tracking.announce Feed.announce
  refine .of_get ((Simulates.forM (fun sub c sound => ?_) _ sound).bind
    fun _ _ sound => .of_pure sound)
  cases sub.callback with
  | received => exact .of_pure sound
  | confidence output =>
    exact simulates_confidenceChanged asking moving sound output confidence height

theorem simulates_subscribe (sound : b.Sound none) (output : Outpoint) :
    Simulates (subscribe ask output) (Tracking.subscribe reply output) b Leaves := by
  unfold subscribe Tracking.subscribe
  have subscribed (feed : Feed Callback) : Simulates (modify fun b : Book ω => { b with feed })
      (modify fun t : Tracking ω => { t with feed }) b Leaves :=
    ⟨⟨rfl, rfl⟩, fun _ _ => sound.of_bare rfl rfl rfl fun _ => id, fun _ failed => nomatch failed⟩
  refine .of_get ((subscribed _).bind fun _ c sound => ?_)
  refine .of_get ((Simulates.forM (fun report c sound => ?_) _ sound).bind
    fun _ _ sound => .of_pure sound)
  exact (simulates_announce asking moving sound _ _ _).discard

/-- An output that has been discarded meanwhile is resolved once more. -/
theorem simulates_follow (sound : b.Sound none) (number : Nat) (output : Output) :
    Simulates (follow ask number output) (Tracking.follow reply number output) b Leaves := by
  unfold follow Tracking.follow
  refine (simulates_log _ _ _ _).bind ?_
  rintro _ _ rfl
  refine (simulates_subscribe asking moving (sound.noted _) _).bind fun id c sound => ?_
  refine (simulates_change fun _ _ => rfl).bind ?_
  rintro _ _ rfl
  have held := Sound.holding sound number (some id)
  change Simulates _ _ (c.holding number (some id)) Leaves
  refine .of_get (.of_ite (held.discarded_at number) (fun ended => ?_) fun _ => .of_pure held)
  · obtain ⟨o, found, ended⟩ := Option.map_eq_some_iff.mp ended
    have closed := (held.valid_at found).phase_eq_discarded.mpr ended
    exact simulates_resolve (.inl held) found (by rw [closed]; rfl)

/-- A new output is decided by its first report, or it is followed. -/
theorem simulates_observe (sound : b.Sound none) {output : Output}
    (unknown : b.tracked? output.outpoint = none) :
    Simulates (observe ask output) (Tracking.observe reply output) b Leaves := by
  have sound' : (b.begun output).Sound none := ((sound.track unknown).noted _).noted _
  have found : (b.begun output).objects[b.objects.length]? = some { output := output } :=
    List.getElem?_concat_length
  cases confidence : output.confidence with
  | building =>
    let f (o : TrackedOutput) := { o with state := .confirmed, height := output.height }
    have first : Phase.atFirst output.confidence output.height = .confirmed output.height := by
      rw [confidence]
      rfl
    have confirmed := sound'.change (f := f) found rfl rfl
      ⟨fun other => absurd rfl other, fun credited => nomatch credited⟩
    refine simulates_begun first (register_begun b output f (by rw [first]; rfl))
      ((observe_eq ask b output).trans ?_)
      (simulates_credit asking moving confirmed b.objects.length).discard
    rw [firstReported, if_pos confidence]
    exact ⟨rfl, rfl⟩
  | pending | unknown =>
    have first : Phase.atFirst output.confidence output.height = .observed := by
      rw [confidence]
      rfl
    have same := register_begun b output id (by rw [first]; rfl)
    rw [List.modify_id] at same
    refine simulates_begun first same ((observe_eq ask b output).trans ?_)
      (simulates_follow asking moving sound' b.objects.length output)
    rw [firstReported, confidence]
    exact ⟨rfl, rfl⟩
  | dead | inConflict =>
    let f (o : TrackedOutput) := { o with state := .discarded }
    have first : Phase.atFirst output.confidence output.height = .discarded := by
      rw [confidence]
      rfl
    have discarded := sound'.change (f := f) found rfl rfl
      ⟨fun _ => rfl, fun credited => nomatch credited⟩
    refine simulates_begun first (register_begun b output f (by rw [first]; rfl))
      ((observe_eq ask b output).trans ?_)
      (simulates_ignore discarded (getElem?_modify_self found) rfl rfl output)
    rw [firstReported, confidence]
    exact ⟨rfl, rfl⟩

theorem simulates_outputReceived (sound : b.Sound none) (output : Output) :
    Simulates (outputReceived ask output) (Tracking.outputReceived reply output) b Leaves := by
  unfold outputReceived Tracking.outputReceived
  refine .of_get (.of_ite .rfl (fun _ => .of_pure sound) fun _ =>
    .of_ite .rfl (fun _ => .of_pure sound) fun _ => ?_)
  rw [← sound.tracked?_eq]
  cases known : b.tracked? output.outpoint with
  | none => exact simulates_observe asking moving sound known
  | some number =>
    obtain ⟨o, found, -, isOpen⟩ := sound.tracked?_eq_some.mp known
    exact simulates_react asking moving sound found (isOpen.resolve_right (by simp)) _ _

theorem simulates_receive (sound : b.Sound none) (outputs : List Output) :
    Simulates (receive ask outputs) (Tracking.receive reply outputs) b Leaves := by
  unfold receive Tracking.receive Feed.deliver
  refine .of_get (.of_ite .rfl (fun _ => ?_) fun _ => .of_pure sound)
  refine (Simulates.forM (fun delivery c sound => ?_) _ sound).bind fun _ _ sound => .of_pure sound
  obtain ⟨callback, output⟩ := delivery
  cases callback with
  | received => exact simulates_outputReceived asking moving sound output
  | confidence => exact .of_pure sound

theorem simulates_creditAll (sound : b.Sound none) (numbers : List Nat) :
    Simulates (creditAll ask numbers) (Tracking.creditAll reply numbers) b Leaves := by
  induction numbers generalizing b with
  | nil => exact .of_pure sound
  | cons number numbers ih =>
    exact (simulates_credit asking moving sound number).bind fun _ _ sound =>
      (ih sound).bind fun _ _ sound => .of_pure sound

theorem simulates_retry (sound : b.Sound none) :
    Simulates (retry ask) (Tracking.retry reply) b Leaves := by
  unfold retry Tracking.retry
  refine .of_get ?_
  rw [sound.awaitingCredit_eq]
  refine .of_ite .rfl (fun _ => ?_) fun _ => simulates_creditAll asking moving sound _
  refine (simulates_log _ _ _ _).bind ?_
  rintro _ _ rfl
  exact simulates_creditAll asking moving (sound.noted _) _

/-- The tracker with the book does in every operation what the one with the register does. -/
theorem simulates_perform (sound : b.Sound none) (operation : Tracking.Operation) :
    Simulates (perform ask operation) (operation.perform reply) b Leaves := by
  cases operation with
  | addAddress address since =>
    exact (simulates_aside sound rfl fun _ => id).mono fun _ _ left => left.1
  | receive outputs => exact (simulates_receive asking moving sound outputs).discard
  | output reported => exact simulates_outputReceived asking moving sound reported
  | announce txid confidence height =>
    exact (simulates_announce asking moving sound txid confidence height).discard
  | callback outpoint confidence height =>
    exact simulates_confidenceChanged asking moving sound outpoint confidence height
  | retry => exact (simulates_retry asking moving sound).discard

end

end Book

end Paywatch
