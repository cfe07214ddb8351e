import Paywatch.Proofs.Payment.Simulation

/-!
# What becomes of a book

Whatever becomes of a tracker with a book becomes of the tracker with the register
for which the book stands, and the other way round.  So what is proved of the
register is true of the map and of the count.
-/

namespace Paywatch

namespace Book

open Run

variable {ω : Type} {b c : Book ω} {t u : Tracking ω}

/--
What a question gives and does depends on what the register tells.  All that a
tracker tells is in the register; only the block of a credited output, which nobody
can ask for, is not.
-/
def Blind (ask : Int → Run (Book ω) Decimal) : Prop :=
  ∀ height (b c : Book ω), b.Sound none → c.Sound none → b.register = c.register →
    outcome (ask height) b = outcome (ask height) c ∧
      (after (ask height) b).register = (after (ask height) c).register

/-- What becomes of a tracker with a book, as it is said of one with a register. -/
inductive Evolves : Book ω → Book ω → Prop where
  | refl (b : Book ω) : Evolves b b
  | outside {b c : Book ω} (before : Evolves b c)
      (announced : List (String × List (Confidence × Option Int))) (outside : ω) :
      Evolves b { c with
        manner := { c.manner with announcedAtOnce := announced }
        outside := outside }
  | logged {b c : Book ω} (before : Evolves b c) (record : LogRecord) :
      Evolves b (c.noted [.logged record])
  | perform {b c : Book ω} (before : Evolves b c) (ask : Int → Run (Book ω) Decimal)
      (blind : Blind ask) (reentrant : ∀ height d, Evolves d (after (ask height) d))
      (operation : Tracking.Operation) :
      Evolves b (after (perform ask operation) c)

/-! ## From the book to the register -/

/-- A question to the register for a question to the book. -/
structure Replies (ask : Int → Run (Book ω) Decimal) (reply : Int → Run (Tracking ω) Decimal) :
    Prop where
  mirrors : ∀ height (b : Book ω), b.Sound none → Mirrors register (ask height) (reply height) b
  idle : ∀ height t, (∀ b : Book ω, b.Sound none → b.register ≠ t) → after (reply height) t = t

theorem Blind.exists_replies {ask : Int → Run (Book ω) Decimal} (blind : Blind ask) :
    ∃ reply, Replies ask reply := by
  have each (height : Int) (t : Tracking ω) : ∃ answer : Except Failure Decimal × Tracking ω,
      (∀ b : Book ω, b.Sound none → b.register = t →
        answer = (outcome (ask height) b, (after (ask height) b).register)) ∧
      ((∀ b : Book ω, b.Sound none → b.register ≠ t) → answer.2 = t) := by
    by_cases stands : ∃ b : Book ω, b.Sound none ∧ b.register = t
    · obtain ⟨b, sound, rfl⟩ := stands
      refine ⟨(outcome (ask height) b, (after (ask height) b).register),
        fun c sound' same => ?_, fun absent => absurd rfl (absent b sound)⟩
      obtain ⟨gives, leaves⟩ := blind height b c sound sound' same.symm
      exact Prod.ext gives leaves
    · refine ⟨(.ok .zero, t), fun b sound same => absurd ⟨b, sound, same⟩ stands, fun _ => rfl⟩
  choose reply stands idle using each
  refine ⟨reply, fun height b sound => ?_, idle⟩
  have same := stands height b.register b sound rfl
  exact ⟨congrArg Prod.fst same, congrArg Prod.snd same⟩

/-- The register for which a book stands evolves as the book does, and the book stays sound. -/
theorem Evolves.register (evolves : Evolves b c) (sound : b.Sound none) :
    c.Sound none ∧ Tracking.Evolves b.register c.register := by
  induction evolves with
  | refl => exact ⟨sound, .refl _⟩
  | outside _ announced outside ih =>
    obtain ⟨sound, before⟩ := ih sound
    exact ⟨sound.of_bare rfl rfl rfl fun _ => id, before.outside announced outside⟩
  | logged _ record ih =>
    obtain ⟨sound, before⟩ := ih sound
    exact ⟨sound.noted _, before.logged record⟩
  | perform _ ask blind _ operation ih asking =>
    obtain ⟨sound, before⟩ := ih sound
    obtain ⟨reply, replies⟩ := blind.exists_replies
    have reentrant (height : Int) (t : Tracking ω) :
        Tracking.Evolves t (after (reply height) t) := by
      by_cases stands : ∃ d : Book ω, d.Sound none ∧ d.register = t
      · obtain ⟨d, sound, rfl⟩ := stands
        rw [(replies.mirrors height d sound).after]
        exact (asking height d sound).2
      · rw [replies.idle height t fun d sound same => stands ⟨d, sound, same⟩]
        exact .refl t
    have asked (height : Int) (d : Book ω) (sound : d.Sound none) :
        Simulates (ask height) (reply height) d Leaves :=
      ⟨replies.mirrors height d sound, fun _ _ => (asking height d sound).1,
        fun _ _ => (asking height d sound).1⟩
    have simulates :=
      simulates_perform asked (fun height t => (reentrant height t).moves) sound operation
    refine ⟨simulates.leaves, ?_⟩
    rw [← simulates.mirrors.after]
    exact before.perform reply reentrant operation

/-! ## From the register to the book -/

/-- Whatever becomes of the register becomes of a book that stands for it. -/
theorem exists_evolves (evolves : Tracking.Evolves t u) :
    ∀ b : Book ω, b.Sound none → b.register = t →
      ∃ c, Evolves b c ∧ c.Sound none ∧ c.register = u := by
  induction evolves with
  | refl => exact fun b sound same => ⟨b, .refl b, sound, same⟩
  | outside _ announced outside ih =>
    intro b sound same
    obtain ⟨c, before, sound, rfl⟩ := ih b sound same
    exact ⟨_, before.outside announced outside, sound.of_bare rfl rfl rfl fun _ => id, rfl⟩
  | logged _ record ih =>
    intro b sound same
    obtain ⟨c, before, sound, rfl⟩ := ih b sound same
    exact ⟨_, before.logged record, sound.noted _, rfl⟩
  | perform _ reply reentrant operation ih asking =>
    intro b sound same
    obtain ⟨c, before, sound, rfl⟩ := ih b sound same
    have each (height : Int) (d : Book ω) : ∃ e, Evolves d e ∧
        (d.Sound none → e.Sound none ∧ e.register = after (reply height) d.register) := by
      by_cases sound : d.Sound none
      · obtain ⟨e, later, left⟩ := asking height d.register d sound rfl
        exact ⟨e, later, fun _ => left⟩
      · exact ⟨d, .refl d, fun sound' => absurd sound' sound⟩
    choose next later leaves using each
    let ask (height : Int) : Run (Book ω) Decimal := fun d =>
      (outcome (reply height) d.register, next height d)
    have blind : Blind ask := by
      intro height d e sound sound' same
      refine ⟨congrArg (outcome (reply height)) same, ?_⟩
      change (next height d).register = (next height e).register
      rw [(leaves height d sound).2, (leaves height e sound').2, same]
    have asked (height : Int) (d : Book ω) (sound : d.Sound none) :
        Simulates (ask height) (reply height) d Leaves :=
      ⟨⟨rfl, (leaves height d sound).2.symm⟩, fun _ _ => (leaves height d sound).1,
        fun _ _ => (leaves height d sound).1⟩
    have simulates :=
      simulates_perform asked (fun height t => (reentrant height t).moves) sound operation
    exact ⟨_, before.perform ask blind later operation, simulates.leaves,
      simulates.mirrors.after.symm⟩

/-- The registers that there may be are those of the books that there may be. -/
theorem evolves_iff (manner : FeedManner) (outside : ω) :
    Tracking.Evolves (Tracking.start manner outside) u ↔
      ∃ b, Evolves (start manner outside) b ∧ b.register = u := by
  have begun := sound_start manner outside
  constructor
  · intro evolves
    obtain ⟨b, evolves', -, same⟩ := exists_evolves evolves _ begun rfl
    exact ⟨b, evolves', same⟩
  · rintro ⟨b, evolves, rfl⟩
    exact (evolves.register begun).2

/--
The map and the count tell what the register tells: how many outputs are tracked,
pending and discarded, and how each output stands.  The tracked, credited and
discarded outputs are all that there have been.
-/
theorem Evolves.tells {manner : FeedManner} {outside : ω}
    (evolves : Evolves (start manner outside) b) :
    b.trackedCount = b.register.trackedCount ∧ b.pendingCount = b.register.pendingCount ∧
      b.discarded = b.register.discardedCount ∧
      (∀ output, b.state? output =
        (b.register.standing? output).map TrackedState.ofStanding) ∧
      b.trackedCount + b.ledger.count + b.discarded = b.objects.length := by
  obtain ⟨sound, evolves'⟩ := evolves.register (sound_start manner outside)
  have coherent := evolves'.moves.coherent (Tracking.coherent_start manner outside)
  refine ⟨sound.trackedCount_eq, sound.pendingCount_eq, sound.discarded_eq, sound.state?_eq, ?_⟩
  rw [sound.trackedCount_eq, sound.discarded_eq, ← List.length_map (f := TrackedOutput.sighting)]
  exact coherent.counts

/-- An output that is discarded while it is subscribed to is resolved twice and counted once. -/
example :
    let ask (height : Int) : Run (Book Unit) Decimal := throw (.noRate height)
    let watching := after (perform ask (.addAddress "address" 0))
      (start { announcedAtOnce := [("tx", [(.dead, none)])] } ())
    let received := after
      (perform ask (.receive [⟨⟨"tx", 0⟩, "address", 1, .pending, none⟩])) watching
    received.objects.length = 1 ∧ received.tracked = [] ∧ received.discarded = 1 := by
  decide +kernel

end Book

end Paywatch
