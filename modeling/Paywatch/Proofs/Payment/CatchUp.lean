import Paywatch.Proofs.Payment.Behind

/-!
# Credits that are made up for

Where the first tracker makes a credit, the second one makes it too or has no rate
for it yet.  What the second one credits alone makes up for a credit that the first
one has made before.  No try fails, because every conversion of the first tracker
succeeds, and the second one makes no other conversions.
-/

namespace Paywatch

namespace Tracking

variable {early late : RateList} {p d : Tracking RateList} {α : Type}

/-! ## Conversions that succeed -/

/-- No amount is below zero, and every conversion at a rate that was told succeeds. -/
structure Sound (t : Tracking RateList) : Prop where
  amounts : ∀ s ∈ t.sightings, 0 ≤ s.output.satoshi
  conversions : ∀ (number : Nat) (height : Int) (rate : Decimal) (s : Sighting),
    .answered number height (some rate) ∈ t.journal → t.sightings[number]? = some s →
    ∃ usd, convertToUsd s.output.satoshi rate = .ok usd

/-- Whatever is sound in the end was so before. -/
theorem Sound.before {t u : Tracking RateList} (sound : u.Sound) (moves : Moves t u) : t.Sound := by
  refine ⟨?_, ?_⟩
  · intro s inside
    obtain ⟨number, found⟩ := List.mem_iff_getElem?.mp inside
    obtain ⟨s', found', output, -⟩ := moves.kept found
    rw [← output]
    exact sound.amounts s' (List.mem_of_getElem? found')
  · intro number height rate s told found
    obtain ⟨s', found', output, -⟩ := moves.kept found
    rw [← output]
    exact sound.conversions number height rate s' (moves.journal_prefix.subset told) found'

/-- A credit stays in the journal. -/
theorem Moves.credits_subset {ω : Type} {t u : Tracking ω} (moves : Moves t u) {c : Credit}
    (made : c ∈ t.credits) : c ∈ u.credits := by
  obtain ⟨after, split⟩ := moves.journal_prefix
  rw [credits, ← split, History.credits_append]
  exact List.mem_append_left _ made

/-! ## Tries to credit -/

namespace Behind

/-- The first tracker tries to credit a sighting; it does so if the credit is due and has a rate. -/
theorem credit_left (behind : Behind early late p d) {number : Nat}
    (sound : (Run.after (credit lookup number) p).Sound) :
    Run.Succeeds (credit lookup number) p ∧ Behind early late (Run.after (credit lookup number) p) d ∧
      ∀ s height rate, p.Due number s height → early.rateAt height = .ok rate →
        ∃ c ∈ (Run.after (credit lookup number) p).credits, c.number = number := by
  have seen := looks behind.left number
  unfold Run.Succeeds
  generalize Run.outcome (credit lookup number) p = result at seen
  generalize Run.after (credit lookup number) p = u at seen sound
  cases seen with
  | quiet events quiet unrated =>
    refine ⟨⟨false, rfl⟩, behind.noted_left quiet, fun s height rate due rated => ?_⟩
    exact absurd rated (unrated s height rate due)
  | refused s height rate failure due rated refused =>
    obtain ⟨c, e, rfl⟩ := behind.rates.positive height rate rated
    have told : .answered number height (some (.finite false c e)) ∈ (p.noted
        [.asked number height, .answered number height (some (.finite false c e))]).journal :=
      List.mem_append_right _ (.tail _ (.head _))
    obtain ⟨usd, converted⟩ := sound.conversions number height _ s told due.found
    have amount := sound.amounts s (List.mem_of_getElem? due.found)
    exact absurd (isNegative_of_convertToUsd amount converted) (refused usd converted)
  | credited s c total record here output due rated converted nonneg added =>
    subst here
    have quoted : Behind early late (p.quoted c) d :=
      behind.noted_left (quiet_told c.number c.height c.rate)
    have due' : (p.quoted c).Due c.number s c.height := ⟨due.found, due.block, due.new⟩
    have credited := quoted.credited_left output due' (getLast?_quoted p c) rated converted nonneg
      added
    have found := crediting_found due'.found c.output c.height c.rate c.usd total
    have closed := credited.released_left found rfl
    refine ⟨⟨true, rfl⟩, closed.noted_left (History.quiet_singleton rfl), fun _ _ _ _ _ => ?_⟩
    refine ⟨c, ?_, rfl⟩
    rw [credits_noted _ (History.quiet_singleton rfl), closing, credits_release, credits_crediting]
    exact List.mem_append_right _ (.head _)

/-- What is due in the second tracker and credited in the first one is the same credit. -/
theorem due_credit (behind : Behind early late p d) {s : Sighting} {height : Int}
    {rate : Decimal} {c : Credit} (made : c ∈ p.credits) (due : d.Due c.number s height)
    (rated : late.rateAt height = .ok rate) :
    c.output = s.output ∧ c.height = height ∧ c.rate = rate := by
  obtain ⟨s₀, found₀, output, -⟩ := behind.left.settled.credit c made
  obtain ⟨s₀', found₀', same⟩ := behind.found_left due.found
  rw [found₀] at found₀'
  cases found₀'
  rcases behind.ahead c made with made' | ⟨s', found', block, rated'⟩
  · obtain ⟨s', found', -, credited⟩ := behind.right.settled.credit c made'
    rw [due.found] at found'
    cases found'
    rw [due.block] at credited
    cases credited
  · rw [due.found] at found'
    cases found'
    have heights := due.block.symm.trans block
    cases heights
    have rates := (behind.rates.known _ rate rated).symm.trans rated'
    cases rates
    exact ⟨output.symm.trans same.symm, rfl, rfl⟩

/-- The second tracker tries to credit a sighting that the first one has credited if it is due. -/
theorem credit_right (behind : Behind early late p d) {number : Nat}
    (already : ∀ s height rate, d.Due number s height → late.rateAt height = .ok rate →
      ∃ c ∈ p.credits, c.number = number) :
    Run.Succeeds (credit lookup number) d ∧
      Behind early late p (Run.after (credit lookup number) d) := by
  have seen := looks behind.right number
  unfold Run.Succeeds
  generalize Run.outcome (credit lookup number) d = result at seen
  generalize Run.after (credit lookup number) d = u at seen
  cases seen with
  | quiet events quiet => exact ⟨⟨false, rfl⟩, behind.noted_right quiet⟩
  | refused s height rate failure due rated refused =>
    obtain ⟨c, made, rfl⟩ := already s height rate due rated
    obtain ⟨output, -, rfl⟩ := behind.due_credit made due rated
    obtain ⟨converted, nonneg⟩ := behind.left.balanced.converted c made
    rw [output] at converted
    exact absurd nonneg (refused c.usd converted)
  | credited s c' total record here output due rated converted nonneg added =>
    subst here
    obtain ⟨c, made, number⟩ := already s c'.height c'.rate due rated
    rw [← number] at due
    obtain ⟨output', height, rate⟩ := behind.due_credit made due rated
    have same : c = c' := by
      obtain ⟨converted', -⟩ := behind.left.balanced.converted c made
      rw [output', rate, ← output, converted] at converted'
      cases c
      cases c'
      simp only [Credit.mk.injEq]
      exact ⟨number, output'.trans output.symm, height, rate, (Except.ok.inj converted').symm⟩
    subst same
    have quoted : Behind early late p (d.quoted c) :=
      behind.noted_right (quiet_told c.number c.height c.rate)
    have due' : (d.quoted c).Due c.number s c.height := ⟨due.found, due.block, due.new⟩
    have credited := quoted.credited_right made output due' (getLast?_quoted d c) converted nonneg
      added
    obtain ⟨s₀, found₀, -, credited₀⟩ := behind.left.settled.credit c made
    have found := crediting_found due'.found c.output c.height c.rate c.usd total
    have closed := credited.released_right found₀ credited₀ found rfl
    exact ⟨⟨true, rfl⟩, closed.noted_right (History.quiet_singleton rfl)⟩

end Behind

end Tracking

end Paywatch
