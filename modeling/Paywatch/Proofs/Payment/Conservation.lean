import Paywatch.Proofs.Payment.Consistency
import Paywatch.Proofs.Payment.Credits
import Paywatch.Proofs.Payment.Tally

/-!
# No output is lost or counted twice

A sighting is open, credited or discarded, and there are as many credited ones as
outputs in the ledger.  So the three counts that a tracker gives add up to the
number of its sightings, and this is the number of outputs sighted for the first
time.
-/

namespace Paywatch

namespace Tracking

variable {ω : Type} {t : Tracking ω}

/-- Every sighting is open, credited or discarded, and only one of these. -/
theorem countP_phases (sightings : List Sighting) :
    sightings.countP (·.phase.isOpen) + sightings.countP (·.phase == .credited) +
      sightings.countP (·.phase == .discarded) = sightings.length := by
  induction sightings with
  | nil => rfl
  | cons s sightings ih =>
    have one : (if s.phase.isOpen = true then 1 else 0) +
        (if (s.phase == .credited) = true then 1 else 0) +
        (if (s.phase == .discarded) = true then 1 else 0) = 1 := by
      cases s.phase <;> rfl
    simp only [List.countP_cons, List.length_cons]
    omega

/-- The elements with a property, as places in the list. -/
theorem countP_eq_length_filter_range {α : Type} (p : α → Bool) (as : List α) :
    as.countP p = ((List.range as.length).filter fun place => as[place]?.any p).length := by
  rw [List.range_eq_range', ← List.zipIdx_map_snd, List.filter_map, List.length_map,
    ← List.countP_eq_length_filter, ← as.zipIdx_map_fst 0, List.countP_map, List.zipIdx_map_fst]
  apply List.countP_congr
  intro entry inside
  rw [Function.comp, Function.comp, List.mem_zipIdx_iff_getElem?.mp inside, Option.any_some]

/-- No sighting has two credits. -/
theorem Coherent.nodup_numbers (coherent : t.Coherent) : (t.credits.map (·.number)).Nodup := by
  have outpoints : (t.credits.map (·.number)).map (fun number =>
      t.sightings[number]?.map (·.outpoint)) =
      (t.credits.map (·.output.outpoint)).map some := by
    rw [List.map_map, List.map_map]
    apply List.map_congr_left
    intro c made
    obtain ⟨s, found, output, -⟩ := coherent.settled.credit c made
    simp only [Function.comp, found, Option.map_some, Sighting.outpoint, output]
  have nodup := coherent.balanced.nodup
  rw [coherent.balanced.processed] at nodup
  have distinct := nodup.map (Option.some_injective Outpoint)
  rw [← outpoints] at distinct
  exact distinct.of_map _

/-- There are as many credited sightings as outputs in the ledger. -/
theorem Coherent.countP_credited (coherent : t.Coherent) :
    t.sightings.countP (·.phase == .credited) = t.ledger.count := by
  rw [countP_eq_length_filter_range, Ledger.count, coherent.balanced.processed, List.length_map,
    ← List.length_map (fun c : Credit => c.number)]
  apply List.Perm.length_eq
  refine (List.perm_ext_iff_of_nodup (List.nodup_range.filter _) coherent.nodup_numbers).mpr ?_
  intro number
  rw [List.mem_filter, List.mem_map]
  constructor
  · rintro ⟨-, credited⟩
    cases found : t.sightings[number]? with
    | none =>
      rw [found] at credited
      cases credited
    | some s =>
      rw [found, Option.any_some, beq_iff_eq] at credited
      exact coherent.settled.credited number s found credited
  · rintro ⟨c, made, rfl⟩
    obtain ⟨s, found, -, credited⟩ := coherent.settled.credit c made
    refine ⟨List.mem_range.mpr (List.getElem?_eq_some_iff.mp found).1, ?_⟩
    rw [found, Option.any_some, credited]
    rfl

/-- The counts of a tracker add up to the number of its sightings. -/
theorem Coherent.counts (coherent : t.Coherent) :
    t.trackedCount + t.ledger.count + t.discardedCount = t.sightings.length := by
  rw [← coherent.countP_credited]
  exact countP_phases t.sightings

/-- A tracker that has become another one, and what has been counted meanwhile. -/
theorem Tallied.counts {u : Tracking ω} {count count' : Nat}
    (tallied : Tallied (t.counting count) (u.counting count')) :
    count' + t.sightings.length = count + u.sightings.length := by
  have same := tallied.surplus_eq
  simp only [surplus, counting, beside] at same
  omega

/-- Whatever becomes of a tracker, something is counted meanwhile. -/
theorem Evolves.exists_count {u : Tracking ω} (evolves : Evolves t u) :
    ∃ count, Tallied (t.counting 0) (u.counting count) := by
  obtain ⟨u', tallied, rfl⟩ := evolves.tallied (t.counting 0) rfl
  exact ⟨u'.outside.2, tallied⟩

/--
Outputs are conserved.  Whatever becomes of a tracker, and however the outputs that
are sighted for the first time are counted on the way, the open sightings, the
credited outputs and the discarded sightings add up to that number.  They increase
by what is counted, too, while operations are performed in a state in which others
are still under way, because they ask for a rate or because they subscribe to an
output.
-/
theorem outputs_conserved (manner : FeedManner) (outside : ω) {u : Tracking ω}
    (evolves : Evolves (start manner outside) u) :
    (∃ count, Tallied ((start manner outside).counting 0) (u.counting count)) ∧
    (∀ count, Tallied ((start manner outside).counting 0) (u.counting count) →
      u.trackedCount + u.ledger.count + u.discardedCount = count) ∧
    ∀ r v : Tracking ω, Span {} (start manner outside) r → Evolves r v →
      (∃ count, Tallied (r.counting 0) (v.counting count)) ∧
      ∀ count, Tallied (r.counting 0) (v.counting count) →
        v.trackedCount + v.ledger.count + v.discardedCount =
          r.trackedCount + r.ledger.count + r.discardedCount + count := by
  have begun := coherent_start manner outside
  refine ⟨evolves.exists_count, ?_, ?_⟩
  · intro count tallied
    have counts := tallied.counts
    rw [(evolves.moves.coherent begun).counts]
    exact (Nat.zero_add _).symm.trans counts.symm
  · intro r v passed later
    refine ⟨later.exists_count, fun count tallied => ?_⟩
    have counts := tallied.counts
    have coherent := passed.moves.coherent begun
    rw [coherent.counts, (later.moves.coherent coherent).counts]
    omega

/-! ### An output of each kind -/

/-- A credited output, one that is not worth anything, one without a block, and a dead one. -/
def allKinds : Tracking Unit :=
  Run.after ((part 4 .dead none).perform boundless)
    (Run.after ((part 3 .pending none).perform boundless)
      (Run.after ((part 2 .building (some 8)).perform boundless)
        (Run.after ((Operation.output payment).perform redelivering)
          (Run.after ((Operation.addAddress "address" 0).perform boundless)
            (start { keepsCancelled := true } ())))))

theorem outputs_conserved_allKinds :
    allKinds.trackedCount = 2 ∧ allKinds.ledger.count = 1 ∧ allKinds.discardedCount = 1 ∧
      ∃ count, Tallied ((start { keepsCancelled := true } ()).counting 0)
        (allKinds.counting count) ∧
      allKinds.trackedCount + allKinds.ledger.count + allKinds.discardedCount = count := by
  have unasking : ∀ height s, Evolves s (Run.after (boundless height) s) := fun _ s => .refl s
  have reentrant : ∀ height s, Evolves s (Run.after (redelivering height) s) :=
    fun height s => .question (fun _ => return Decimal.ofInt 30000) (fun _ s => .refl s) _ _ s
  have evolves : Evolves (start { keepsCancelled := true } ()) allKinds :=
    .perform (.perform (.perform (.perform (.perform (.refl _) _ unasking _) _ reentrant _)
      _ unasking _) _ unasking _) _ unasking _
  obtain ⟨⟨count, tallied⟩, conserved, -⟩ := outputs_conserved _ () evolves
  exact ⟨by decide +kernel, by decide +kernel, by decide +kernel, count, tallied,
    conserved count tallied⟩

end Tracking

end Paywatch
