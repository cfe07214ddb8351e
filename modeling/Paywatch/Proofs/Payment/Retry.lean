import Paywatch.Proofs.Payment.Attempt
import Paywatch.Proofs.Payment.Lookup

/-!
# What a retry credits

A retry tries the sightings that wait, in their order, while every try may change
the register from which they were taken.  With rates that stay the same meanwhile
it credits those whose block is known and has a rate, and no other one is touched.
What the tries do to a tracker is put together from what the single ones do.
-/

namespace Paywatch

namespace TrackingEvent

def question? : TrackingEvent → Option (Nat × Int)
  | .asked number height => some (number, height)
  | _ => none

def cancelled? : TrackingEvent → Option Nat
  | .cancelled id => some id
  | _ => none

end TrackingEvent

namespace History

/--
Events that tell of questions, of credits and of subscriptions that are given up,
each in their order, and of nothing else but remarks.
-/
structure Tells (events : List TrackingEvent) (asked : List (Nat × Int)) (made : List Credit)
    (given : List Nat) : Prop where
  questions : events.filterMap (·.question?) = asked
  credits : credits events = made
  cancelled : events.filterMap (·.cancelled?) = given
  remarks : ∀ event ∈ events, event.credit? = none → event.cancelled? = none →
    event.isRemark = true

theorem tells_nil : Tells [] [] [] [] :=
  ⟨rfl, rfl, rfl, fun _ inside => by cases inside⟩

theorem Tells.append {events events' : List TrackingEvent} {asked asked' : List (Nat × Int)}
    {made made' : List Credit} {given given' : List Nat} (first : Tells events asked made given)
    (second : Tells events' asked' made' given') :
    Tells (events ++ events') (asked ++ asked') (made ++ made') (given ++ given') where
  questions := by rw [List.filterMap_append, first.questions, second.questions]
  credits := by rw [credits_append, first.credits, second.credits]
  cancelled := by rw [List.filterMap_append, first.cancelled, second.cancelled]
  remarks := fun event inside =>
    (List.mem_append.mp inside).elim (first.remarks event) (second.remarks event)

theorem tells_logged (records : List LogRecord) : Tells (records.map .logged) [] [] [] := by
  refine ⟨?_, Quiet.credits ?_, ?_, ?_⟩
  · simp [List.filterMap_map, TrackingEvent.question?]
  · simp [Quiet, TrackingEvent.credit?]
  · simp [List.filterMap_map, TrackingEvent.cancelled?]
  · simp [TrackingEvent.isRemark]

end History

theorem toOption_eq_some {ε α : Type} {r : Except ε α} {a : α} : r.toOption = some a ↔ r = .ok a := by
  cases r <;> simp [Except.toOption]

namespace Tracking

variable {ω : Type} {t u v : Tracking ω} {answers : Int → Except Failure Decimal}

/-! ## What is added to the journal -/

/-- Questions, credits and cancellations are added to the journal, and remarks. -/
def Adds (t u : Tracking ω) (asked : List (Nat × Int)) (made : List Credit) (given : List Nat) :
    Prop :=
  ∃ events, u.journal = t.journal ++ events ∧ History.Tells events asked made given

theorem Adds.of_eq (same : u.journal = t.journal) : Adds t u [] [] [] :=
  ⟨[], by rw [same, List.append_nil], History.tells_nil⟩

theorem Adds.trans {asked asked' : List (Nat × Int)} {made made' : List Credit}
    {given given' : List Nat} (first : Adds t u asked made given)
    (second : Adds u v asked' made' given') :
    Adds t v (asked ++ asked') (made ++ made') (given ++ given') := by
  obtain ⟨events, journal, tells⟩ := first
  obtain ⟨events', journal', tells'⟩ := second
  exact ⟨events ++ events', by rw [journal', journal, List.append_assoc], tells.append tells'⟩

theorem StandsAside.adds {α : Type} {step : Run (Tracking ω) α} (aside : StandsAside step t) :
    Adds t (Run.after step t) [] [] [] := by
  obtain ⟨records, outside, after⟩ := aside
  exact ⟨_, by rw [after]; rfl, History.tells_logged records⟩

theorem adds_noted (t : Tracking ω) (event : TrackingEvent)
    (known : event.credit? = none → event.cancelled? = none → event.isRemark = true) :
    Adds t (t.noted [event]) event.question?.toList event.credit?.toList event.cancelled?.toList := by
  refine ⟨[event], rfl, ?_, ?_, ?_, ?_⟩
  · cases asked : event.question? <;> simp [asked]
  · cases made : event.credit? <;> simp [History.credits, made]
  · cases given : event.cancelled? <;> simp [given]
  · intro event' inside
    rw [List.mem_singleton.mp inside]
    exact known

theorem adds_release (t : Tracking ω) (number : Nat) :
    Adds t (Run.after (release number) t) [] [] (t.held? number).toList := by
  cases held : t.held? number with
  | none =>
    rw [after_release_none held]
    exact .of_eq rfl
  | some id =>
    rw [after_release_some held]
    have given := adds_noted (t.holding number none) (.cancelled id) nofun
    exact (Adds.trans (.of_eq rfl) given).trans (.of_eq (cancelling_journal _ id))

/-! ## What is due -/

/-- The question about a sighting whose block is known. -/
def questionOn? (t : Tracking ω) (number : Nat) : Option (Nat × Int) :=
  (t.sightings[number]?.bind (·.phase.height?)).map fun height => (number, height)

/-- The credit for a sighting whose block is known and has a rate. -/
def creditDue? (t : Tracking ω) (answers : Int → Except Failure Decimal) (number : Nat) :
    Option Credit := do
  let s ← t.sightings[number]?
  let height ← s.phase.height?
  let rate ← (answers height).toOption
  let usd ← (convertToUsd s.output.satoshi rate).toOption
  return ⟨number, s.output, height, rate, usd⟩

def creditsDue (t : Tracking ω) (answers : Int → Except Failure Decimal) (numbers : List Nat) :
    List Credit :=
  numbers.filterMap (t.creditDue? answers)

def heldFor (t : Tracking ω) (credits : List Credit) : List Nat :=
  credits.filterMap fun c => t.held? c.number

theorem creditDue?_eq_some {number : Nat} {c : Credit} :
    t.creditDue? answers number = some c ↔
      ∃ s, t.sightings[number]? = some s ∧ s.phase = .confirmed (some c.height) ∧
        answers c.height = .ok c.rate ∧ convertToUsd s.output.satoshi c.rate = .ok c.usd ∧
        c.number = number ∧ c.output = s.output := by
  simp only [creditDue?, Option.bind_eq_bind, Option.bind_eq_some_iff, toOption_eq_some,
    Option.pure_def, Option.some.injEq]
  constructor
  · rintro ⟨s, found, height, block, rate, told, usd, converted, rfl⟩
    exact ⟨s, found, Phase.eq_confirmed_of_height? block, told, converted, rfl, rfl⟩
  · rintro ⟨s, found, confirmed, told, converted, rfl, output⟩
    refine ⟨s, found, c.height, ?_, c.rate, told, c.usd, converted, ?_⟩
    · rw [confirmed]
      rfl
    · rw [← output]

theorem creditDue?_congr {number : Nat} (same : u.sightings[number]? = t.sightings[number]?) :
    u.creditDue? answers number = t.creditDue? answers number := by
  rw [creditDue?, creditDue?, same]

theorem Due.questionOn? {number : Nat} {s : Sighting} {height : Int} (due : t.Due number s height) :
    t.questionOn? number = some (number, height) := by
  simp [Tracking.questionOn?, due.found, due.block, Phase.height?]

theorem Due.creditDue?_of_error {number : Nat} {s : Sighting} {height : Int} {failure : Failure}
    (due : t.Due number s height) (failed : answers height = .error failure) :
    t.creditDue? answers number = none := by
  simp [creditDue?, due.found, due.block, Phase.height?, failed, Except.toOption]

/-- Nothing is asked about a sighting that waits for its block, and nothing is due for it. -/
theorem blockless_of_undue {number : Nat} {s : Sighting} {block : Option Int}
    (found : t.sightings[number]? = some s) (confirmed : s.phase = .confirmed block)
    (new : t.isProcessed s.outpoint = false) (undue : ∀ s height, ¬ t.Due number s height) :
    t.creditDue? answers number = none ∧ t.questionOn? number = none := by
  cases block with
  | some height => exact absurd ⟨found, confirmed, new⟩ (undue s height)
  | none => simp [creditDue?, questionOn?, found, confirmed, Phase.height?]

theorem mem_creditsDue {numbers : List Nat} {c : Credit} :
    c ∈ t.creditsDue answers numbers ↔
      c.number ∈ numbers ∧ t.creditDue? answers c.number = some c := by
  rw [creditsDue, List.mem_filterMap]
  constructor
  · rintro ⟨number, inside, due⟩
    obtain ⟨-, -, -, -, -, rfl, -⟩ := creditDue?_eq_some.mp due
    exact ⟨inside, due⟩
  · rintro ⟨inside, due⟩
    exact ⟨c.number, inside, due⟩

theorem heldFor_congr {credits : List Credit}
    (same : ∀ c ∈ credits, u.sightings[c.number]? = t.sightings[c.number]?) :
    u.heldFor credits = t.heldFor credits :=
  List.filterMap_congr fun c inside => by rw [held?, held?, same c inside]

/-! ## What tries collect -/

/-- What trying some sightings does to a tracker if it credits all that is due for them. -/
structure Collects (answers : Int → Except Failure Decimal) (t : Tracking ω) (numbers : List Nat)
    (u : Tracking ω) : Prop where
  sightings : ∀ number : Nat, u.sightings[number]? = t.sightings[number]?.map fun s =>
    if number ∈ (t.creditsDue answers numbers).map (·.number) then
      { s with phase := .credited, subscription := none }
    else s
  feed : u.feed = if t.manner.keepsCancelled then t.feed else
    (t.heldFor (t.creditsDue answers numbers)).foldl Feed.unsubscribe t.feed
  manner : u.manner = t.manner
  journal : Adds t u (numbers.filterMap t.questionOn?) (t.creditsDue answers numbers)
    (t.heldFor (t.creditsDue answers numbers))

namespace Collects

variable {numbers numbers' : List Nat}

/-- Nothing is due, and nothing happens but questions and remarks. -/
theorem of_undue (undue : t.creditsDue answers numbers = []) (sightings : u.sightings = t.sightings)
    (feed : u.feed = t.feed) (manner : u.manner = t.manner)
    (journal : Adds t u (numbers.filterMap t.questionOn?) [] []) : Collects answers t numbers u where
  sightings := fun number => by
    rw [sightings, undue]
    exact Option.map_id'.symm
  feed := by
    rw [feed, undue]
    exact (ite_self _).symm
  manner := manner
  journal := by
    rw [undue]
    exact journal

theorem of_nothing {number : Nat} (nothing : t.creditDue? answers number = none)
    (sightings : u.sightings = t.sightings) (feed : u.feed = t.feed) (manner : u.manner = t.manner)
    (journal : Adds t u (t.questionOn? number).toList [] []) : Collects answers t [number] u := by
  refine .of_undue (List.filterMap_cons_none nothing) sightings feed manner ?_
  cases asked : t.questionOn? number <;> simpa [asked] using journal

/-- A sighting for which nothing is due stays as it is. -/
theorem unchanged (collects : Collects answers t numbers u) {number : Nat}
    (undue : number ∉ (t.creditsDue answers numbers).map (·.number)) :
    u.sightings[number]? = t.sightings[number]? := by
  rw [collects.sightings]
  simp only [if_neg undue]
  exact Option.map_id'

/-- A sighting that still waits is as it was, and no credit was due for it. -/
theorem waited (collects : Collects answers t numbers u) {number : Nat} {s : Sighting}
    {block : Option Int} (found : u.sightings[number]? = some s)
    (confirmed : s.phase = .confirmed block) :
    t.sightings[number]? = some s ∧ number ∉ (t.creditsDue answers numbers).map (·.number) := by
  have undue : number ∉ (t.creditsDue answers numbers).map (·.number) := by
    intro due
    rw [collects.sightings] at found
    obtain ⟨s', -, rfl⟩ := Option.map_eq_some_iff.mp found
    rw [if_pos due] at confirmed
    cases confirmed
  rw [collects.unchanged undue] at found
  exact ⟨found, undue⟩

theorem elsewhere (collects : Collects answers t numbers u) {number : Nat}
    (other : number ∉ numbers) : u.sightings[number]? = t.sightings[number]? := by
  apply collects.unchanged
  intro due
  obtain ⟨c, made, rfl⟩ := List.mem_map.mp due
  exact other (mem_creditsDue.mp made).1

/-- What is due for other sightings is still due. -/
theorem creditsDue_eq (collects : Collects answers t numbers u)
    (apart : ∀ number ∈ numbers', number ∉ numbers) :
    u.creditsDue answers numbers' = t.creditsDue answers numbers' :=
  List.filterMap_congr fun number inside => creditDue?_congr (collects.elsewhere (apart number inside))

/-- Other sightings may be tried afterwards. -/
theorem append (first : Collects answers t numbers u) (second : Collects answers u numbers' v)
    (apart : ∀ number ∈ numbers', number ∉ numbers) :
    Collects answers t (numbers ++ numbers') v := by
  have same {number : Nat} (inside : number ∈ numbers') :
      u.sightings[number]? = t.sightings[number]? :=
    first.elsewhere (apart number inside)
  have due := first.creditsDue_eq apart
  have held : u.heldFor (t.creditsDue answers numbers') = t.heldFor (t.creditsDue answers numbers') :=
    heldFor_congr fun c made => same (mem_creditsDue.mp made).1
  have asked : numbers'.filterMap u.questionOn? = numbers'.filterMap t.questionOn? :=
    List.filterMap_congr fun number inside => by rw [questionOn?, questionOn?, same inside]
  have all : t.creditsDue answers (numbers ++ numbers') =
      t.creditsDue answers numbers ++ t.creditsDue answers numbers' :=
    List.filterMap_append
  have allHeld : t.heldFor (t.creditsDue answers (numbers ++ numbers')) =
      t.heldFor (t.creditsDue answers numbers) ++ t.heldFor (t.creditsDue answers numbers') := by
    rw [all]
    exact List.filterMap_append
  obtain ⟨sightings, feed, manner, journal⟩ := second
  rw [due] at sightings feed journal
  rw [held] at feed journal
  rw [asked] at journal
  refine ⟨fun number => ?_, ?_, manner.trans first.manner, ?_⟩
  · rw [sightings, first.sightings, Option.map_map, all, List.map_append]
    congr 1
    funext s
    by_cases here : number ∈ (t.creditsDue answers numbers).map (·.number) <;>
      by_cases later : number ∈ (t.creditsDue answers numbers').map (·.number) <;>
        simp only [Function.comp, List.mem_append, here, later, if_true, if_false, or_self, or_true,
          true_or]
  · rw [feed, first.feed, first.manner, allHeld]
    split
    · rfl
    · rw [List.foldl_append]
  · rw [allHeld, all, List.filterMap_append]
    exact first.journal.trans journal

end Collects

/-! ## One try -/

theorem held?_crediting (t : Tracking ω) (number m : Nat) (output : Output) (height : Int)
    (rate usd total : Decimal) :
    (t.crediting number output height rate usd total).held? m = t.held? m := by
  rw [held?, crediting, phased_getElem?, noted_sightings, entering_sightings, held?]
  cases t.sightings[m]? with
  | none => rfl
  | some s =>
    rw [Option.map_some]
    split <;> rfl

theorem adds_closing (t : Tracking ω) (c : Credit) (total : Decimal) :
    Adds t (t.closing c total) [] [c] (t.held? c.number).toList := by
  have credited := adds_noted (t.entering c.output.outpoint total)
    (.credited c.number c.output c.height c.rate c.usd) nofun
  have given := adds_release (t.crediting c.number c.output c.height c.rate c.usd total) c.number
  rw [held?_crediting] at given
  exact (Adds.of_eq rfl).trans (credited.trans given)

theorem closing_feed (t : Tracking ω) (c : Credit) (total : Decimal) :
    (t.closing c total).feed = if t.manner.keepsCancelled then t.feed else
      (t.held? c.number).toList.foldl Feed.unsubscribe t.feed := by
  have same := held?_crediting t c.number c.number c.output c.height c.rate c.usd total
  rw [closing]
  cases held : t.held? c.number with
  | none =>
    rw [held] at same
    rw [after_release_none same]
    exact (ite_self _).symm
  | some id =>
    rw [held] at same
    rw [after_release_some same, cancelling_feed]
    rfl

/-- A credit that is due is made, after questions and remarks only. -/
theorem Collects.credited {c : Credit} {number : Nat} (due : t.creditDue? answers number = some c)
    (sightings : u.sightings = t.sightings) (feed : u.feed = t.feed) (manner : u.manner = t.manner)
    (journal : Adds t u (t.questionOn? number).toList [] []) (total : Decimal) (record : LogRecord) :
    Collects answers t [number] ((u.closing c total).noted [.logged record]) := by
  have credits : t.creditsDue answers [number] = [c] := by
    simp [creditsDue, due]
  have held : t.heldFor [c] = (u.held? c.number).toList := by
    rw [held?, sightings, ← held?]
    cases same : t.held? c.number <;> simp [heldFor, same]
  have asked : [number].filterMap t.questionOn? = (t.questionOn? number).toList := by
    cases same : t.questionOn? number <;> simp [same]
  refine ⟨fun m => ?_, ?_, ?_, ?_⟩
  · rw [credits, noted_sightings, closing_getElem?, sightings]
    congr 1
    funext s
    simp only [List.map_cons, List.map_nil, List.mem_singleton, eq_comm]
  · rw [credits, held, ← feed, ← manner]
    exact closing_feed u c total
  · rw [← manner]
    exact release_manner _ _
  · rw [credits, asked, held]
    have told := adds_noted (u.closing c total) (.logged record) fun _ _ => rfl
    have all := (journal.trans (adds_closing u c total)).trans told
    simpa [TrackingEvent.question?, TrackingEvent.credit?, TrackingEvent.cancelled?] using all

/-- An amount that is not below zero, and a rate at which it can be converted. -/
structure Payable (satoshi : Int) (rate : Decimal) : Prop where
  amount : 0 ≤ satoshi
  finite : ∃ d f, rate = .finite false d f
  converted : ∃ usd, convertToUsd satoshi rate = .ok usd

/-- All that waits and has a rate can be credited at that rate. -/
def AllPayable (t : Tracking ω) (answers : Int → Except Failure Decimal) : Prop :=
  ∀ (number : Nat) (s : Sighting) (height : Int) (rate : Decimal),
    t.sightings[number]? = some s → s.phase = .confirmed (some height) →
    answers height = .ok rate → Payable s.output.satoshi rate

/--
Questions that have the same answer for a block as long as nothing else happens
than that they are asked, and during which nothing else does happen to the tracker.
-/
structure Fixed (ask : Int → Run (Tracking ω) Decimal) (kept : ω → Prop)
    (answers : Int → Except Failure Decimal) : Prop where
  outcome : ∀ height t, kept t.outside → Run.outcome (ask height) t = answers height
  aside : ∀ height t, kept t.outside → StandsAside (ask height) t
  kept : ∀ height t, kept t.outside → kept (Run.after (ask height) t).outside

namespace Collects

variable {numbers : List Nat}

theorem waits (collects : Collects answers t numbers u) {number : Nat} (other : number ∉ numbers)
    (waiting : number ∈ t.awaitingCredit) : number ∈ u.awaitingCredit := by
  rw [mem_awaitingCredit] at waiting ⊢
  rw [collects.elsewhere other]
  exact waiting

theorem allPayable (collects : Collects answers t numbers u) (payable : t.AllPayable answers) :
    u.AllPayable answers :=
  fun number s height rate found confirmed =>
    payable number s height rate (collects.waited found confirmed).1 confirmed

end Collects

theorem Settles.outside {number : Nat} {output : Output} {height : Int} {rate : Decimal}
    {result : Except Failure Bool} (settles : Settles t number output height rate result u) :
    u.outside = t.outside := by
  cases settles with
  | failed | concurrent | unsummed => rfl
  | credited usd total record =>
    rw [noted_outside, release_outside]
    rfl

section

variable {ask : Int → Run (Tracking ω) Decimal} {kept : ω → Prop}
  (fixed : Fixed ask kept answers)

include fixed

theorem Fixed.kept_credit (keeps : kept t.outside) (number : Nat) :
    kept (Run.after (credit ask number) t).outside := by
  have comes := tries ask t number
  generalize Run.outcome (credit ask number) t = result at comes
  generalize Run.after (credit ask number) t = u at comes
  cases comes with
  | idle | deferred => exact keeps
  | unanswered s height => exact fixed.kept height _ keeps
  | answered s height due rate told settles =>
    rw [settles.outside]
    exact fixed.kept height _ keeps

theorem Fixed.moves_credit (keeps : kept t.outside) (number : Nat) :
    Moves t (Run.after (credit ask number) t) := by
  have asking (height : Int) : Span {} (t.noted [.asked number height])
      (Run.after (ask height) (t.noted [.asked number height])) :=
    (fixed.aside height (t.noted [.asked number height]) keeps).span fun _ _ _ _ => trivial
  exact ((tries ask t number).span asking).moves

/-- A question is all that an answer adds to the journal. -/
theorem Fixed.adds_answered (keeps : kept t.outside) (number : Nat) (height : Int)
    (rate : Option Decimal) :
    Adds t ((Run.after (ask height) (t.noted [.asked number height])).noted
      [.answered number height rate]) [(number, height)] [] [] := by
  have asked := adds_noted t (.asked number height) fun _ _ => rfl
  have aside := (fixed.aside height (t.noted [.asked number height]) keeps).adds
  exact (asked.trans aside).trans (adds_noted _ (.answered number height rate) fun _ _ => rfl)

/-- A try to credit a sighting that waits credits it if that is due, and does not fail. -/
theorem Fixed.collects_credit (keeps : kept t.outside) (coherent : t.Coherent)
    (payable : t.AllPayable answers) {number : Nat} (waiting : number ∈ t.awaitingCredit) :
    Run.outcome (credit ask number) t = .ok (t.creditDue? answers number).isSome ∧
      Collects answers t [number] (Run.after (credit ask number) t) := by
  obtain ⟨s, block, found, confirmed⟩ := mem_awaitingCredit.mp waiting
  have new := coherent.unprocessed found (by rw [confirmed]; rfl)
  have comes := tries ask t number
  have asking (height : Int) := fixed.outcome height (t.noted [.asked number height]) keeps
  have aside (height : Int) := fixed.aside height (t.noted [.asked number height]) keeps
  obtain ⟨decided, -⟩ := outcome_credit aside coherent found confirmed
  generalize Run.outcome (credit ask number) t = result at comes decided ⊢
  generalize Run.after (credit ask number) t = u at comes ⊢
  cases comes with
  | idle undue =>
    obtain ⟨nothing, silent⟩ := blockless_of_undue found confirmed new undue
    rw [nothing]
    refine ⟨rfl, .of_nothing nothing rfl rfl rfl ?_⟩
    rw [silent]
    exact .of_eq rfl
  | deferred record undue =>
    obtain ⟨nothing, silent⟩ := blockless_of_undue found confirmed new undue
    rw [nothing]
    refine ⟨rfl, .of_nothing nothing rfl rfl rfl ?_⟩
    rw [silent]
    exact adds_noted t (.logged record) fun _ _ => rfl
  | unanswered s' height due failure record failed =>
    have nothing := due.creditDue?_of_error ((asking height).symm.trans failed)
    have unmoved := (aside height).unmoved
    rw [nothing]
    refine ⟨rfl, .of_nothing nothing unmoved.sightings unmoved.feed unmoved.manner ?_⟩
    rw [due.questionOn?]
    exact (fixed.adds_answered keeps number height none).trans
      (adds_noted _ (.logged record) fun _ _ => rfl)
  | answered s' height due rate told settles =>
    obtain rfl : s' = s := Option.some.inj (due.found.symm.trans found)
    cases confirmed.symm.trans due.block
    have answer := (asking height).symm.trans told
    obtain ⟨amount, ⟨d, f, rfl⟩, usd, converted⟩ :=
      payable number s' height rate found due.block answer
    have nonneg := isNegative_of_convertToUsd amount converted
    simp only [verdict, told, verdictAt, converted, nonneg] at decided
    subst decided
    cases settles with
    | credited usd' total record _ converted' =>
      have credit : t.creditDue? answers number =
          some ⟨number, s'.output, height, .finite false d f, usd'⟩ :=
        creditDue?_eq_some.mpr ⟨s', found, due.block, answer, converted', rfl, rfl⟩
      have unmoved := (aside height).unmoved.noted
        (.answered number height (some (.finite false d f))) rfl
      rw [credit]
      refine ⟨rfl, .credited credit unmoved.sightings unmoved.feed unmoved.manner ?_ total record⟩
      rw [due.questionOn?]
      exact fixed.adds_answered keeps number height _

/-! ## All tries -/

/-- What tries leave, from which others may go on. -/
structure Tried (answers : Int → Except Failure Decimal) (kept : ω → Prop) (t : Tracking ω)
    (numbers : List Nat) (u : Tracking ω) : Prop where
  collects : Collects answers t numbers u
  moves : Moves t u
  kept : kept u.outside

/-- Trying some of the sightings that wait credits what is due for them, and does not fail. -/
theorem Fixed.tried_creditAll (keeps : kept t.outside) (coherent : t.Coherent)
    (payable : t.AllPayable answers) {numbers : List Nat} (distinct : numbers.Nodup)
    (waiting : ∀ number ∈ numbers, number ∈ t.awaitingCredit) :
    Run.outcome (creditAll ask numbers) t = .ok (t.creditsDue answers numbers).length ∧
      Tried answers kept t numbers (Run.after (creditAll ask numbers) t) := by
  induction numbers generalizing t with
  | nil => exact ⟨rfl, .of_undue rfl rfl rfl rfl (.of_eq rfl), .refl, keeps⟩
  | cons number numbers ih =>
    obtain ⟨outcome, collects⟩ := fixed.collects_credit keeps coherent payable (waiting _ (.head _))
    have moves := fixed.moves_credit keeps number
    have keeps' := fixed.kept_credit keeps number
    have new : number ∉ numbers := (List.nodup_cons.mp distinct).1
    have apart {other : Nat} (inside : other ∈ numbers) : other ∉ [number] := by
      rw [List.mem_singleton]
      exact fun same => new (same ▸ inside)
    obtain ⟨outcome', tried⟩ := ih keeps' (Moves.coherent moves coherent)
      (collects.allPayable payable) distinct.of_cons
      fun other inside => collects.waits (apart inside) (waiting other (.tail _ inside))
    have all := collects.append tried.collects fun other => apart
    have count : (t.creditsDue answers (number :: numbers)).length =
        ((Run.after (credit ask number) t).creditsDue answers numbers).length +
          (t.creditDue? answers number).isSome.toNat := by
      rw [collects.creditsDue_eq fun other => apart]
      cases due : t.creditDue? answers number <;> simp [creditsDue, due]
    simp only [creditAll, Run.outcome_bind, Run.after_bind, outcome, outcome', Run.outcome_pure,
      Run.after_pure]
    exact ⟨by rw [count], all, moves.trans tried.moves, tried.kept⟩

/-- A retry credits what is due for the sightings that wait, and does not fail. -/
theorem Fixed.tried_retry (keeps : kept t.outside) (coherent : t.Coherent)
    (payable : t.AllPayable answers) :
    Run.outcome (retry ask) t = .ok (t.creditsDue answers t.awaitingCredit).length ∧
      Tried answers kept t t.awaitingCredit (Run.after (retry ask) t) := by
  by_cases idle : t.awaitingCredit = []
  · have nothing : Run.outcome (retry ask) t = .ok 0 ∧ Run.after (retry ask) t = t := by
      simp [retry, idle, creditAll]
    rw [nothing.1, nothing.2, idle]
    exact ⟨rfl, .of_undue rfl rfl rfl rfl (.of_eq rfl), .refl, keeps⟩
  · have alike := retry_alike ask idle
    have told : Moves t t.retrying := .single (.logged t _)
    obtain ⟨outcome, tried⟩ := fixed.tried_creditAll (t := t.retrying) keeps
      (Moves.coherent told coherent) payable t.nodup_awaitingCredit fun _ inside => inside
    have noted : Collects answers t [] t.retrying :=
      .of_undue rfl rfl rfl rfl (adds_noted t (.logged _) fun _ _ => rfl)
    rw [alike.outcome, alike.after]
    exact ⟨outcome, noted.append tried.collects fun _ _ => List.not_mem_nil,
      told.trans tried.moves, tried.kept⟩

end

/-! ## What is left -/

namespace Collects

variable {numbers : List Nat}

theorem credits_eq (collects : Collects answers t numbers u) :
    u.credits = t.credits ++ t.creditsDue answers numbers := by
  obtain ⟨events, journal, tells⟩ := collects.journal
  rw [credits, journal, History.credits_append, tells.credits]
  rfl

theorem processed_eq (collects : Collects answers t numbers u) (balanced : t.Balanced)
    (balanced' : u.Balanced) : u.ledger.processed =
      t.ledger.processed ++ (t.creditsDue answers numbers).map (·.output.outpoint) := by
  rw [balanced'.processed, collects.credits_eq, List.map_append, balanced.processed]

theorem summed (collects : Collects answers t numbers u) (balanced : t.Balanced)
    (balanced' : u.Balanced) :
    t.ledger.total.sumFrom ((t.creditsDue answers numbers).map (·.usd)) = .ok u.ledger.total := by
  have total := balanced'.summed
  rw [collects.credits_eq, List.map_append, Decimal.sumFrom_append _ balanced.summed] at total
  exact total

/-- The total grows by all that is credited. -/
theorem total_eq (collects : Collects answers t numbers u) (balanced : t.Balanced)
    (balanced' : u.Balanced)
    (below : t.ledger.total.value + ((t.creditsDue answers numbers).map (·.usd.value)).sum < 10 ^ 26) :
    u.ledger.total.value =
      t.ledger.total.value + ((t.creditsDue answers numbers).map (·.usd.value)).sum := by
  have values : ((t.creditsDue answers numbers).map (·.usd)).map Decimal.value =
      (t.creditsDue answers numbers).map (·.usd.value) :=
    List.map_map
  have cents : ∀ usd ∈ (t.creditsDue answers numbers).map (·.usd), Decimal.IsCents usd := by
    intro usd inside
    apply balanced'.isCents
    rw [collects.credits_eq, List.map_append]
    exact List.mem_append_right _ inside
  rw [← values] at below ⊢
  obtain ⟨sum, summed, exact⟩ := balanced.isTotal.sumFrom_exact cents (by exact_mod_cast below)
  rw [collects.summed balanced balanced'] at summed
  cases summed
  exact exact

/-- No output that is credited is followed any more, and every other one is as before. -/
theorem open?_eq (collects : Collects answers t numbers u) (coherent : t.Coherent)
    (coherent' : u.Coherent) (output : Outpoint) :
    u.open? output =
      if output ∈ (t.creditsDue answers numbers).map (·.output.outpoint) then none
      else t.open? output := by
  split
  · rename_i made
    have inside : u.isProcessed output = true := by
      rw [isProcessed, Ledger.contains, List.contains_iff_mem,
        collects.processed_eq coherent.balanced coherent'.balanced]
      exact List.mem_append_right _ made
    exact (coherent'.processed inside).1
  · rename_i other
    cases known : t.open? output with
    | some number =>
      obtain ⟨s, found, isOpen, rfl⟩ := open?_found known
      have undue : number ∉ (t.creditsDue answers numbers).map (·.number) := by
        intro due
        obtain ⟨c, made, rfl⟩ := List.mem_map.mp due
        obtain ⟨-, due⟩ := mem_creditsDue.mp made
        obtain ⟨s', found', -, -, -, -, same⟩ := creditDue?_eq_some.mp due
        rw [found] at found'
        cases found'
        exact other (List.mem_map.mpr ⟨c, made, congrArg Output.outpoint same⟩)
      rw [← collects.unchanged undue] at found
      exact coherent'.orderly.open?_eq found isOpen
    | none =>
      cases known' : u.open? output with
      | none => rfl
      | some number =>
        obtain ⟨s', found', isOpen, rfl⟩ := open?_found known'
        rw [collects.sightings] at found'
        obtain ⟨s, found, rfl⟩ := Option.map_eq_some_iff.mp found'
        split at isOpen
        · cases isOpen
        · rename_i undue
          rw [if_neg undue, coherent.orderly.open?_eq found isOpen] at known
          cases known

/-- Tries for which nothing is due leave nothing but remarks. -/
theorem unmoved (collects : Collects answers t numbers u)
    (nothing : t.creditsDue answers numbers = []) (balanced : t.Balanced)
    (balanced' : u.Balanced) : Unmoved t u := by
  have processed := collects.processed_eq balanced balanced'
  have total := collects.summed balanced balanced'
  obtain ⟨events, journal, tells⟩ := collects.journal
  have feed := collects.feed
  rw [nothing] at processed total tells feed
  refine ⟨feed.trans (ite_self _), collects.manner, ?_, ?_, events, journal, ?_⟩
  · apply List.ext_getElem?
    intro number
    apply collects.unchanged
    rw [nothing]
    exact List.not_mem_nil
  · rw [List.map_nil, List.append_nil] at processed
    have same : t.ledger.total = u.ledger.total := Except.ok.inj total
    calc u.ledger = ⟨u.ledger.processed, u.ledger.total⟩ := rfl
      _ = ⟨t.ledger.processed, t.ledger.total⟩ := by rw [processed, same]
  · intro event inside
    exact tells.remarks event inside (List.filterMap_eq_nil_iff.mp tells.credits event inside)
      (List.filterMap_eq_nil_iff.mp tells.cancelled event inside)

end Collects

/-- What a retry leaves. -/
structure Retried (answers : Int → Except Failure Decimal) (t u : Tracking ω) : Prop
    extends Collects answers t t.awaitingCredit u where
  /-- All sightings are credited that wait in a block that has a rate, and no other ones. -/
  rated : ∀ number : Nat,
    number ∈ (t.creditsDue answers t.awaitingCredit).map (·.number) ↔
      ∃ s height rate, t.sightings[number]? = some s ∧ s.phase = .confirmed (some height) ∧
        answers height = .ok rate
  /-- They are credited in their order, -/
  ordered : ((t.creditsDue answers t.awaitingCredit).map (·.number)).Pairwise (· < ·)
  /-- each at the rate of its block. -/
  priced : ∀ c ∈ t.creditsDue answers t.awaitingCredit, ∃ s, t.sightings[c.number]? = some s ∧
    c.output = s.output ∧ s.phase = .confirmed (some c.height) ∧ answers c.height = .ok c.rate ∧
    convertToUsd c.output.satoshi c.rate = .ok c.usd
  processed : u.ledger.processed = t.ledger.processed ++
    (t.creditsDue answers t.awaitingCredit).map (·.output.outpoint)
  total : t.ledger.total.value +
      ((t.creditsDue answers t.awaitingCredit).map (·.usd.value)).sum < 10 ^ 26 →
    u.ledger.total.value = t.ledger.total.value +
      ((t.creditsDue answers t.awaitingCredit).map (·.usd.value)).sum
  tracked : ∀ output, u.open? output =
    if output ∈ (t.creditsDue answers t.awaitingCredit).map (·.output.outpoint) then none
    else t.open? output

theorem map_number_creditsDue (t : Tracking ω) (answers : Int → Except Failure Decimal)
    (numbers : List Nat) : (t.creditsDue answers numbers).map (·.number) =
      numbers.filter fun number => (t.creditDue? answers number).isSome := by
  induction numbers with
  | nil => rfl
  | cons number numbers ih =>
    cases due : t.creditDue? answers number with
    | none =>
      rw [creditsDue, List.filterMap_cons_none due, List.filter_cons_of_neg (by simp [due])]
      exact ih
    | some c =>
      obtain ⟨-, -, -, -, -, rfl, -⟩ := creditDue?_eq_some.mp due
      rw [creditsDue, List.filterMap_cons_some due, List.filter_cons_of_pos (by simp [due]),
        List.map_cons]
      exact congrArg _ ih

theorem Collects.retried (collects : Collects answers t t.awaitingCredit u)
    (payable : t.AllPayable answers) (coherent : t.Coherent) (coherent' : u.Coherent) :
    Retried answers t u where
  toCollects := collects
  rated := fun number => by
    rw [map_number_creditsDue, List.mem_filter, Option.isSome_iff_exists]
    constructor
    · rintro ⟨-, c, due⟩
      obtain ⟨s, found, confirmed, told, -, -, -⟩ := creditDue?_eq_some.mp due
      exact ⟨s, c.height, c.rate, found, confirmed, told⟩
    · rintro ⟨s, height, rate, found, confirmed, told⟩
      obtain ⟨usd, converted⟩ := (payable number s height rate found confirmed told).converted
      exact ⟨mem_awaitingCredit.mpr ⟨s, some height, found, confirmed⟩,
        ⟨number, s.output, height, rate, usd⟩,
        creditDue?_eq_some.mpr ⟨s, found, confirmed, told, converted, rfl, rfl⟩⟩
  ordered := by
    rw [map_number_creditsDue]
    exact t.pairwise_awaitingCredit.filter _
  priced := fun c made => by
    obtain ⟨s, found, confirmed, told, converted, -, output⟩ :=
      creditDue?_eq_some.mp (mem_creditsDue.mp made).2
    exact ⟨s, found, output, confirmed, told, output ▸ converted⟩
  processed := collects.processed_eq coherent.balanced coherent'.balanced
  total := collects.total_eq coherent.balanced coherent'.balanced
  tracked := collects.open?_eq coherent coherent'

/-- After a retry nothing is due any more at the same rates. -/
theorem Collects.nothing_due (collects : Collects answers t t.awaitingCredit u) :
    u.creditsDue answers u.awaitingCredit = [] := by
  rw [creditsDue, List.filterMap_eq_nil_iff]
  intro number waiting
  obtain ⟨s, block, found, confirmed⟩ := mem_awaitingCredit.mp waiting
  obtain ⟨found', undue⟩ := collects.waited found confirmed
  rw [map_number_creditsDue, List.mem_filter] at undue
  rw [creditDue?_congr (found.trans found'.symm), ← Option.not_isSome_iff_eq_none]
  exact fun due => undue ⟨mem_awaitingCredit.mpr ⟨s, block, found', confirmed⟩, due⟩

/--
A retry at rates that stay the same credits exactly the sightings that wait in a
block that has a rate, and tells how many they are.  It asks once about each one
that waits in a block, in the order in which they began, whatever the answers are;
and the same retry made once more credits nothing and changes nothing.
-/
theorem retry_credits_due (manner : FeedManner) (outside : ω) {t : Tracking ω}
    (passed : Moves (start manner outside) t) {ask : Int → Run (Tracking ω) Decimal}
    {kept : ω → Prop} {answers : Int → Except Failure Decimal} (fixed : Fixed ask kept answers)
    (keeps : kept t.outside) (payable : t.AllPayable answers) :
    t.awaitingCredit.Pairwise (· < ·) ∧
    Run.outcome (retry ask) t = .ok (t.creditsDue answers t.awaitingCredit).length ∧
    Retried answers t (Run.after (retry ask) t) ∧
    Run.outcome (retry ask) (Run.after (retry ask) t) = .ok 0 ∧
    Unmoved (Run.after (retry ask) t) (Run.after (retry ask) (Run.after (retry ask) t)) := by
  have coherent := Moves.coherent passed (coherent_start manner outside)
  obtain ⟨outcome, tried⟩ := fixed.tried_retry keeps coherent payable
  have coherent' := Moves.coherent tried.moves coherent
  have nothing := tried.collects.nothing_due
  obtain ⟨again, retried⟩ := fixed.tried_retry tried.kept coherent'
    (tried.collects.allPayable payable)
  have coherent'' := Moves.coherent retried.moves coherent'
  rw [nothing] at again
  exact ⟨t.pairwise_awaitingCredit, outcome, tried.collects.retried payable coherent coherent',
    again, retried.collects.unmoved nothing coherent'.balanced coherent''.balanced⟩

def silent (height : Int) : Run (Tracking Nat) Decimal :=
  throw (.noRate height)

def quotation (height : Int) : Except Failure Decimal :=
  if height = 7 then .ok (Decimal.ofInt 30000) else .error (.noRate height)

/-- The questions are counted outside. -/
def bookkeeping (height : Int) : Run (Tracking Nat) Decimal := do
  modify fun t => { t with outside := t.outside + 1 }
  Run.ofExcept (quotation height)

theorem fixed_bookkeeping : Fixed bookkeeping (fun _ => True) quotation where
  outcome := fun height t _ => by simp [bookkeeping]
  aside := fun height t _ => ⟨[], t.outside + 1, by simp [bookkeeping, noted]⟩
  kept := fun _ _ _ => trivial

/-- Of five outputs one is undecided, one has no block, and two are in a block that has a rate. -/
def assorted : Tracking Nat :=
  [.addAddress "address" 0, part 0 .pending none, part 1 .pending none,
    .callback ⟨"tx", 0⟩ .building (some 7), part 2 .building none, part 3 .building (some 8),
    part 4 .building (some 7)].foldl (fun t operation => Run.after (operation.perform silent) t)
    (start {} 0)

theorem evolves_assorted : Evolves (start {} 0) assorted := by
  have performed (operations : List Operation) (t : Tracking Nat) : Evolves t
      (operations.foldl (fun t operation => Run.after (operation.perform silent) t) t) := by
    induction operations generalizing t with
    | nil => exact .refl t
    | cons operation operations ih =>
      exact (Evolves.perform (.refl t) silent (fun _ s => .refl s) operation).trans (ih _)
  exact performed _ _

theorem allPayable_assorted : assorted.AllPayable quotation := by
  intro number s height rate found _ told
  have amounts : ∀ s ∈ assorted.sightings, s.output.satoshi = 100000000 := by decide +kernel
  have known : rate = Decimal.ofInt 30000 := by
    unfold quotation at told
    split at told <;> cases told
    rfl
  rw [known, amounts s (List.mem_of_getElem? found)]
  exact ⟨by decide, ⟨30000, 0, rfl⟩, .finite false 3000000 (-2), by decide +kernel⟩

/-- Two are credited and the subscription of the undecided one is left; once more, none is. -/
theorem retry_credits_due_assorted :
    Run.outcome (retry bookkeeping) assorted = .ok 2 ∧
    (Run.after (retry bookkeeping) assorted).ledger.total.value = 60000 ∧
    (Run.after (retry bookkeeping) assorted).open? ⟨"tx", 0⟩ = none ∧
    (Run.after (retry bookkeeping) assorted).open? ⟨"tx", 3⟩ = some 3 ∧
    (Run.after (retry bookkeeping) assorted).feed.subscriptions.map (·.id) = [2] ∧
    Run.outcome (retry bookkeeping) (Run.after (retry bookkeeping) assorted) = .ok 0 := by
  obtain ⟨-, outcome, retried, again, -⟩ := retry_credits_due {} 0 evolves_assorted.moves
    fixed_bookkeeping trivial allPayable_assorted
  have due : assorted.creditsDue quotation assorted.awaitingCredit =
      [⟨0, ⟨⟨"tx", 0⟩, "address", 100000000, .pending, none⟩, 7, Decimal.ofInt 30000,
          .finite false 3000000 (-2)⟩,
        ⟨4, ⟨⟨"tx", 4⟩, "address", 100000000, .building, some 7⟩, 7, Decimal.ofInt 30000,
          .finite false 3000000 (-2)⟩] := by
    decide +kernel
  have value : (Decimal.finite false 3000000 (-2)).value = 30000 := by
    norm_num [Decimal.value_finite_false, Decimal.scaled]
  have nothing : assorted.ledger.total.value = 0 := by
    have zero : assorted.ledger.total = Decimal.zero := by decide +kernel
    rw [zero]
    exact Decimal.scaled_zero 0
  have total := retried.total
  have feed := retried.feed
  rw [due] at outcome total feed
  simp only [List.map_cons, List.map_nil, List.sum_cons, List.sum_nil, value, nothing] at total
  refine ⟨outcome, (total (by norm_num)).trans (by norm_num), ?_, ?_, ?_, again⟩
  · rw [retried.tracked, due]
    rfl
  · rw [retried.tracked, due]
    decide +kernel
  · rw [feed]
    decide +kernel

end Tracking

end Paywatch
