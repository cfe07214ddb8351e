import Mathlib.Data.List.FinRange
import Mathlib.Data.List.ProdSigma
import Paywatch.Feed.Delivery
import Paywatch.Proofs.Feed.Deeds
import Paywatch.Proofs.Run
import Paywatch.Scenario.Watch

/-!
# Deliveries to callbacks that act on the feed

A callback may do anything to the state that holds the feed, and so watch addresses,
register and give up callbacks, and start deliveries inside the one that called it.
What is delivered is settled all the same by what was done to the feed before the
delivery began, and a callback that fails cuts the deliveries short and does nothing
else to them.
-/

namespace Paywatch

namespace Run

variable {σ α ρ : Type} (call : α → Run σ Unit)

/-! ## Calls one after another -/

/--
Make a call, and note beside the state that it is made.  Calls that are made inside
the call do not reach the notes.
-/
def noted (a : α) : Run (σ × List α) Unit := do
  modify fun (s, made) => (s, made ++ [a])
  within Prod.fst (fun s before => (s, before.2)) (call a)

theorem outcome_noted (a : α) (s : σ) (made : List α) :
    outcome (noted call a) (s, made) = outcome (call a) s := rfl

theorem after_noted (a : α) (s : σ) (made : List α) :
    after (noted call a) (s, made) = (after (call a) s, made ++ [a]) := rfl

/-- A call that returns is followed by the others, from the state that it leaves. -/
theorem forM_cons_returned {a : α} {s : σ} (returned : outcome (call a) s = .ok ())
    (as : List α) : Alike ((a :: as).forM call) s (as.forM call) (after (call a) s) :=
  have seq := Succeeds.after_seq (y := as.forM call) ⟨(), returned⟩
  ⟨seq.1, seq.2⟩

/-- A call that fails ends them all. -/
theorem forM_cons_failed {a : α} {s : σ} {failure : Failure}
    (failed : outcome (call a) s = .error failure) (as : List α) :
    outcome ((a :: as).forM call) s = .error failure ∧
      after ((a :: as).forM call) s = after (call a) s := by
  change outcome (call a >>= fun _ => as.forM call) s = _ ∧
    after (call a >>= fun _ => as.forM call) s = _
  rw [outcome_bind, after_bind, failed]
  exact ⟨rfl, rfl⟩

/-- Every call returns, each from the state that those before it leave. -/
def Return (due : List α) (s : σ) : Prop :=
  ∀ earlier next later, due = earlier ++ next :: later →
    outcome (call next) (after (earlier.forM call) s) = .ok ()

theorem return_nil (s : σ) : Return call [] s := by
  intro earlier next later parts
  cases earlier <;> cases parts

variable {call}

theorem Return.cons {a : α} {due : List α} {s : σ} (returned : outcome (call a) s = .ok ())
    (rest : Return call due (after (call a) s)) : Return call (a :: due) s := by
  intro earlier next later parts
  cases earlier with
  | nil =>
    cases parts
    exact returned
  | cons first earlier =>
    cases parts
    rw [(forM_cons_returned call returned earlier).after]
    exact rest earlier next later rfl

variable (call)

/--
How calls that are due end, and which of them are made: all of them when each returns,
and otherwise those up to the first that fails.
-/
def Ended (result : ρ) (due made : List α) (s : σ) : Except Failure ρ → Prop
  | .ok value => value = result ∧ made = due ∧ Return call due s
  | .error failure => ∃ earlier last later,
      due = earlier ++ last :: later ∧ made = earlier ++ [last] ∧ Return call earlier s ∧
        outcome (call last) (after (earlier.forM call) s) = .error failure

variable {call}

/-- The calls that are made are the first of those that are due. -/
theorem Ended.made_isPrefix {result : ρ} {due made : List α} {s : σ} {end? : Except Failure ρ}
    (ended : Ended call result due made s end?) : made <+: due := by
  cases end? with
  | ok value =>
    obtain ⟨-, rfl, -⟩ := ended
    exact List.prefix_rfl
  | error failure =>
    obtain ⟨earlier, last, later, rfl, rfl, -⟩ := ended
    exact ⟨later, by rw [List.append_assoc, List.singleton_append]⟩

theorem Ended.cons {a : α} {due made : List α} {s : σ} {end? : Except Failure Unit}
    (returned : outcome (call a) s = .ok ())
    (rest : Ended call () due made (after (call a) s) end?) :
    Ended call () (a :: due) (a :: made) s end? := by
  cases end? with
  | ok value =>
    obtain ⟨-, rfl, all⟩ := rest
    exact ⟨rfl, rfl, all.cons returned⟩
  | error failure =>
    obtain ⟨earlier, last, later, rfl, rfl, all, failed⟩ := rest
    refine ⟨a :: earlier, last, later, rfl, rfl, all.cons returned, ?_⟩
    rwa [(forM_cons_returned call returned earlier).after]

variable (call)

/-- Calls that are noted are the same calls, and the notes say which of them are made. -/
theorem forM_noted (due : List α) (s : σ) (before : List α) :
    ∃ made, outcome (due.forM (noted call)) (s, before) = outcome (due.forM call) s ∧
      after (due.forM (noted call)) (s, before) = (after (due.forM call) s, before ++ made) ∧
      after (made.forM call) s = after (due.forM call) s ∧
      Ended call () due made s (outcome (due.forM call) s) := by
  -- The notes grow along the calls, so those that were there before are any.
  induction due generalizing s before with
  | nil =>
    refine ⟨[], rfl, ?_, rfl, rfl, rfl, return_nil call s⟩
    rw [List.append_nil]
    rfl
  | cons a due ih =>
    cases result : outcome (call a) s with
    | error failure =>
      obtain ⟨outcome, after⟩ := forM_cons_failed call result due
      obtain ⟨outcome', after'⟩ :=
        forM_cons_failed (noted call) ((outcome_noted call a s before).trans result) due
      refine ⟨[a], outcome'.trans outcome.symm, ?_, ?_, ?_⟩
      · rw [after', after, after_noted]
      · rw [after, (forM_cons_failed call result []).2]
      · rw [outcome]
        exact ⟨[], a, due, rfl, rfl, return_nil call s, result⟩
    | ok _ =>
      have rest := forM_cons_returned call result
      have rest' :=
        forM_cons_returned (noted call) ((outcome_noted call a s before).trans result) due
      obtain ⟨made, outcome, after, replayed, ended⟩ := ih (after (call a) s) (before ++ [a])
      refine ⟨a :: made, ?_, ?_, ?_, ?_⟩
      · rw [rest'.outcome, (rest due).outcome, after_noted, outcome]
      · rw [rest'.after, (rest due).after, after_noted, after, List.append_assoc]
        rfl
      · rw [(rest made).after, (rest due).after, replayed]
      · rw [(rest due).outcome]
        exact ended.cons result

/-! ## Steps that make calls -/

/--
A step makes the calls that are due and gives a result; `watched` is the same step
with its calls noted.
-/
structure Carries (due : List α) (result : ρ) (step : Run σ ρ) (watched : Run (σ × List α) ρ)
    (s : σ) : Prop where
  /-- Noting the calls changes nothing. -/
  outcome : Run.outcome watched (s, []) = Run.outcome step s
  state : (after watched (s, [])).1 = after step s
  /-- The state changes by the calls only. -/
  replayed : after step s = after ((after watched (s, [])).2.forM call) s
  ended : Ended call result due (after watched (s, [])).2 s (Run.outcome step s)

theorem carries_forM (due : List α) (result : ρ) (s : σ) :
    Carries call due result (due.forM call >>= fun _ => pure result)
      (due.forM (noted call) >>= fun _ => pure result) s := by
  obtain ⟨made, same, left, replayed, ended⟩ := forM_noted call due s []
  rw [bind_pure_comp, bind_pure_comp]
  refine ⟨?_, ?_, ?_, ?_⟩
  · rw [outcome_map, outcome_map, same]
  · rw [after_map, after_map, left]
  · rw [after_map, after_map, left]
    exact replayed.symm
  · rw [after_map, outcome_map, left, List.nil_append]
    cases end? : outcome (due.forM call) s with
    | ok value =>
      rw [end?] at ended
      exact ⟨rfl, ended.2⟩
    | error failure =>
      rw [end?] at ended
      exact ended

variable {call}

theorem Carries.of_alike {due : List α} {result : ρ} {x y : Run σ ρ} {x' y' : Run (σ × List α) ρ}
    {s : σ} (carries : Carries call due result y y' s) (alike : Alike x s y s)
    (alike' : Alike x' (s, []) y' (s, [])) : Carries call due result x x' s where
  outcome := by rw [alike.outcome, alike'.outcome, carries.outcome]
  state := by rw [alike.after, alike'.after, carries.state]
  replayed := by rw [alike.after, alike'.after, carries.replayed]
  ended := by
    rw [alike.outcome, alike'.after]
    exact carries.ended

end Run

namespace Feed

variable {σ κ ρ : Type}

/-! ## What is due -/

/-- The outputs are numbered from zero, in the order of the payments. -/
theorem outputsOf_getElem? (txid : String) (payments : List (String × Int))
    (confidence : Confidence) (height : Option Int) (i : Nat) :
    (outputsOf txid payments confidence height)[i]? =
      payments[i]?.map fun (address, satoshi) =>
        ⟨⟨txid, i⟩, address, satoshi, confidence, height⟩ := by
  rw [outputsOf, List.getElem?_map, List.getElem?_zipIdx, Option.map_map, Nat.zero_add]
  rfl

def Asked (deeds : List (FeedDeed κ)) (payments : List (String × Int)) : Prop :=
  ∃ payment ∈ payments, ∃ new, .watched new ∈ deeds ∧ new.address = payment.1

theorem concerns_outputsOf (deeds : List (FeedDeed κ)) (txid : String)
    (payments : List (String × Int)) (confidence : Confidence) (height : Option Int) :
    (reached deeds).concerns (outputsOf txid payments confidence height) = true ↔
      Asked deeds payments := by
  have address : (outputsOf txid payments confidence height).map (·.address) =
      payments.map Prod.fst := by
    refine List.ext_getElem? fun i => ?_
    rw [List.getElem?_map, List.getElem?_map, outputsOf_getElem?, Option.map_map]
    rfl
  have any (outputs : List Output) : (reached deeds).concerns outputs =
      (outputs.map (·.address)).any (reached deeds).isWatched := by
    rw [List.any_map]
    rfl
  rw [any, address, List.any_map, List.any_eq_true]
  simp only [Function.comp_apply, isWatched_reached]
  rfl

/--
Every output is due to every one of the listeners once: output by output, and for each of
them in the order of the listeners.
-/
def IsRound (listeners : List κ) (outputs : List Output) (due : List (κ × Output)) : Prop :=
  ∃ turns : List (Fin outputs.length × Fin listeners.length),
    turns.Pairwise (Prod.Lex (· < ·) (· < ·)) ∧ (∀ turn, turn ∈ turns) ∧
      due = turns.map fun turn => (listeners[turn.2], outputs[turn.1])

theorem isRound_deliveries (feed : Feed κ) (outputs : List Output) :
    IsRound feed.receivers outputs (feed.deliveries outputs) := by
  refine ⟨List.finRange outputs.length ×ˢ List.finRange feed.receivers.length, ?_, ?_, ?_⟩
  · refine List.pairwise_flatMap.mpr ⟨fun i _ => ?_, ?_⟩
    · exact (List.pairwise_lt_finRange _).map _ fun j j' lt => .right i lt
    · refine (List.pairwise_lt_finRange _).imp fun lt turn first turn' second => ?_
      obtain ⟨j, -, rfl⟩ := List.mem_map.mp first
      obtain ⟨j', -, rfl⟩ := List.mem_map.mp second
      exact .left j j' lt
  · rintro ⟨i, j⟩
    exact List.mem_product.mpr ⟨List.mem_finRange i, List.mem_finRange j⟩
  · have all {α : Type} (as : List α) : (List.finRange as.length).map (fun i => as[i]) = as :=
      List.map_getElem_finRange as
    have row (output : Output) : feed.receivers.map (fun receiver => (receiver, output)) =
        (List.finRange feed.receivers.length).map fun j => (feed.receivers[j], output) := by
      conv_lhs => rw [← all feed.receivers, List.map_map]
      rfl
    calc feed.deliveries outputs
        = ((List.finRange outputs.length).map fun i => outputs[i]).flatMap fun output =>
            feed.receivers.map fun receiver => (receiver, output) := by
          rw [all, deliveries]
      _ = (List.finRange outputs.length).flatMap fun i =>
            ((List.finRange feed.receivers.length).map (Prod.mk i)).map fun turn =>
              (feed.receivers[turn.2], outputs[turn.1]) := by
          simp only [List.flatMap_map, row, List.map_map]
          rfl
      _ = _ := List.map_flatMap.symm

/-- The subscriptions that a change concerns are the live ones on the transaction, in order. -/
theorem concernedBy_reached (deeds : List (FeedDeed κ)) (txid : String) :
    ((reached deeds).concernedBy txid).Pairwise (·.id < ·.id) ∧
      ∀ sub, sub ∈ (reached deeds).concernedBy txid ↔
        Live deeds sub ∧ sub.output.txid = txid := by
  have subscribed : Subscribed deeds (reached deeds) := .reached deeds
  refine ⟨subscribed.ordered.filter _, fun sub => ?_⟩
  rw [concernedBy, List.mem_filter, subscribed.live, beq_iff_eq]

/-! ## What is delivered -/

section Deliveries

variable (feedOf : σ → Feed κ) {s : σ}

theorem deliver_alike (call : κ × Output → Run σ Unit) (outputs : List Output) :
    Run.Alike (deliver feedOf (fun callback output => call (callback, output)) outputs) s
      (if (feedOf s).concerns outputs then
        ((feedOf s).deliveries outputs).forM call >>= fun _ => pure outputs
      else pure []) s :=
  ⟨rfl, rfl⟩

theorem deliver_concerned (call : κ × Output → Run σ Unit) {outputs : List Output}
    (concerned : (feedOf s).concerns outputs = true) :
    Run.Alike (deliver feedOf (fun callback output => call (callback, output)) outputs) s
      (((feedOf s).deliveries outputs).forM call >>= fun _ => pure outputs) s :=
  (deliver_alike feedOf call outputs).of_eq (if_pos concerned)

theorem deliver_unconcerned (call : κ × Output → Run σ Unit) {outputs : List Output}
    (unconcerned : ¬ (feedOf s).concerns outputs = true) :
    Run.Alike (deliver feedOf (fun callback output => call (callback, output)) outputs) s
      (pure []) s :=
  (deliver_alike feedOf call outputs).of_eq (if_neg unconcerned)

theorem carries_deliver (call : κ × Output → Run σ Unit) {outputs : List Output}
    (concerned : (feedOf s).concerns outputs = true) :
    Run.Carries call ((feedOf s).deliveries outputs) outputs
      (deliver feedOf (fun callback output => call (callback, output)) outputs)
      (deliver (feedOf ·.1) (fun callback output => Run.noted call (callback, output)) outputs) s :=
  (Run.carries_forM call _ outputs s).of_alike (deliver_concerned feedOf call concerned)
    (deliver_concerned (s := (s, [])) (feedOf ·.1) (Run.noted call) concerned)

theorem carries_announce (call : Subscription κ → Run σ Unit) (txid : String) :
    Run.Carries call ((feedOf s).concernedBy txid) ((feedOf s).concernedBy txid).length
      (announce feedOf call txid) (announce (feedOf ·.1) (Run.noted call) txid) s :=
  (Run.carries_forM call _ _ s).of_alike ⟨rfl, rfl⟩ ⟨rfl, rfl⟩

end Deliveries

/-! ## Callbacks that act on the feed -/

/-- A step changes the feed only in the ways in which a feed changes. -/
def Abides (feedOf : σ → Feed κ) (step : Run σ ρ) : Prop :=
  ∀ s, ∃ deeds, feedOf (Run.after step s) = (feedOf s).throughout deeds

namespace Abides

variable {feedOf : σ → Feed κ} {ρ' : Type}

theorem reached {step : Run σ ρ} (abides : Abides feedOf step) {s : σ} {deeds : List (FeedDeed κ)}
    (entry : feedOf s = reached deeds) :
    ∃ more, feedOf (Run.after step s) = Feed.reached (deeds ++ more) := by
  obtain ⟨more, done⟩ := abides s
  exact ⟨more, by rw [done, entry, Feed.reached, Feed.reached, throughout_append]⟩

theorem of_same {step : Run σ ρ} (same : ∀ s, feedOf (Run.after step s) = feedOf s) :
    Abides feedOf step :=
  fun s => ⟨[], same s⟩

theorem bind {x : Run σ ρ} {f : ρ → Run σ ρ'} (first : Abides feedOf x)
    (rest : ∀ a, Abides feedOf (f a)) : Abides feedOf (x >>= f) := by
  intro s
  obtain ⟨deeds, done⟩ := first s
  rw [Run.after_bind]
  cases Run.outcome x s with
  | error failure => exact ⟨deeds, done⟩
  | ok a =>
    obtain ⟨more, doneMore⟩ := rest a (Run.after x s)
    exact ⟨deeds ++ more, by rw [throughout_append, ← done, doneMore]⟩

theorem forM {α : Type} {call : α → Run σ Unit} (abides : ∀ a, Abides feedOf (call a))
    (due : List α) : Abides feedOf (due.forM call) := by
  induction due with
  | nil => exact of_same fun _ => rfl
  | cons a due ih => exact (abides a).bind fun _ => ih

theorem deliver {call : κ → Output → Run σ Unit}
    (abides : ∀ callback output, Abides feedOf (call callback output)) (outputs : List Output) :
    Abides feedOf (deliver feedOf call outputs) := by
  refine bind (of_same fun _ => rfl) fun s => ?_
  change Abides feedOf (if (feedOf s).concerns outputs = true then _ else _)
  split
  · exact bind (forM (fun told : κ × Output => abides told.1 told.2) _) fun _ => of_same fun _ => rfl
  · exact of_same fun _ => rfl

theorem announce {call : Subscription κ → Run σ Unit} (abides : ∀ sub, Abides feedOf (call sub))
    (txid : String) : Abides feedOf (announce feedOf call txid) :=
  bind (of_same fun _ => rfl) fun _ => bind (forM abides _) fun _ => of_same fun _ => rfl

end Abides

end Feed

namespace Scenario.WatchWorld

variable {inner : List WatchOp → Run WatchWorld Unit}

theorem abides_call (abides : ∀ own, Feed.Abides (·.feed) (inner own))
    (event : String → WatchEvent) (position : Nat) :
    Feed.Abides (·.feed) (call inner event position) := by
  refine .bind (.of_same fun _ => rfl) fun w => ?_
  split
  · exact .of_same fun _ => rfl
  · refine .bind (.of_same fun _ => rfl) fun _ => ?_
    refine .bind (.of_same fun _ => rfl) fun own => ?_
    refine .bind (abides own) fun _ => ?_
    split <;> exact .of_same fun _ => rfl

/-- Each step of a scenario abides when the own steps of callbacks do. -/
theorem abides_perform (abides : ∀ own, Feed.Abides (·.feed) (inner own)) (op : WatchOp) :
    Feed.Abides (·.feed) (perform inner op) := by
  cases op with
  | watch address since currency => exact fun w => ⟨[.watched ⟨address, since, currency⟩], rfl⟩
  | listen => exact fun w => ⟨[.listened w.callbacks.length], rfl⟩
  | subscribe output => exact fun w => ⟨[.subscribed output w.callbacks.length], rfl⟩
  | unsubscribe id => exact fun w => ⟨[.unsubscribed id.toNat], rfl⟩
  | receive =>
    exact .bind (.deliver (fun _ _ => abides_call abides _ _) _) fun _ => .of_same fun _ => rfl
  | report =>
    exact .bind (.announce (fun _ => abides_call abides _ _) _) fun _ => .of_same fun _ => rfl
  | isWatched | addresses | unreadable => exact .of_same fun _ => rfl

/-- So do the own steps of callbacks, however deep callbacks are called inside each other. -/
theorem abides_runOwn (depth : Nat) (own : List WatchOp) :
    Feed.Abides (·.feed) (runOwn depth own) := by
  induction depth generalizing own with
  | zero => exact .of_same fun _ => rfl
  | succ depth ih =>
    exact .forM (fun op => .bind (abides_perform ih op) fun _ => .of_same fun _ => rfl) own

/-- Whatever the steps of a scenario, its feed has always been through deeds only. -/
theorem feed_reached (depth : Nat) (ops : List WatchOp) :
    ∃ deeds, (ops.foldl (fun w op => Run.after (perform (runOwn depth) op) w) {}).feed =
      Feed.reached deeds := by
  induction ops using List.reverseRecOn with
  | nil => exact ⟨[], rfl⟩
  | append_singleton ops op ih =>
    obtain ⟨deeds, entry⟩ := ih
    rw [List.foldl_append]
    obtain ⟨more, after⟩ := (abides_perform (abides_runOwn depth) op).reached entry
    exact ⟨deeds ++ more, after⟩

end Scenario.WatchWorld

namespace Feed

variable {σ κ : Type}

/--
Let a feed have been through `deeds` when a delivery begins.  Outputs are delivered to
nobody when none of them pays an address that it was asked to watch; otherwise every
output goes once to each of the listeners that were added, in order.  A change of
confidence goes once to each live subscription on its transaction, in the order of
their numbers.  Whatever the callbacks do, these are the calls that are made, or those
up to the first that fails, and its failure is that of the delivery.  Callbacks that act
on the feed leave one that has been through more.
-/
theorem delivered_as_registered (feedOf : σ → Feed κ) {s : σ} {deeds : List (FeedDeed κ)}
    (entry : feedOf s = reached deeds) :
    (∀ (txid : String) (payments : List (String × Int)) (confidence : Confidence)
        (height : Option Int),
      let outputs := outputsOf txid payments confidence height
      let listeners := deeds.filterMap FeedDeed.receiver?
      let receive (call : κ × Output → Run σ Unit) : Run σ (List Output) :=
        deliver feedOf (fun callback output => call (callback, output)) outputs
      let receiveNoted (call : κ × Output → Run σ Unit) :
          Run (σ × List (κ × Output)) (List Output) :=
        deliver (feedOf ·.1) (fun callback output => Run.noted call (callback, output)) outputs
      (∀ i : Nat, outputs[i]? = payments[i]?.map fun (address, satoshi) =>
        ⟨⟨txid, i⟩, address, satoshi, confidence, height⟩) ∧
      (¬ Asked deeds payments → ∀ call,
        Run.outcome (receive call) s = .ok [] ∧ Run.after (receive call) s = s ∧
          Run.after (receiveNoted call) (s, []) = (s, [])) ∧
      (Asked deeds payments → ∃ due, IsRound listeners outputs due ∧
        ∀ call, Run.Carries call due outputs (receive call) (receiveNoted call) s) ∧
      ∀ call, (∀ told, Abides feedOf (call told)) →
        ∃ more, feedOf (Run.after (receive call) s) = reached (deeds ++ more)) ∧
    ∀ txid : String,
      (∃ due, due.Pairwise (·.id < ·.id) ∧
        (∀ sub, sub ∈ due ↔ Live deeds sub ∧ sub.output.txid = txid) ∧
        ∀ call, Run.Carries call due due.length (announce feedOf call txid)
          (announce (feedOf ·.1) (Run.noted call) txid) s) ∧
      ∀ call, (∀ told, Abides feedOf (call told)) →
        ∃ more, feedOf (Run.after (announce feedOf call txid) s) = reached (deeds ++ more) := by
  constructor
  · intro txid payments confidence height outputs listeners receive receiveNoted
    have concerned : (feedOf s).concerns outputs = true ↔ Asked deeds payments := by
      rw [entry]
      exact concerns_outputsOf deeds txid payments confidence height
    refine ⟨outputsOf_getElem? txid payments confidence height, ?_, ?_, ?_⟩
    · intro unasked call
      have unconcerned := mt concerned.mp unasked
      have nothing := deliver_unconcerned feedOf call unconcerned
      exact ⟨nothing.outcome, nothing.after,
        (deliver_unconcerned (s := (s, [])) (feedOf ·.1) (Run.noted call) unconcerned).after⟩
    · intro asked
      refine ⟨(feedOf s).deliveries outputs, ?_, fun call => carries_deliver feedOf call
        (concerned.mpr asked)⟩
      have added : listeners = (feedOf s).receivers := by rw [entry, receivers_reached]
      rw [added]
      exact isRound_deliveries (feedOf s) outputs
    · intro call abides
      exact Abides.reached (.deliver (fun callback output => abides (callback, output)) outputs)
        entry
  · intro txid
    refine ⟨⟨(feedOf s).concernedBy txid, ?_, ?_, fun call => carries_announce feedOf call txid⟩,
      fun call abides => Abides.reached (.announce abides txid) entry⟩
    · rw [entry]
      exact (concernedBy_reached deeds txid).1
    · rw [entry]
      exact (concernedBy_reached deeds txid).2

/-- What a feed went through that has two listeners and four subscriptions. -/
def entangledDeeds : List (FeedDeed Nat) :=
  [.watched ⟨"1ABCxJ5Lj1hrSy7WQ1CZYGv4iqYkB1DvQ3", 1500000000, "bitcoin"⟩, .listened 0,
    .subscribed ⟨"e3", 0⟩ 2, .listened 1, .subscribed ⟨"e4", 0⟩ 1, .subscribed ⟨"e3", 1⟩ 3,
    .subscribed ⟨"e3", 0⟩ 2, .subscribed ⟨"e3", 1⟩ 1, .unsubscribed 4]

/--
Its callbacks.  The first adds a listener and receives another transaction.  The third
gives up a subscription that is due after its own, makes one, and changes a confidence.
The fourth fails.
-/
def entangled : Scenario.WatchWorld where
  feed := reached entangledDeeds
  callbacks :=
    [⟨"first", [.listen "late" [] none,
        .receive "e5" [("1ABCxJ5Lj1hrSy7WQ1CZYGv4iqYkB1DvQ3", 1)] .pending none], none⟩,
      ⟨"second", [], none⟩,
      ⟨"third", [.unsubscribe 3, .subscribe ⟨"e3", 0⟩ "late" [] none,
        .report "e4" .dead none], none⟩,
      ⟨"fourth", [], some (.fault .value "refused")⟩]

def receiving (told : Nat × Output) : Run Scenario.WatchWorld Unit :=
  Scenario.WatchWorld.call (Scenario.WatchWorld.runOwn 4) (.received · told.2) told.1

def telling (sub : Subscription Nat) : Run Scenario.WatchWorld Unit :=
  Scenario.WatchWorld.call (Scenario.WatchWorld.runOwn 4)
    (.changed · sub.output .building (some 120)) sub.callback

/--
The listener that the first callback adds is not called.  The subscription that the third
gives up is told, and the failure of its callback ends the delivery.  A transaction that
pays no watched address is delivered to nobody.
-/
theorem delivered_as_registered_entangled :
    let outputs := outputsOf "e2"
      [("1BoatSLRHtKNngkdXEeobR76b53LETtpyT", 5000),
        ("1ABCxJ5Lj1hrSy7WQ1CZYGv4iqYkB1DvQ3", 7000)] .pending none
    let others := outputsOf "e2" [("1BoatSLRHtKNngkdXEeobR76b53LETtpyT", 5000)] .pending none
    let received := (Run.after (deliver (·.1.feed)
      (fun callback output => Run.noted receiving (callback, output)) outputs) (entangled, [])).2
    let told := (Run.after (announce (·.1.feed) (Run.noted telling) "e3") (entangled, [])).2
    IsRound [0, 1] outputs received ∧
      received.map (fun (listener, output) => (listener, output.outpoint.index)) =
        [(0, 0), (1, 0), (0, 1), (1, 1)] ∧
      Run.outcome (deliver (·.feed) (fun callback output => receiving (callback, output)) others)
        entangled = .ok [] ∧
      told.map (·.id) = [1, 3] ∧ (∀ sub ∈ told, Live entangledDeeds sub) ∧
      Run.outcome (announce (·.feed) telling "e3") entangled =
        .error (.fault .value "refused") ∧
      ∃ more, (Run.after (announce (·.feed) telling "e3") entangled).feed =
        reached (entangledDeeds ++ more) := by
  intro outputs others received told
  have entry : entangled.feed = reached entangledDeeds := rfl
  obtain ⟨receive, change⟩ := delivered_as_registered Scenario.WatchWorld.feed entry
  obtain ⟨-, -, delivered, -⟩ := receive "e2" [("1BoatSLRHtKNngkdXEeobR76b53LETtpyT", 5000),
    ("1ABCxJ5Lj1hrSy7WQ1CZYGv4iqYkB1DvQ3", 7000)] .pending none
  obtain ⟨due, round, carries⟩ := delivered ⟨_, .tail _ (.head _), _, .head _, rfl⟩
  obtain ⟨-, unwatched, -⟩ :=
    receive "e2" [("1BoatSLRHtKNngkdXEeobR76b53LETtpyT", 5000)] .pending none
  obtain ⟨⟨due', -, live, carries'⟩, abides⟩ := change "e3"
  refine ⟨?_, by decide +kernel, (unwatched ?_ receiving).1, by decide +kernel,
    fun sub inside => ?_, rfl, abides telling fun sub => ?_⟩
  · have returned : Run.outcome (deliver (·.feed)
        (fun callback output => receiving (callback, output)) outputs) entangled = .ok outputs :=
      rfl
    have all := (carries receiving).ended
    rw [returned] at all
    rw [show received = due from all.2.1]
    exact round
  · exact mt (concerns_outputsOf entangledDeeds "e2" _ .pending none).mpr (by decide +kernel)
  · exact ((live sub).mp ((carries' telling).ended.made_isPrefix.subset inside)).1
  · exact Scenario.WatchWorld.abides_call (Scenario.WatchWorld.abides_runOwn 4) _ _

end Feed

end Paywatch
