import Paywatch.Run

/-!
# What a step does

A step takes a state to an outcome and to the state after it.  Both are computed
along the step, and a relation between states that is reflexive and transitive
holds across a step when it holds across its parts.  Two steps may be compared, on
the same state, on a state and its image, or on states that differ in one part.
-/

namespace Paywatch

namespace Run

variable {σ τ α β : Type}

/-- What a step gives, or why it fails. -/
def outcome (step : Run σ α) (s : σ) : Except Failure α :=
  (step s).1

/-- The state that a step leaves. -/
def after (step : Run σ α) (s : σ) : σ :=
  (step s).2

/-! ## The single steps -/

@[simp]
theorem outcome_pure (a : α) (s : σ) : outcome (pure a) s = .ok a := rfl

@[simp]
theorem after_pure (a : α) (s : σ) : after (pure a : Run σ α) s = s := rfl

@[simp]
theorem outcome_throw (f : Failure) (s : σ) : outcome (throw f : Run σ α) s = .error f := rfl

@[simp]
theorem after_throw (f : Failure) (s : σ) : after (throw f : Run σ α) s = s := rfl

@[simp]
theorem outcome_get (s : σ) : outcome (get : Run σ σ) s = .ok s := rfl

@[simp]
theorem after_get (s : σ) : after (get : Run σ σ) s = s := rfl

@[simp]
theorem outcome_modify (f : σ → σ) (s : σ) : outcome (modify f : Run σ Unit) s = .ok () := rfl

@[simp]
theorem after_modify (f : σ → σ) (s : σ) : after (modify f : Run σ Unit) s = f s := rfl

@[simp]
theorem outcome_ofExcept (r : Except Failure α) (s : σ) : outcome (ofExcept r) s = r := by
  cases r <;> rfl

@[simp]
theorem after_ofExcept (r : Except Failure α) (s : σ) : after (ofExcept r) s = s := by
  cases r <;> rfl

@[simp]
theorem outcome_attempt (step : Run σ α) (s : σ) :
    outcome (attempt step) s = .ok (outcome step s) := rfl

@[simp]
theorem after_attempt (step : Run σ α) (s : σ) : after (attempt step) s = after step s := rfl

@[simp]
theorem outcome_within (part : σ → τ) (replace : τ → σ → σ) (step : Run τ α) (s : σ) :
    outcome (within part replace step) s = outcome step (part s) := rfl

@[simp]
theorem after_within (part : σ → τ) (replace : τ → σ → σ) (step : Run τ α) (s : σ) :
    after (within part replace step) s = replace (after step (part s)) s := rfl

/-! ## One step after another -/

@[simp]
theorem outcome_bind (x : Run σ α) (f : α → Run σ β) (s : σ) :
    outcome (x >>= f) s =
      match outcome x s with
      | .ok a => outcome (f a) (after x s)
      | .error e => .error e := by
  change (ExceptT.bindCont f (outcome x s) (after x s)).1 = _
  cases outcome x s <;> rfl

@[simp]
theorem after_bind (x : Run σ α) (f : α → Run σ β) (s : σ) :
    after (x >>= f) s =
      match outcome x s with
      | .ok a => after (f a) (after x s)
      | .error _ => after x s := by
  change (ExceptT.bindCont f (outcome x s) (after x s)).2 = _
  cases outcome x s <;> rfl

@[simp]
theorem outcome_map (g : α → β) (x : Run σ α) (s : σ) :
    outcome (g <$> x) s =
      match outcome x s with
      | .ok a => .ok (g a)
      | .error e => .error e := by
  rw [← bind_pure_comp, outcome_bind]
  cases outcome x s <;> rfl

@[simp]
theorem after_map (g : α → β) (x : Run σ α) (s : σ) : after (g <$> x) s = after x s := by
  rw [← bind_pure_comp, after_bind]
  cases outcome x s <;> rfl

theorem discard_eq (x : Run σ α) : discard x = x >>= fun _ => pure () :=
  (bind_pure_comp (fun _ => ()) x).symm

@[simp]
theorem after_discard (x : Run σ α) (s : σ) : after (discard x) s = after x s :=
  after_map _ x s

theorem forM_congr {f g : α → Run σ PUnit} {as : List α} (same : ∀ a ∈ as, f a = g a) :
    as.forM f = as.forM g := by
  induction as with
  | nil => rfl
  | cons a as ih =>
    have rest := ih fun b inside => same b (.tail a inside)
    change (f a >>= fun _ => as.forM f) = (g a >>= fun _ => as.forM g)
    rw [same a (.head as), rest]

/-- A part of the state that each step leaves as it is stays as it is. -/
theorem part_after_forM {β : Type} {part : σ → β} {f : α → Run σ PUnit} {as : List α}
    (keeps : ∀ a ∈ as, ∀ s, part (after (f a) s) = part s) (s : σ) :
    part (after (as.forM f) s) = part s := by
  induction as generalizing s with
  | nil => rfl
  | cons a as ih =>
    change part (after (f a >>= fun _ => as.forM f) s) = part s
    rw [after_bind]
    cases outcome (f a) s with
    | error failure => exact keeps a (.head as) s
    | ok _ => exact (ih (fun b inside => keeps b (.tail a inside)) _).trans (keeps a (.head as) s)

/-! ## Steps that do not fail -/

/-- A step gives a result. -/
def Succeeds (step : Run σ α) (s : σ) : Prop :=
  ∃ a, outcome step s = .ok a

namespace Succeeds

variable {x : Run σ α} {y : Run σ β} {s : σ}

/-- What follows on a step that gives a result goes on from the state after it. -/
theorem after_seq (succeeds : Succeeds x s) :
    outcome (x >>= fun _ => y) s = outcome y (after x s) ∧
      after (x >>= fun _ => y) s = after y (after x s) := by
  obtain ⟨a, ok⟩ := succeeds
  rw [outcome_bind, after_bind, ok]
  exact ⟨rfl, rfl⟩

theorem seq (first : Succeeds x s) (rest : Succeeds y (after x s)) :
    Succeeds (x >>= fun _ => y) s := by
  obtain ⟨b, ok⟩ := rest
  exact ⟨b, first.after_seq.1.trans ok⟩

theorem of_seq (succeeds : Succeeds (x >>= fun _ => y) s) :
    Succeeds x s ∧ Succeeds y (after x s) := by
  obtain ⟨b, ok⟩ := succeeds
  rw [outcome_bind] at ok
  cases first : outcome x s with
  | error failure =>
    rw [first] at ok
    cases ok
  | ok a =>
    rw [first] at ok
    exact ⟨⟨a, first⟩, ⟨b, ok⟩⟩

theorem discard (succeeds : Succeeds x s) : Succeeds (Functor.discard x) s := by
  rw [discard_eq]
  exact succeeds.seq ⟨(), rfl⟩

theorem of_discard (succeeds : Succeeds (Functor.discard x) s) : Succeeds x s := by
  rw [discard_eq] at succeeds
  exact succeeds.of_seq.1

end Succeeds

/-! ## Steps that do the same -/

/-- A step does from one state what another step does from another state. -/
structure Alike (x : Run σ α) (s : σ) (y : Run σ α) (t : σ) : Prop where
  outcome : Run.outcome x s = Run.outcome y t
  after : Run.after x s = Run.after y t

theorem Alike.symm {x y : Run σ α} {s t : σ} (alike : Alike x s y t) : Alike y t x s :=
  ⟨alike.outcome.symm, alike.after.symm⟩

theorem Alike.trans {x y z : Run σ α} {s t u : σ} (first : Alike x s y t) (second : Alike y t z u) :
    Alike x s z u :=
  ⟨first.outcome.trans second.outcome, first.after.trans second.after⟩

theorem Alike.of_eq {x y y' : Run σ α} {s t : σ} (alike : Alike x s y t) (same : y = y') :
    Alike x s y' t :=
  same ▸ alike

theorem Alike.discard {x y : Run σ α} {s t : σ} (alike : Alike x s y t) :
    Alike (Functor.discard x) s (Functor.discard y) t := by
  rw [discard_eq, discard_eq]
  constructor
  · rw [outcome_bind, outcome_bind, alike.outcome]
    cases Run.outcome y t <;> rfl
  · rw [after_bind, after_bind, alike.outcome, alike.after]

theorem Alike.succeeds {x y : Run σ α} {s t : σ} (alike : Alike x s y t) (succeeds : Succeeds y t) :
    Succeeds x s := by
  obtain ⟨a, ok⟩ := succeeds
  exact ⟨a, alike.outcome.trans ok⟩

/-! ## Steps on an image of the state -/

/-- A step does with the image of a state what another step does with the state. -/
structure Mirrors (f : σ → τ) (x : Run σ α) (y : Run τ α) (s : σ) : Prop where
  outcome : Run.outcome y (f s) = Run.outcome x s
  after : Run.after y (f s) = f (Run.after x s)

namespace Mirrors

variable {f : σ → τ} {x : Run σ α} {y : Run τ α} {s : σ}

theorem of_pure (a : α) : Mirrors f (pure a) (pure a) s :=
  ⟨rfl, rfl⟩

theorem of_throw (failure : Failure) :
    Mirrors f (throw failure : Run σ α) (throw failure) s :=
  ⟨rfl, rfl⟩

theorem of_except (result : Except Failure α) : Mirrors f (ofExcept result) (ofExcept result) s := by
  cases result with
  | ok a => exact of_pure a
  | error failure => exact of_throw failure

theorem of_modify {g : σ → σ} {h : τ → τ} (same : h (f s) = f (g s)) :
    Mirrors f (modify g : Run σ Unit) (modify h) s :=
  ⟨rfl, same⟩

theorem bind {k : α → Run σ β} {l : α → Run τ β} (first : Mirrors f x y s)
    (rest : ∀ a, Mirrors f (k a) (l a) (Run.after x s)) : Mirrors f (x >>= k) (y >>= l) s := by
  constructor
  · rw [outcome_bind, outcome_bind, first.outcome, first.after]
    cases Run.outcome x s with
    | ok a => exact (rest a).outcome
    | error failure => rfl
  · rw [after_bind, after_bind, first.outcome, first.after]
    cases Run.outcome x s with
    | ok a => exact (rest a).after
    | error failure => rfl

/-- What is read of the state may differ, as long as what follows does not. -/
theorem of_get {k : σ → Run σ β} {l : τ → Run τ β} (rest : Mirrors f (k s) (l (f s)) s) :
    Mirrors f (get >>= k) (get >>= l) s := by
  constructor
  · rw [outcome_bind, outcome_bind]
    exact rest.outcome
  · rw [after_bind, after_bind]
    exact rest.after

/-- Both steps decide the same way. -/
theorem of_ite {p q : Prop} [Decidable p] [Decidable q] {x' : Run σ α} {y' : Run τ α}
    (same : p ↔ q) (then_ : Mirrors f x y s) (else_ : Mirrors f x' y' s) :
    Mirrors f (if p then x else x') (if q then y else y') s := by
  by_cases holds : p
  · rw [if_pos holds, if_pos (same.mp holds)]
    exact then_
  · rw [if_neg holds, if_neg fun other => holds (same.mpr other)]
    exact else_

theorem discard (mirrors : Mirrors f x y s) :
    Mirrors f (Functor.discard x) (Functor.discard y) s := by
  rw [discard_eq, discard_eq]
  exact mirrors.bind fun _ => of_pure ()

theorem attempt (mirrors : Mirrors f x y s) : Mirrors f (Run.attempt x) (Run.attempt y) s :=
  ⟨congrArg Except.ok mirrors.outcome, mirrors.after⟩

theorem forM {g : α → Run σ PUnit} {h : α → Run τ PUnit} (each : ∀ a s, Mirrors f (g a) (h a) s)
    (as : List α) (s : σ) : Mirrors f (as.forM g) (as.forM h) s := by
  induction as generalizing s with
  | nil => exact of_pure PUnit.unit
  | cons a as ih => exact (each a s).bind fun _ => ih _

end Mirrors

/-! ## Steps that leave a part of the state -/

section

variable {γ : Type} {part : σ → γ}

/-- A step leaves a part of the state as it is. -/
def Keeps (part : σ → γ) (x : Run σ α) : Prop :=
  ∀ s, part (after x s) = part s

namespace Keeps

theorem of_pure (a : α) : Keeps part (pure a) :=
  fun _ => rfl

theorem of_throw (failure : Failure) : Keeps part (throw failure : Run σ α) :=
  fun _ => rfl

theorem of_except (result : Except Failure α) : Keeps part (ofExcept result) :=
  fun s => congrArg part (after_ofExcept result s)

theorem bind {x : Run σ α} {k : α → Run σ β} (first : Keeps part x)
    (rest : ∀ a, Keeps part (k a)) : Keeps part (x >>= k) := by
  intro s
  rw [after_bind]
  cases outcome x s with
  | error failure => exact first s
  | ok a => exact (rest a _).trans (first s)

theorem of_get {k : σ → Run σ β} (rest : ∀ s, Keeps part (k s)) : Keeps part (get >>= k) :=
  bind (fun _ => rfl) rest

theorem of_ite {p : Prop} [Decidable p] {x y : Run σ α} (then_ : Keeps part x)
    (else_ : Keeps part y) : Keeps part (if p then x else y) := by
  split
  · exact then_
  · exact else_

theorem discard {x : Run σ α} (keeps : Keeps part x) : Keeps part (Functor.discard x) :=
  fun s => (congrArg part (after_discard x s)).trans (keeps s)

theorem forM {f : α → Run σ PUnit} {as : List α} (each : ∀ a, Keeps part (f a)) :
    Keeps part (as.forM f) :=
  part_after_forM fun a _ => each a

end Keeps

end

end Run

end Paywatch
