/-
  Fallible computations on a state.

  A computation that raises still leaves a state, and the computations after it
  do not run.  `bind_eq_ok` takes a completed sequence apart; `Preserves` is for what
  a sequence leaves as it was, completed or not, and `Moves` for what one of its steps
  moves; `Lockstep` is for two sequences from related states.  `onFst` and `onSnd` run a computation on one of two states side by side.
-/
import SweatMeter.Py.Except

namespace Py

namespace Stateful

variable {ε σ α β : Type}

theorem bind_eq_ok {x : EStateM ε σ α} {f : α → EStateM ε σ β} {b : β} {s s' : σ} :
    (x >>= f) s = .ok b s' ↔ ∃ a u, x s = .ok a u ∧ f a u = .ok b s' := by
  show EStateM.bind x f s = _ ↔ _
  unfold EStateM.bind
  cases x s with
  | ok a u =>
    simp only [EStateM.Result.ok.injEq]
    constructor
    · intro h
      exact ⟨a, u, ⟨rfl, rfl⟩, h⟩
    · rintro ⟨_, _, ⟨rfl, rfl⟩, h⟩
      exact h
  | error e u => simp

theorem pure_eq_ok {a b : α} {s s' : σ} :
    (pure a : EStateM ε σ α) s = .ok b s' ↔ a = b ∧ s = s' := by
  show EStateM.Result.ok a s = _ ↔ _
  rw [EStateM.Result.ok.injEq]

/-- What a computation does, and the state it leaves. -/
def outcome (x : EStateM ε σ α) (s : σ) : Except ε α × σ :=
  match x s with
  | .ok a u => (.ok a, u)
  | .error e u => (.error e, u)

theorem outcome_of_ok {x : EStateM ε σ α} {s u : σ} {a : α} (h : x s = .ok a u) :
    outcome x s = (.ok a, u) := by
  rw [outcome, h]

theorem outcome_of_error {x : EStateM ε σ α} {s u : σ} {e : ε} (h : x s = .error e u) :
    outcome x s = (.error e, u) := by
  rw [outcome, h]

/-- Run a computation without letting its exception escape. -/
def safeCall (x : EStateM ε σ α) : EStateM ε σ (Except ε α) := fun s =>
  .ok (outcome x s).1 (outcome x s).2

/-- A computation that does not look at the state. -/
def lift (x : Except ε α) : EStateM ε σ α := fun s =>
  match x with
  | .ok a => .ok a s
  | .error e => .error e s

theorem lift_eq_ok {x : Except ε α} {a : α} {s s' : σ} :
    lift x s = .ok a s' ↔ x = .ok a ∧ s = s' := by
  cases x with
  | ok b => simp [lift]
  | error e => simp [lift]

theorem lift_bind_eq_ok {x : Except ε α} {f : α → EStateM ε σ β} {b : β} {s s' : σ} :
    (lift x >>= f) s = .ok b s' ↔ ∃ a, x = .ok a ∧ f a s = .ok b s' := by
  rw [bind_eq_ok]
  simp only [lift_eq_ok]
  constructor
  · rintro ⟨a, _, ⟨hx, rfl⟩, h⟩
    exact ⟨a, hx, h⟩
  · rintro ⟨a, hx, h⟩
    exact ⟨a, s, ⟨hx, rfl⟩, h⟩

@[simp] theorem outcome_lift (x : Except ε α) (s : σ) : outcome (lift x) s = (x, s) := by
  cases x <;> rfl

theorem outcome_safeCall_bind (x : EStateM ε σ α) (f : Except ε α → EStateM ε σ β) (s : σ) :
    outcome (safeCall x >>= f) s = outcome (f (outcome x s).1) (outcome x s).2 := rfl

theorem outcome_get_bind (f : σ → EStateM ε σ β) (s : σ) :
    outcome (get >>= f) s = outcome (f s) s := rfl

theorem get_bind (f : σ → EStateM ε σ β) (s : σ) : (get >>= f) s = f s s := rfl

/-! ## What a computation leaves as it was -/

/-- The computation leaves `f` as it was, also when it raises. -/
def Preserves {γ : Type} (f : σ → γ) (x : EStateM ε σ α) : Prop := ∀ s, f (outcome x s).2 = f s

variable {γ : Type} {f : σ → γ}

theorem Preserves.pure (a : α) : Preserves f (pure a : EStateM ε σ α) := fun _ => rfl

theorem Preserves.get : Preserves f (get : EStateM ε σ σ) := fun _ => rfl

theorem Preserves.lift (x : Except ε α) : Preserves f (lift x : EStateM ε σ α) := by
  intro s
  cases x <;> rfl

theorem Preserves.safeCall {x : EStateM ε σ α} (h : Preserves f x) : Preserves f (safeCall x) := h

theorem Preserves.bind {x : EStateM ε σ α} {g : α → EStateM ε σ β} (hx : Preserves f x)
    (hg : ∀ a, Preserves f (g a)) : Preserves f (x >>= g) := by
  intro s
  cases hxs : x s with
  | ok a u =>
    have hbind : (x >>= g) s = g a u := by
      show EStateM.bind x g s = _
      rw [EStateM.bind, hxs]
    have hu : f u = f s := by rw [← hx s, outcome_of_ok hxs]
    rw [outcome, hbind, ← hu]
    exact hg a u
  | error e u =>
    have hbind : (x >>= g) s = .error e u := by
      show EStateM.bind x g s = _
      rw [EStateM.bind, hxs]
    rw [outcome_of_error hbind, ← hx s, outcome_of_error hxs]

/-! ## By the outcome -/

/-- The computation with these outcomes. -/
def ofOutcome (f : σ → Except ε α × σ) : EStateM ε σ α := fun s =>
  match f s with
  | (.ok a, u) => .ok a u
  | (.error e, u) => .error e u

@[simp] theorem outcome_ofOutcome (f : σ → Except ε α × σ) (s : σ) :
    outcome (ofOutcome f) s = f s := by
  rw [outcome, ofOutcome]
  rcases f s with ⟨e | a, u⟩ <;> rfl

theorem outcome_bind_of_ok {x : EStateM ε σ α} {g : α → EStateM ε σ β} {s : σ} {a : α}
    (h : (outcome x s).1 = .ok a) : outcome (x >>= g) s = outcome (g a) (outcome x s).2 := by
  cases hx : x s with
  | ok b u =>
    rw [outcome_of_ok hx] at h
    cases h
    rw [outcome_of_ok hx, outcome, outcome]
    show (match EStateM.bind x g s with | .ok b v => _ | .error e v => _) = _
    rw [EStateM.bind, hx]
  | error e u =>
    rw [outcome_of_error hx] at h
    cases h

theorem outcome_bind_of_error {x : EStateM ε σ α} {g : α → EStateM ε σ β} {s : σ} {e : ε}
    (h : (outcome x s).1 = .error e) : outcome (x >>= g) s = (.error e, (outcome x s).2) := by
  cases hx : x s with
  | ok b u =>
    rw [outcome_of_ok hx] at h
    cases h
  | error e u =>
    rw [outcome_of_error hx] at h
    cases h
    refine (outcome_of_error ?_).trans (by rw [outcome_of_error hx])
    show EStateM.bind x g s = _
    rw [EStateM.bind, hx]

theorem outcome_lift_bind_of_ok {x : Except ε α} {g : α → EStateM ε σ β} {a : α} (h : x = .ok a)
    (s : σ) : outcome (lift x >>= g) s = outcome (g a) s := by
  rw [h]
  rfl

/-! ## How a part of the state moves -/

/-- A part of the state moves like this, also when the computation raises. -/
def Moves (f : σ → γ) (R : γ → γ → Prop) (x : EStateM ε σ α) : Prop :=
  ∀ s, R (f s) (f (outcome x s).2)

variable {R : γ → γ → Prop}

/-- After a computation that leaves the part as it was. -/
theorem Preserves.bind_moves {x : EStateM ε σ α} {g : α → EStateM ε σ β} (hx : Preserves f x)
    (hR : ∀ c, R c c) (hg : ∀ a, Moves f R (g a)) : Moves f R (x >>= g) := by
  intro s
  cases ho : (outcome x s).1 with
  | ok a =>
    rw [outcome_bind_of_ok ho, ← hx s]
    exact hg a _
  | error e =>
    rw [outcome_bind_of_error ho, hx s]
    exact hR _

/-- Before a computation that leaves it as it was. -/
theorem Moves.bind_preserves {x : EStateM ε σ α} {g : α → EStateM ε σ β} (hx : Moves f R x)
    (hg : ∀ a, Preserves f (g a)) : Moves f R (x >>= g) := by
  intro s
  cases ho : (outcome x s).1 with
  | ok a =>
    rw [outcome_bind_of_ok ho, hg a]
    exact hx s
  | error e =>
    rw [outcome_bind_of_error ho]
    exact hx s

/-! ## Two computations in step -/

section

variable {σ' β' : Type} {Q : σ → σ' → Prop}

/-- From related states, two computations leave related states, also when they raise. -/
def Lockstep (Q : σ → σ' → Prop) (x : EStateM ε σ α) (y : EStateM ε σ' β) : Prop :=
  ∀ s t, Q s t → Q (outcome x s).2 (outcome y t).2

/-- And they do the same. -/
def Alike (Q : σ → σ' → Prop) (x : EStateM ε σ α) (y : EStateM ε σ' α) : Prop :=
  ∀ s t, Q s t → (outcome x s).1 = (outcome y t).1 ∧ Q (outcome x s).2 (outcome y t).2

theorem Alike.lift (x : Except ε α) : Alike Q (lift x : EStateM ε σ α) (lift x) := by
  intro s t h
  rw [outcome_lift, outcome_lift]
  exact ⟨rfl, h⟩

/-- After computations that do the same. -/
theorem Alike.bind {x : EStateM ε σ α} {y : EStateM ε σ' α} {f : α → EStateM ε σ β}
    {g : α → EStateM ε σ' β'} (h : Alike Q x y) (hfg : ∀ a, Lockstep Q (f a) (g a)) :
    Lockstep Q (x >>= f) (y >>= g) := by
  intro s t hst
  obtain ⟨hsame, hnext⟩ := h s t hst
  cases hx : (outcome x s).1 with
  | ok a =>
    rw [outcome_bind_of_ok hx, outcome_bind_of_ok (hsame.symm.trans hx)]
    exact hfg a _ _ hnext
  | error e =>
    rw [outcome_bind_of_error hx, outcome_bind_of_error (hsame.symm.trans hx)]
    exact hnext

/-- Before computations that leave the state as it was. -/
theorem Lockstep.bind_preserves {α' : Type} {x : EStateM ε σ α} {y : EStateM ε σ' α'}
    {f : α → EStateM ε σ β} {g : α' → EStateM ε σ' β'} (h : Lockstep Q x y)
    (hf : ∀ a, Preserves id (f a)) (hg : ∀ a, Preserves id (g a)) :
    Lockstep Q (x >>= f) (y >>= g) := by
  intro s t hst
  have hx : (outcome (x >>= f) s).2 = (outcome x s).2 := by
    cases hx : (outcome x s).1 with
    | ok a => rw [outcome_bind_of_ok hx]; exact hf a _
    | error e => rw [outcome_bind_of_error hx]
  have hy : (outcome (y >>= g) t).2 = (outcome y t).2 := by
    cases hy : (outcome y t).1 with
    | ok a => rw [outcome_bind_of_ok hy]; exact hg a _
    | error e => rw [outcome_bind_of_error hy]
  rw [hx, hy]
  exact h s t hst

end

/-! ## Two states -/

variable {τ : Type}

/-- On the first of two states. -/
def onFst (x : EStateM ε σ α) : EStateM ε (σ × τ) α := ofOutcome fun s =>
  ((outcome x s.1).1, (outcome x s.1).2, s.2)

/-- On the second of two states. -/
def onSnd (x : EStateM ε τ α) : EStateM ε (σ × τ) α := ofOutcome fun s =>
  ((outcome x s.2).1, s.1, (outcome x s.2).2)

@[simp] theorem outcome_onFst (x : EStateM ε σ α) (s : σ × τ) :
    outcome (onFst x) s = ((outcome x s.1).1, (outcome x s.1).2, s.2) := outcome_ofOutcome _ _

@[simp] theorem outcome_onSnd (x : EStateM ε τ α) (s : σ × τ) :
    outcome (onSnd x) s = ((outcome x s.2).1, s.1, (outcome x s.2).2) := outcome_ofOutcome _ _

end Stateful

end Py
