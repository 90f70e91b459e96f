/-
  Computations that return or raise, and update diagnostics on the way.

  Nothing depends on the diagnostics, so a computation is its outcome and the
  update it makes to them, also when it raises.
-/
import SweatMeter.Py.Dict
import SweatMeter.Py.Except
import SweatMeter.Py.Number

namespace Py

structure Logged (ε σ α : Type) where
  outcome : Except ε α
  log : σ → σ

namespace Logged

variable {ε σ α β : Type}

instance : Monad (Logged ε σ) where
  pure a := ⟨.ok a, id⟩
  bind x f := ⟨x.outcome >>= fun a => (f a).outcome,
    match x.outcome with
    | .ok a => (f a).log ∘ x.log
    | .error _ => x.log⟩

/-- Update the diagnostics. -/
def note (u : σ → σ) : Logged ε σ Unit := ⟨.ok (), u⟩

/-- A computation without diagnostics. -/
def lift (x : Except ε α) : Logged ε σ α := ⟨x, id⟩

@[simp] theorem outcome_pure (a : α) : (pure a : Logged ε σ α).outcome = .ok a := rfl

@[simp] theorem outcome_bind (x : Logged ε σ α) (f : α → Logged ε σ β) :
    (x >>= f).outcome = x.outcome >>= fun a => (f a).outcome := rfl

@[simp] theorem outcome_note (u : σ → σ) : (note u : Logged ε σ Unit).outcome = .ok () := rfl

@[simp] theorem outcome_lift (x : Except ε α) : (lift x : Logged ε σ α).outcome = x := rfl

theorem pure_bind (a : α) (f : α → Logged ε σ β) : (pure a >>= f) = f a := rfl

theorem bind_ok {x : Logged ε σ α} {f : α → Logged ε σ β} {b : β} :
    (x >>= f).outcome = .ok b ↔ ∃ a, x.outcome = .ok a ∧ (f a).outcome = .ok b := by
  rw [outcome_bind, bind_eq_ok]

/-- A first step that returns `a`. -/
theorem bind_of_ok {x : Logged ε σ α} {a : α} (h : x.outcome = .ok a) {f : α → Logged ε σ β}
    {b : β} : (x >>= f).outcome = .ok b ↔ (f a).outcome = .ok b := by
  rw [outcome_bind, h, ok_bind]

theorem log_bind_of_ok {x : Logged ε σ α} {a : α} (h : x.outcome = .ok a) {f : α → Logged ε σ β} :
    (x >>= f).log = (f a).log ∘ x.log := by
  change (match x.outcome with
    | .ok a => (f a).log ∘ x.log
    | .error _ => x.log) = _
  rw [h]

theorem log_bind_of_error {x : Logged ε σ α} {e : ε} (h : x.outcome = .error e)
    {f : α → Logged ε σ β} : (x >>= f).log = x.log := by
  change (match x.outcome with
    | .ok a => (f a).log ∘ x.log
    | .error _ => x.log) = _
  rw [h]

end Logged

/-! ## Diagnostics -/

/-- A computation that keeps a dictionary of reasons. -/
abbrev Diagnosed (T : Type) := Logged Exn (Dict String) T

/-- `self._reasons[key] = reason`. -/
def setReason (key reason : String) : Diagnosed Unit := .note fun r => r.set key reason

/-- `self._reasons.setdefault(key, reason)` if `c`. -/
def setDefaultReasonIf (c : Prop) [Decidable c] (key reason : String) : Diagnosed Unit :=
  .note fun r => if c then r.setdefault key reason else r

def setDefaultReason (key reason : String) : Diagnosed Unit := setDefaultReasonIf True key reason

/-! ## The keys a computation notes -/

variable {α β : Type} {P Q : String → Prop}

/-- The computation leaves the reasons of all other keys as they are. -/
def NotesOnly (P : String → Prop) (x : Diagnosed α) : Prop :=
  ∀ k, ¬ P k → ∀ r, (x.log r)[k]? = r[k]?

namespace NotesOnly

theorem mono {x : Diagnosed α} (hx : NotesOnly P x) (h : ∀ k, P k → Q k) : NotesOnly Q x := by
  intro k hk
  exact hx k fun hP => hk (h k hP)

theorem pure (a : α) : NotesOnly P (pure a : Diagnosed α) := fun _ _ _ => rfl

theorem lift (x : Except Exn α) : NotesOnly P (.lift x : Diagnosed α) := fun _ _ _ => rfl

theorem bind {x : Diagnosed α} {f : α → Diagnosed β} (hx : NotesOnly P x)
    (hf : ∀ a, x.outcome = .ok a → NotesOnly P (f a)) : NotesOnly P (x >>= f) := by
  intro k hk r
  cases ho : x.outcome with
  | error e => rw [Logged.log_bind_of_error ho, hx k hk]
  | ok a => rw [Logged.log_bind_of_ok ho, Function.comp_apply, hf a ho k hk, hx k hk]

theorem setReason {key : String} (reason : String) (h : P key) :
    NotesOnly P (setReason key reason) := by
  intro k hk r
  refine Dict.getElem?_set_of_ne r reason ?_
  rintro rfl
  exact hk h

theorem setDefaultReasonIf (c : Prop) [Decidable c] {key : String} (reason : String) (h : P key) :
    NotesOnly P (setDefaultReasonIf c key reason) := by
  intro k hk r
  have hne : key ≠ k := by
    rintro rfl
    exact hk h
  change (if c then r.setdefault key reason else r)[k]? = r[k]?
  split
  · exact Dict.getElem?_setdefault_of_ne r reason hne
  · rfl

end NotesOnly

/-! ## The entries a computation notes -/

variable {E E' : String → String → Prop}

/-- Every entry that the computation leaves was there, or is of this kind. -/
def Notes (E : String → String → Prop) (x : Diagnosed α) : Prop :=
  ∀ k v r, (x.log r)[k]? = some v → r[k]? = some v ∨ E k v

namespace Notes

theorem mono {x : Diagnosed α} (hx : Notes E x) (h : ∀ k v, E k v → E' k v) : Notes E' x :=
  fun k v r hv => (hx k v r hv).imp_right (h k v)

theorem pure (a : α) : Notes E (pure a : Diagnosed α) := fun _ _ _ => .inl

theorem lift (x : Except Exn α) : Notes E (.lift x : Diagnosed α) := fun _ _ _ => .inl

theorem bind {x : Diagnosed α} {f : α → Diagnosed β} (hx : Notes E x)
    (hf : ∀ a, x.outcome = .ok a → Notes E (f a)) : Notes E (x >>= f) := by
  intro k v r hv
  cases ho : x.outcome with
  | error e =>
    rw [Logged.log_bind_of_error ho] at hv
    exact hx k v r hv
  | ok a =>
    rw [Logged.log_bind_of_ok ho] at hv
    rcases hf a ho k v _ hv with h | h
    · exact hx k v r h
    · exact .inr h

theorem setReason {key reason : String} (h : E key reason) : Notes E (setReason key reason) := by
  intro k v r hv
  change (r.set key reason)[k]? = some v at hv
  rw [Dict.getElem?_set] at hv
  split_ifs at hv with hk
  · cases hv
    exact .inr (hk ▸ h)
  · exact .inl hv

theorem setDefaultReasonIf (c : Prop) [Decidable c] {key reason : String} (h : E key reason) :
    Notes E (setDefaultReasonIf c key reason) := by
  intro k v r hv
  change (if c then r.setdefault key reason else r)[k]? = some v at hv
  split_ifs at hv
  · rw [Dict.getElem?_setdefault] at hv
    split_ifs at hv with hk
    · cases hr : r[k]? with
      | some w =>
        rw [hr] at hv
        exact .inl hv
      | none =>
        rw [hr] at hv
        cases hv
        exact .inr (hk ▸ h)
    · exact .inl hv
  · exact .inl hv

end Notes

/-! ## The keys a computation adds -/

variable {K L : String → Prop}

/-- Whatever reasons there are, the computation adds reasons under exactly these keys. -/
def Adds (K : String → Prop) (x : Diagnosed α) : Prop := ∀ k r, k ∈ x.log r ↔ k ∈ r ∨ K k

namespace Adds

theorem congr {x : Diagnosed α} (hx : Adds K x) (h : ∀ k, K k ↔ L k) : Adds L x := by
  intro k r
  rw [hx, h]

theorem note {u : Dict String → Dict String} (h : ∀ k r, k ∈ u r ↔ k ∈ r ∨ K k) :
    Adds K (.note u : Diagnosed Unit) := h

theorem pure (a : α) : Adds (fun _ => False) (pure a : Diagnosed α) := by
  intro k r
  show k ∈ r ↔ k ∈ r ∨ False
  rw [or_false]

theorem lift (x : Except Exn α) : Adds (fun _ => False) (.lift x : Diagnosed α) := by
  intro k r
  show k ∈ r ↔ k ∈ r ∨ False
  rw [or_false]

/-- A first step that returns `a`, and the rest. -/
theorem bind {x : Diagnosed α} {a : α} {f : α → Diagnosed β} (ho : x.outcome = .ok a)
    (hx : Adds K x) (hf : Adds L (f a)) : Adds (fun k => K k ∨ L k) (x >>= f) := by
  intro k r
  rw [Logged.log_bind_of_ok ho, Function.comp_apply, hf, hx, or_assoc]

theorem setReason (key reason : String) : Adds (· = key) (setReason key reason) := by
  intro k r
  refine (Dict.mem_set r key reason).trans ?_
  rw [or_comm, eq_comm]

theorem setDefaultReasonIf (c : Prop) [Decidable c] (key reason : String) :
    Adds (fun k => k = key ∧ c) (setDefaultReasonIf c key reason) := by
  intro k r
  change k ∈ (if c then r.setdefault key reason else r) ↔ _
  split_ifs with hc
  · rw [Dict.mem_setdefault, or_comm, eq_comm]
    simp [hc]
  · simp [hc]

end Adds

end Py
