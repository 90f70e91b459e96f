/-
  The clocks of the sampler (`TelemetrySampler._monotonic_now`).

  A read calls the injected clock and falls back to `time.monotonic()`, whose
  origin is its own, where the call fails.  Neither clock goes backwards;
  `ClockState` holds what each of them has last shown.
-/
import SweatMeter.Py.Number

namespace SweatMeter

open Py

/-- What the two clocks show at one read: the outcome of calling the injected one, and
    what `time.monotonic()` returns if it is called. -/
structure ClockRead where
  injected : Except Exn Obj
  standard : ℚ

namespace ClockRead

variable (r : ClockRead)

/-- The number that the injected clock returns, if it does not fail. -/
def element : Option ℚ :=
  match r.injected with
  | .ok (.num x) => x.toRat
  | _ => none

/-- `_monotonic_now`; a number too large for a double raises in `math.isfinite`. -/
def monotonicNow : Except Exn ℚ :=
  match r.injected with
  | .ok (.num x) => do
    if ← x.isfinite then return x.toRat.getD r.standard else return r.standard
  | _ => .ok r.standard

variable {r}

/-- A read that returns shows the injected clock's number, or else the standard time. -/
theorem monotonicNow_eq {now : ℚ} (h : r.monotonicNow = .ok now) :
    now = r.element.getD r.standard := by
  unfold monotonicNow at h
  unfold element
  cases hr : r.injected with
  | error e =>
    rw [hr] at h
    cases h
    rfl
  | ok o =>
    rw [hr] at h
    cases o with
    | num x =>
      cases hx : x.isfinite with
      | error e => simp [hx] at h
      | ok finite =>
        simp only [hx, ok_bind] at h
        cases finite with
        | true =>
          cases h
          rfl
        | false =>
          cases h
          cases x with
          | int n =>
            simp only [Number.isfinite] at hx
            split at hx <;> cases hx
          | float d =>
            cases d with
            | finite q => cases hx
            | nan => rfl
            | inf neg => rfl
    | _ =>
      cases h
      rfl

end ClockRead

/-- The latest values of the clocks. -/
structure ClockState where
  injected : Option ℚ := none
  standard : Option ℚ := none
  deriving DecidableEq

/-- A later read, if neither clock has gone backwards. -/
def ClockState.read (k : ClockState) (r : ClockRead) : Option ClockState :=
  if (∀ u ∈ k.injected, ∀ v ∈ r.element, u ≤ v) ∧ ∀ u ∈ k.standard, u ≤ r.standard then
    some ⟨r.element.or k.injected, some r.standard⟩
  else none

/-- The read is not later than the clocks show. -/
structure ClockRead.Past (r : ClockRead) (k : ClockState) : Prop where
  injected : ∀ v ∈ r.element, ∃ u ∈ k.injected, v ≤ u
  standard : ∃ u ∈ k.standard, r.standard ≤ u

/-- One read is not later than another. -/
structure ClockRead.Before (r r' : ClockRead) : Prop where
  injected : ∀ v ∈ r.element, ∀ w ∈ r'.element, v ≤ w
  standard : r.standard ≤ r'.standard

section
variable {k k' : ClockState} {r r' : ClockRead}

theorem ClockState.read_past (h : k.read r = some k') : r.Past k' := by
  unfold ClockState.read at h
  split_ifs at h
  cases h
  refine ⟨?_, r.standard, rfl, le_rfl⟩
  intro v hv
  exact ⟨v, by rw [Option.mem_def.1 hv]; rfl, le_rfl⟩

theorem ClockState.read_before (h : k.read r' = some k') (hr : r.Past k) : r.Before r' := by
  unfold ClockState.read at h
  split_ifs at h with hmono
  constructor
  · intro v hv w hw
    rcases hr.injected v hv with ⟨u, hu, hle⟩
    exact hle.trans (hmono.1 u hu w hw)
  · rcases hr.standard with ⟨u, hu, hle⟩
    exact hle.trans (hmono.2 u hu)

theorem ClockRead.Past.later (hr : r.Past k) (h : k.read r' = some k') : r.Past k' := by
  have hbefore := ClockState.read_before h hr
  unfold ClockState.read at h
  split_ifs at h with hmono
  cases h
  refine ⟨?_, r'.standard, rfl, hbefore.standard⟩
  intro v hv
  cases hw : r'.element with
  | some w => exact ⟨w, rfl, hbefore.injected v hv w hw⟩
  | none => exact hr.injected v hv

/-- While both reads are of one clock, its time has not gone back. -/
theorem ClockRead.Before.le (h : r.Before r') (hsame : r.element.isSome = r'.element.isSome) :
    r.element.getD r.standard ≤ r'.element.getD r'.standard := by
  cases hr : r.element with
  | none =>
    cases hr' : r'.element with
    | none => exact h.standard
    | some w => simp [hr, hr'] at hsame
  | some v =>
    cases hr' : r'.element with
    | none => simp [hr, hr'] at hsame
    | some w => exact h.injected v hr w hr'

end

end SweatMeter
