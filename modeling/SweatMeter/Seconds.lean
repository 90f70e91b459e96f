/-
  The durations that `TelemetrySampler` accepts (`_positive_seconds`).
-/
import SweatMeter.Py.Number

namespace SweatMeter

open Py Number

/-- A number of seconds that `_positive_seconds` accepts. -/
structure Seconds where
  value : ℚ
  pos : 0 < value

/-- `_positive_seconds`. -/
def positiveSeconds : Obj → Except Exn Seconds
  | .num x => do
    if ← x.isfinite then
      match x.toRat with
      | some q => if h : 0 < q then return ⟨q, h⟩ else throw ⟨"ValidationError"⟩
      | none => throw ⟨"ValidationError"⟩
    else throw ⟨"ValidationError"⟩
  | _ => .error ⟨"ValidationError"⟩

/-- It accepts exactly the finite positive numbers, with their values. -/
theorem positiveSeconds_eq_ok {value : Obj} {d : Seconds} :
    positiveSeconds value = .ok d ↔
      ∃ x, value = .num x ∧ x.isfinite = .ok true ∧ x.toRat = some d.value := by
  constructor
  · intro h
    cases value with
    | num x =>
      refine ⟨x, rfl, ?_⟩
      cases hx : x.isfinite with
      | error e => simp [positiveSeconds, hx] at h
      | ok finite =>
        simp only [positiveSeconds, hx, ok_bind] at h
        split_ifs at h with hfinite
        · rcases toRat_of_isfinite (hfinite ▸ hx) with ⟨q, hq⟩
          simp only [hq] at h
          split_ifs at h
          cases h
          exact ⟨by rw [hfinite], hq⟩
    | _ => cases h
  · rintro ⟨x, rfl, hx, hq⟩
    simp only [positiveSeconds, hx, ok_bind, if_true, hq, d.pos, dif_pos]
    rfl

end SweatMeter
