/-
  Every snapshot is well formed, whatever the readers and clocks do.
-/
import Mathlib.Data.List.Sort
import Mathlib.Order.Interval.Set.Defs
import SweatMeter.Py.Firsts
import SweatMeter.Reading

namespace SweatMeter

open Py

/-- Unsupported, or a number in this range. -/
def Within (range : Set ℚ) (m : Measurement Number) : Prop :=
  ∀ x, m = some x → ∃ q, x.toRat = some q ∧ q ∈ range

/-- The GPU fields in percent. -/
def GpuField.percents : List GpuField := [utilizationPercent, memoryUtilizationPercent, fanPercent]

/-- The GPU fields in degrees Celsius. -/
def GpuField.temperatures : List GpuField := [temperatureC, memoryTemperatureC]

/-- What a consumer may rely on in every snapshot. -/
structure WellFormed (x : TelemetrySnapshot Number) : Prop where
  utc : x.timestamp.tzinfo = 0
  cpuPercent : Within (Set.Icc 0 100) (x.host .cpuPercent)
  cpuTemperatureC : Within (Set.Ici (-27315 / 100)) (x.host .cpuTemperatureC)
  host : ∀ f, f ≠ .cpuTemperatureC → Within (Set.Ici 0) (x.host f)
  gpuPercent : ∀ s ∈ x.gpus, ∀ f ∈ GpuField.percents, Within (Set.Icc 0 100) (s.measurement f)
  gpuTemperature : ∀ s ∈ x.gpus, ∀ f ∈ GpuField.temperatures,
    Within (Set.Ici (-27315 / 100)) (s.measurement f)
  gpu : ∀ s ∈ x.gpus, ∀ f ∉ GpuField.temperatures, Within (Set.Ici 0) (s.measurement f)
  indices : x.gpus.Pairwise fun a b => a.index < b.index
  nonneg : ∀ s ∈ x.gpus, 0 ≤ s.index
  throttleReasons : ∀ s ∈ x.gpus, ∀ reason ∈ s.throttleReasons, reason ≠ ""

theorem Within.mono {r r' : Set ℚ} {m : Measurement Number} (h : Within r m) (hr : r ⊆ r') :
    Within r' m := fun x hx => by
  obtain ⟨q, hq, hqr⟩ := h x hx
  exact ⟨q, hq, hr hqr⟩

/-! ## The timestamp -/

theorem astimezone_utc {l : ℤ → Except Exn ℤ} {v : RawDatetime} {t : Datetime}
    (h : astimezone l v = .ok t) : t.tzinfo = 0 := by
  unfold astimezone at h
  split at h
  · obtain ⟨us, -, rfl⟩ := map_eq_ok.1 h; rfl
  · obtain ⟨us, -, rfl⟩ := map_eq_ok.1 h; rfl
  · cases h
  · cases h
  · split_ifs at h
    · cases h; rfl

theorem fallbackTimestamp_utc (l : ℤ → Except Exn ℤ) (now : Except Exn (Option RawDatetime)) :
    (fallbackTimestamp l now).tzinfo = 0 := by
  unfold fallbackTimestamp
  split
  · split
    · exact astimezone_utc ‹_›
    · rfl
  · rfl

theorem timestampOf_utc (c : Clocks) (reasons : Dict String) :
    (timestampOf c reasons).1.tzinfo = 0 := by
  unfold timestampOf
  split
  rename_i raw reasons' _
  dsimp only
  split
  · rename_i t ht
    obtain ⟨value, -, hv⟩ := Option.bind_eq_some_iff.1 ht
    split_ifs at hv
    cases hc : astimezone c.localToUtc value with
    | error e => rw [hc] at hv; cases hv
    | ok t' => rw [hc] at hv; cases hv; exact astimezone_utc hc
  · exact fallbackTimestamp_utc _ _

/-! ## The measurements -/

theorem within_number {value : Except Exn Obj} {lo : ℚ} {hi : Option ℚ} {m : Measurement Number}
    (h : (do number (← value) lo hi) = .ok m) : Within {q | lo ≤ q ∧ ∀ b ∈ hi, q ≤ b} m := by
  rintro x rfl
  obtain ⟨v, -, hv⟩ := bind_eq_ok.1 h
  obtain ⟨-, q, hq, hqr⟩ := number_eq_some hv
  exact ⟨q, hq, hqr⟩

/-- The fields bounded above are the percentages. -/
theorem GpuField.maximum_eq (f : GpuField) :
    f.maximum = if f ∈ percents then some 100 else none := by
  have : endswith f.name "percent" ↔ f ∈ percents := by cases f <;> decide
  simp only [maximum, this]

/-- The fields that may be negative are the temperatures. -/
theorem GpuField.minimum_eq (f : GpuField) :
    f.minimum = if f ∈ temperatures then -27315 / 100 else 0 := by
  have : inText "temperature" f.name ↔ f ∈ temperatures := by cases f <;> decide
  simp only [minimum, this]

/-- What a normalized row guarantees. -/
theorem RowOf.within {i : ℤ} {row : GpuRow} {s : GpuSample Number} (h : RowOf i row s) (f : GpuField) :
    Within {q | f.minimum ≤ q ∧ ∀ b ∈ f.maximum, q ≤ b} (s.measurement f) :=
  within_number (h.measurement f)

theorem RowOf.percent {i : ℤ} {row : GpuRow} {s : GpuSample Number} (h : RowOf i row s) {f : GpuField}
    (hf : f ∈ GpuField.percents) : Within (Set.Icc 0 100) (s.measurement f) := by
  have hf' : f ∉ GpuField.temperatures := by revert f; decide
  refine (h.within f).mono fun q ⟨hlo, hhi⟩ => ?_
  rw [GpuField.minimum_eq, if_neg hf'] at hlo
  rw [GpuField.maximum_eq, if_pos hf] at hhi
  exact ⟨hlo, hhi 100 rfl⟩

theorem RowOf.temperature {i : ℤ} {row : GpuRow} {s : GpuSample Number} (h : RowOf i row s)
    {f : GpuField} (hf : f ∈ GpuField.temperatures) :
    Within (Set.Ici (-27315 / 100)) (s.measurement f) := by
  refine (h.within f).mono fun q ⟨hlo, _⟩ => ?_
  rwa [GpuField.minimum_eq, if_pos hf] at hlo

theorem RowOf.nonneg {i : ℤ} {row : GpuRow} {s : GpuSample Number} (h : RowOf i row s) {f : GpuField}
    (hf : f ∉ GpuField.temperatures) : Within (Set.Ici 0) (s.measurement f) := by
  refine (h.within f).mono fun q ⟨hlo, _⟩ => ?_
  rwa [GpuField.minimum_eq, if_neg hf] at hlo

theorem RowOf.nonempty_reason {i : ℤ} {row : GpuRow} {s : GpuSample Number} (h : RowOf i row s) :
    ∀ reason ∈ s.throttleReasons, reason ≠ "" := by
  obtain ⟨items, -, hitems⟩ := map_eq_ok.1 h.throttleReasons
  intro reason hr
  rw [← hitems] at hr
  obtain ⟨o, -, ho⟩ := List.mem_filterMap.1 hr
  cases o with
  | str text =>
    rw [nonEmptyText] at ho
    split_ifs at ho with ht
    cases ho; exact ht
  | _ => cases ho

/-! ## The rows -/

theorem validIndex_nonneg {o : Obj} {i : ℤ} (h : validIndex o = some i) : 0 ≤ i := by
  unfold validIndex at h
  split at h
  · split_ifs at h with hn
    cases h; omega
  · cases h

theorem owner_eq_some {i : ℤ} {vs : List (Option GpuRow)} {row : GpuRow}
    (h : owner i vs = some row) : some row ∈ vs ∧ rowIndex (some row) = some i := by
  obtain ⟨v, hv, hrow⟩ := List.exists_of_findSome?_eq_some h
  split_ifs at hrow with hi
  subst hrow
  exact ⟨hv, hi⟩

theorem rowIndex_nonneg {v : Option GpuRow} {i : ℤ} (h : rowIndex v = some i) : 0 ≤ i := by
  obtain ⟨row, -, h⟩ := Option.bind_eq_some_iff.1 h
  split at h
  · exact validIndex_nonneg h
  · cases h

/-! ## The snapshot -/

theorem Collected.wellFormed {b : Boundary} {x : TelemetrySnapshot Number} (h : Collected b x) :
    WellFormed x := by
  obtain ⟨n, hn, hgpus⟩ := h.gpus
  have hrow : ∀ s ∈ x.gpus, 0 ≤ s.index ∧ ∃ row, RowOf s.index row s := by
    intro s hs
    rw [hgpus, List.mem_insertionSort] at hs
    rcases (hn.mem s).1 hs with hs | ⟨-, row, ho, hrow⟩
    · cases hs
    · exact ⟨rowIndex_nonneg (owner_eq_some ho).2, row, hrow⟩
  refine ⟨by rw [h.timestamp]; exact timestampOf_utc _ _, ?_, ?_, fun f hf => ?_, ?_, ?_, ?_, ?_,
    fun s hs => (hrow s hs).1, ?_⟩
  · refine (within_number (h.host .cpuPercent)).mono fun q hq => ⟨hq.1, hq.2 100 rfl⟩
  · exact (within_number (h.host .cpuTemperatureC)).mono fun q hq => hq.1
  · refine (within_number (h.host f)).mono ?_
    intro q hq
    cases f <;> first | exact absurd rfl hf | exact hq.1
  · intro s hs f hf; obtain ⟨row, hr⟩ := (hrow s hs).2; exact hr.percent hf
  · intro s hs f hf; obtain ⟨row, hr⟩ := (hrow s hs).2; exact hr.temperature hf
  · intro s hs f hf; obtain ⟨row, hr⟩ := (hrow s hs).2; exact hr.nonneg hf
  · rw [hgpus]; exact pairwise_insertionSort_lt _ (hn.distinct .nil)
  · intro s hs; obtain ⟨row, hr⟩ := (hrow s hs).2; exact hr.nonempty_reason

theorem emergencySnapshot_wellFormed (c : Clocks) : WellFormed (emergencySnapshot c) := by
  have hnone (r : Set ℚ) : Within r none := fun x hx => by cases hx
  refine ⟨fallbackTimestamp_utc _ _, hnone _, hnone _, fun _ _ => hnone _, ?_, ?_, ?_, .nil, ?_, ?_⟩
  all_goals intro s hs; cases hs

/-- **Every snapshot is well formed.**  Whatever the clocks and the readers hand
    back or raise, `snapshot` returns validated values, and the collector keeps
    their diagnostics. -/
theorem snapshot_wellFormed (c : TelemetryCollector) (b : Boundary) :
    WellFormed (c.snapshot b).1 ∧
      (c.snapshot b).2.unavailableReasons = (c.snapshot b).1.unavailableReasons := by
  refine ⟨?_, rfl⟩
  unfold TelemetryCollector.snapshot
  cases h : collect b with
  | ok x => exact (collect_ok h).wellFormed
  | error e => exact emergencySnapshot_wellFormed b.clocks

end SweatMeter
