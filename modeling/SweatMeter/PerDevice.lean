/-
  What a device's results depend on.

  The aggregates of one device read its rows through `_gpu_samples` and
  `_energy_terms`, after a sort of the whole series by timestamp.  Two series
  that show the device the same timestamps and the same first rows
  (`SameDevice`) give it the same results.
-/
import SweatMeter.Energy

namespace SweatMeter

open Py

/-- Two snapshots that agree on the timestamp and on the first row of device `g`. -/
structure SameRow (g : ℕ) (x y : TelemetrySnapshot ℚ) : Prop where
  timestamp : x.timestamp = y.timestamp
  gpu : x.gpu g = y.gpu g

/-- Two series that agree position by position for device `g`. -/
abbrev SameDevice (g : ℕ) : List (TelemetrySnapshot ℚ) → List (TelemetrySnapshot ℚ) → Prop :=
  List.Forall₂ (SameRow g)

/-- Everything a window tells about device `g` is the same. -/
structure SameResultsFor (Z : Zones) (g : ℕ) (W V : TelemetryWindow ℚ) : Prop where
  peakVramBytes : W.peakVramBytes g = V.peakVramBytes g
  meanPowerWatts : W.meanPowerWatts g = V.meanPowerWatts g
  energyJoules : W.energyJoules Z g = V.energyJoules Z g
  maxTemperatureC : W.maxTemperatureC g = V.maxTemperatureC g
  suspectedThrottling : W.suspectedThrottling g = V.suspectedThrottling g
  supportedSampleCount : ∀ metric,
    W.supportedSampleCount Z metric g = V.supportedSampleCount Z metric g

variable {Z : Zones} (S : Sorter Z.lt) {g : ℕ} {xs ys : List (TelemetrySnapshot ℚ)}

theorem SameDevice.timestamps (h : SameDevice g xs ys) :
    xs.map (fun x => x.timestamp) = ys.map fun y => y.timestamp := by
  induction h with
  | nil => rfl
  | cons hxy _ ih => rw [List.map_cons, List.map_cons, hxy.timestamp, ih]

theorem SameDevice.getElem? (h : SameDevice g xs ys) (i : ℕ) :
    Option.Rel (SameRow g) xs[i]? ys[i]? := by
  induction h generalizing i with
  | nil => exact .none
  | cons hxy _ ih =>
    cases i with
    | zero => exact .some hxy
    | succ i => exact ih i

/-- Sorted by timestamp, the series still agree position by position. -/
theorem SameDevice.make (h : SameDevice g xs ys) :
    SameDevice g (TelemetryWindow.make S xs).samples (TelemetryWindow.make S ys).samples := by
  simp only [TelemetryWindow.make, Sorter.sorted, h.timestamps]
  refine List.rel_filterMap (R := Eq) ?_ (List.forall₂_same.2 fun i _ => rfl)
  rintro i j rfl
  exact h.getElem? i

variable {W V : TelemetryWindow ℚ}

theorem SameDevice.gpuSamples (h : SameDevice g W.samples V.samples) :
    W.gpuSamples g = V.gpuSamples g := by
  unfold TelemetryWindow.gpuSamples
  generalize W.samples = xs, V.samples = ys at h
  induction h with
  | nil => rfl
  | cons hxy _ ih => rw [List.filterMap_cons, List.filterMap_cons, hxy.gpu, ih]

/-- The term of an interval reads the two timestamps and the device's first row. -/
theorem energyTerm_eq_of_sameRow {x x' y y' : TelemetrySnapshot ℚ} (hx : SameRow g x y)
    (hx' : SameRow g x' y') :
    TelemetryWindow.energyTerm Z g (x, x') = TelemetryWindow.energyTerm Z g (y, y') := by
  simp only [TelemetryWindow.energyTerm, hx.timestamp, hx.gpu, hx'.timestamp]

theorem SameDevice.energyTerms (h : SameDevice g W.samples V.samples) :
    W.energyTerms Z g = V.energyTerms Z g := by
  unfold TelemetryWindow.energyTerms pairwise
  generalize W.samples = xs, V.samples = ys at h
  induction h with
  | nil => rfl
  | cons hxy h ih =>
    cases h with
    | nil => rfl
    | cons hxy' h =>
      simp only [List.tail_cons, List.zip_cons_cons, List.filterMap_cons] at ih ⊢
      rw [energyTerm_eq_of_sameRow hxy hxy', ih]

/-- **A device's results depend on its own rows.**  Series that agree position by
    position on the timestamp and on the first row of device `g`, and differ in
    anything else, give device `g` the same results. -/
theorem per_device (S : Sorter Z.lt) (h : SameDevice g xs ys) :
    SameResultsFor Z g (TelemetryWindow.make S xs) (TelemetryWindow.make S ys) := by
  have hrows := (h.make S).gpuSamples
  have hterms : (TelemetryWindow.make S xs).energyTerms Z g =
      (TelemetryWindow.make S ys).energyTerms Z g := (h.make S).energyTerms
  have hvalues : ∀ field, (TelemetryWindow.make S xs).measurements g field =
      (TelemetryWindow.make S ys).measurements g field := by
    intro field
    rw [TelemetryWindow.measurements, TelemetryWindow.measurements, hrows]
  have hverdict : (TelemetryWindow.make S xs).suspectedThrottling g =
      (TelemetryWindow.make S ys).suspectedThrottling g := by
    rw [TelemetryWindow.suspectedThrottling, TelemetryWindow.suspectedThrottling, hrows]
  constructor
  case peakVramBytes => simp only [TelemetryWindow.peakVramBytes, hvalues]
  case meanPowerWatts => simp only [TelemetryWindow.meanPowerWatts, hvalues]
  case energyJoules => simp only [TelemetryWindow.energyJoules, hterms]
  case maxTemperatureC => simp only [TelemetryWindow.maxTemperatureC, hvalues]
  case suspectedThrottling => exact hverdict
  case supportedSampleCount =>
    intro metric
    cases metric <;> simp only [TelemetryWindow.supportedSampleCount, hvalues, hterms, hverdict]

/-- A busy second device, and a later duplicate of the first. -/
def crowd (x : TelemetrySnapshot ℚ) : TelemetrySnapshot ℚ :=
  { x with
    host := fun _ => some 1
    gpus := { index := 1, measurement := fun _ => some 100 } :: x.gpus ++ [{ index := 0 }] }

/-- A second device and a duplicate row leave the energy of device 0. -/
theorem per_device_crowd :
    (TelemetryWindow.make (Sorter.insertion utcZones.lt)
      (meteredSamples.map crowd)).energyJoules utcZones 0 = some 200 := by
  have h : SameDevice 0 (meteredSamples.map crowd) meteredSamples := by
    rw [SameDevice, List.forall₂_map_left_iff, List.forall₂_same]
    intro x hx
    refine ⟨rfl, ?_⟩
    simp only [meteredSamples, List.mem_map] at hx
    obtain ⟨p, -, rfl⟩ := hx
    rfl
  exact (per_device (Sorter.insertion utcZones.lt) h).energyJoules.trans (by decide +kernel)

end SweatMeter
