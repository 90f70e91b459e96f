/-
  Per-device aggregates over a series of snapshots (`TelemetryWindow`).

  A window holds snapshots with numbers of any kind.  The aggregates of this module
  are those in exact arithmetic: the readings are rational numbers, so none is a NaN
  or an infinity, no operation rounds, and none overflows.  What the aggregates are
  in Python's own numbers is in `SweatMeter.Binary64`.

  A device index is a natural number: `_validate_gpu_index` admits nothing else.
-/
import Mathlib.Data.List.Dedup
import Mathlib.Algebra.BigOperators.Group.List.Basic
import Mathlib.Algebra.Field.Rat
import SweatMeter.Types

namespace SweatMeter

open Py

def clockDropFraction : ℚ := 15 / 100
def highTemperatureC : ℚ := 80
def lowUtilizationPercent : ℚ := 50
def powerLimitFraction : ℚ := 95 / 100
def minClockSamples : ℕ := 2
def activeThrottleExclusions : List String := ["gpu_idle"]

inductive WindowMetric where
  | peakVramBytes
  | meanPowerWatts
  | energyJoules
  | maxTemperatureC
  | suspectedThrottling
  deriving DecidableEq

inductive ThrottleState where
  | suspected
  | notSuspected
  | unknown
  deriving DecidableEq

structure ThrottleVerdict where
  gpuIndex : ℕ
  verdict : ThrottleState
  reason : String
  confidence : ℚ
  supportedSamples : ℕ
  deriving DecidableEq

/-- The first GPU row of a snapshot with this index. -/
def TelemetrySnapshot.gpu {ν : Type} (g : ℕ) (x : TelemetrySnapshot ν) : Option (GpuSample ν) :=
  x.gpus.find? fun r => r.index = g

/-- The samples of a window, in chronological order. -/
structure TelemetryWindow (ν : Type) where
  samples : List (TelemetrySnapshot ν)

section
variable {ν : Type}

/-- `TelemetryWindow(samples)`. -/
def TelemetryWindow.make {Z : Zones} (S : Sorter Z.lt) (samples : List (TelemetrySnapshot ν)) :
    TelemetryWindow ν :=
  ⟨S.sorted (fun x => x.timestamp) samples⟩

/-- The rows whose driver reports throttle reasons. -/
def reportedRows (samples : List (GpuSample ν)) : List (GpuSample ν) :=
  samples.filter fun x => x.throttleReasonsAvailable

/-- The active reasons of the reporting rows, sorted and without repetition. -/
def activeReasons (reported : List (GpuSample ν)) : List String :=
  ((reported.flatMap fun x => x.throttleReasons).filter
    fun r => r ∉ activeThrottleExclusions).dedup.insertionSort fun a b => a ≤ b

namespace TelemetryWindow

variable (W : TelemetryWindow ν)

def sampleCount : ℕ := W.samples.length

/-- `_gpu_samples`: the device's row from every snapshot that has one. -/
def gpuSamples (g : ℕ) : List (GpuSample ν) := W.samples.filterMap fun x => x.gpu g

/-- `_measurements`. -/
def measurements (g : ℕ) (field : GpuField) : List ν :=
  (W.gpuSamples g).filterMap fun x => x.measurement field

end TelemetryWindow

end

/-! ## Exact arithmetic -/

/-- The sample is at least 15% below a previously observed clock maximum. -/
def isDropFrom (maximumClock clock : ℚ) : Bool := clock ≤ maximumClock * (1 - clockDropFraction)

/-- The loop of `_substantial_clock_drop`, with the maximum seen so far. -/
def clockDropFrom (maximumClock : Option ℚ) : List (GpuSample ℚ) → Option (GpuSample ℚ)
  | [] => none
  | x :: xs => match x.measurement .coreClockMhz, maximumClock with
    | none, _ => clockDropFrom maximumClock xs
    | some clock, none => clockDropFrom (some clock) xs
    | some clock, some m =>
      if isDropFrom m clock then some x else clockDropFrom (some (max m clock)) xs

/-- `_substantial_clock_drop`. -/
def substantialClockDrop (samples : List (GpuSample ℚ)) : Option (GpuSample ℚ) :=
  clockDropFrom none samples

/-- A supported temperature of at least 80 °C. -/
def GpuSample.isHot (x : GpuSample ℚ) : Bool :=
  (x.measurement .temperatureC).any fun t => highTemperatureC ≤ t

/-- Supported power at or above 95% of a supported positive limit. -/
def GpuSample.nearPowerLimit (x : GpuSample ℚ) : Bool :=
  (x.measurement .powerWatts).any fun p => (x.measurement .powerLimitWatts).any fun l =>
    0 < l && powerLimitFraction ≤ p / l

/-- A supported utilization of at most 50%. -/
def GpuSample.lowUtilization (x : GpuSample ℚ) : Bool :=
  (x.measurement .utilizationPercent).any fun u => u ≤ lowUtilizationPercent

/-- `_clock_verdict`. -/
def clockVerdict (gpuIndex : ℕ) (samples reported : List (GpuSample ℚ)) : ThrottleVerdict :=
  let clockSamples := samples.filter fun x => (x.measurement .coreClockMhz).isSome
  let count := clockSamples.length
  if count < minClockSamples then
    ⟨gpuIndex, .unknown, "insufficient_clock_data", 0, count⟩
  else match substantialClockDrop samples with
  | none =>
    if reported ≠ [] ∧ reported.length = samples.length then
      ⟨gpuIndex, .notSuspected, "driver_reported_no_throttling", 95 / 100, reported.length⟩
    else ⟨gpuIndex, .notSuspected, "no_substantial_clock_drop", 6 / 10, count⟩
  | some drop =>
    if drop.isHot then ⟨gpuIndex, .suspected, "clock_drop_with_high_temperature", 8 / 10, count⟩
    else if drop.nearPowerLimit then
      ⟨gpuIndex, .suspected, "clock_drop_near_power_limit", 75 / 100, count⟩
    else if drop.lowUtilization then
      ⟨gpuIndex, .notSuspected, "clock_drop_with_low_utilization", 75 / 100, count⟩
    else ⟨gpuIndex, .unknown, "clock_drop_without_correlating_evidence", 25 / 100, count⟩

/-- The body of `suspected_throttling`, on the device's rows. -/
def throttleVerdict (gpuIndex : ℕ) (samples : List (GpuSample ℚ)) : ThrottleVerdict :=
  let reported := reportedRows samples
  let active := activeReasons reported
  if active ≠ [] then
    ⟨gpuIndex, .suspected, "driver_reported:" ++ ",".intercalate active, 1, reported.length⟩
  else clockVerdict gpuIndex samples reported

namespace TelemetryWindow

variable (W : TelemetryWindow ℚ) (Z : Zones)

def peakVramBytes (g : ℕ) : Measurement ℚ := (W.measurements g .vramUsedBytes).max?

def meanPowerWatts (g : ℕ) : Measurement ℚ :=
  let values := W.measurements g .powerWatts
  if values = [] then none else some (values.sum / values.length)

/-- The energy of one interval, if its start reports power and it has a positive length. -/
def energyTerm (g : ℕ) (p : TelemetrySnapshot ℚ × TelemetrySnapshot ℚ) : Option ℚ :=
  let elapsed := Z.sub p.2.timestamp p.1.timestamp
  if elapsed ≤ 0 then none
  else ((p.1.gpu g).bind fun x => x.measurement .powerWatts).map fun w => w * (elapsed / 1000000)

/-- `_energy_terms`. -/
def energyTerms (g : ℕ) : List ℚ := (pairwise W.samples).filterMap (energyTerm Z g)

def energyJoules (g : ℕ) : Measurement ℚ :=
  if W.energyTerms Z g = [] then none else some (W.energyTerms Z g).sum

def maxTemperatureC (g : ℕ) : Measurement ℚ := (W.measurements g .temperatureC).max?

def suspectedThrottling (g : ℕ) : ThrottleVerdict := throttleVerdict g (W.gpuSamples g)

def supportedSampleCount (metric : WindowMetric) (g : ℕ) : ℕ :=
  match metric with
  | .peakVramBytes => (W.measurements g .vramUsedBytes).length
  | .meanPowerWatts => (W.measurements g .powerWatts).length
  | .energyJoules => (W.energyTerms Z g).length
  | .maxTemperatureC => (W.measurements g .temperatureC).length
  | .suspectedThrottling => (W.suspectedThrottling g).supportedSamples

end TelemetryWindow

end SweatMeter
