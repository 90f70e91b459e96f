/-
  The window in Python's own numbers: integers of any size, and doubles.

  A reading may be a NaN or an infinity, products and quotients are rounded to the
  nearest double, and an integer that is too large for one raises `OverflowError`.
  The mean and the energy are sums of doubles; they are in exact arithmetic here too,
  as far as NaNs and infinities leave them a value.
-/
import SweatMeter.Py.Binary64
import SweatMeter.Window

namespace SweatMeter.Binary64

open Py Number

/-! ## The clock heuristic -/

/-- `1.0 - _CLOCK_DROP_FRACTION`. -/
def clockKept : ℚ := rounded (1 - rounded clockDropFraction)

/-- `clock <= maximum_clock * (1.0 - _CLOCK_DROP_FRACTION)`. -/
def isDropFrom (maximumClock clock : Number) : Except Exn Bool :=
  return clock.exact.le (← maximumClock.times clockKept)

/-- The loop of `_substantial_clock_drop`, with the maximum seen so far. -/
def clockDropFrom (maximumClock : Option Number) :
    List (GpuSample Number) → Except Exn (Option (GpuSample Number))
  | [] => return none
  | x :: xs => match x.measurement .coreClockMhz, maximumClock with
    | none, _ => clockDropFrom maximumClock xs
    | some clock, none => clockDropFrom (some clock) xs
    | some clock, some m => do
      if ← isDropFrom m clock then return some x else clockDropFrom (some (m.max clock)) xs

/-- `_substantial_clock_drop`. -/
def substantialClockDrop (samples : List (GpuSample Number)) :
    Except Exn (Option (GpuSample Number)) :=
  clockDropFrom none samples

/-- `drop.temperature_c >= _HIGH_TEMPERATURE_C`, for a supported temperature. -/
def isHot (x : GpuSample Number) : Bool :=
  (x.measurement .temperatureC).any fun t => (Double.finite highTemperatureC).le t.exact

/-- `drop.power_watts / drop.power_limit_watts >= _POWER_LIMIT_FRACTION`, for supported
    readings and a positive limit. -/
def nearPowerLimit (x : GpuSample Number) : Except Exn Bool :=
  match x.measurement .powerWatts, x.measurement .powerLimitWatts with
  | some p, some l =>
    if (Double.finite 0).lt l.exact then
      return (Double.finite (rounded powerLimitFraction)).le (← p.truediv l)
    else return false
  | _, _ => return false

/-- `drop.utilization_percent <= _LOW_UTILIZATION_PERCENT`, for a supported utilization. -/
def lowUtilization (x : GpuSample Number) : Bool :=
  (x.measurement .utilizationPercent).any fun u => u.exact.le (.finite lowUtilizationPercent)

/-- `_clock_verdict`. -/
def clockVerdict (gpuIndex : ℕ) (samples reported : List (GpuSample Number)) :
    Except Exn ThrottleVerdict := do
  let clockSamples := samples.filter fun x => (x.measurement .coreClockMhz).isSome
  let drop ← substantialClockDrop samples
  let count := clockSamples.length
  if count < minClockSamples then
    return ⟨gpuIndex, .unknown, "insufficient_clock_data", 0, count⟩
  else match drop with
  | none =>
    if reported ≠ [] ∧ reported.length = samples.length then
      return ⟨gpuIndex, .notSuspected, "driver_reported_no_throttling", 95 / 100, reported.length⟩
    else return ⟨gpuIndex, .notSuspected, "no_substantial_clock_drop", 6 / 10, count⟩
  | some drop =>
    if isHot drop then
      return ⟨gpuIndex, .suspected, "clock_drop_with_high_temperature", 8 / 10, count⟩
    else if ← nearPowerLimit drop then
      return ⟨gpuIndex, .suspected, "clock_drop_near_power_limit", 75 / 100, count⟩
    else if lowUtilization drop then
      return ⟨gpuIndex, .notSuspected, "clock_drop_with_low_utilization", 75 / 100, count⟩
    else return ⟨gpuIndex, .unknown, "clock_drop_without_correlating_evidence", 25 / 100, count⟩

/-- The body of `suspected_throttling`, on the device's rows. -/
def throttleVerdict (gpuIndex : ℕ) (samples : List (GpuSample Number)) :
    Except Exn ThrottleVerdict :=
  let reported := reportedRows samples
  let active := activeReasons reported
  if active ≠ [] then
    return ⟨gpuIndex, .suspected, "driver_reported:" ++ ",".intercalate active, 1, reported.length⟩
  else clockVerdict gpuIndex samples reported

/-! ## The aggregates -/

section
variable (W : TelemetryWindow Number) (Z : Zones) (g : ℕ)

def suspectedThrottling : Except Exn ThrottleVerdict := throttleVerdict g (W.gpuSamples g)

def peakVramBytes : Measurement Number := Number.maximum (W.measurements g .vramUsedBytes)

def maxTemperatureC : Measurement Number := Number.maximum (W.measurements g .temperatureC)

/-- The mean, in exact arithmetic. -/
def meanPowerWatts : Measurement Double :=
  let values := W.measurements g .powerWatts
  if values = [] then none
  else some ((Double.sum (values.map exact)).scaled (1 / values.length))

/-- The energy of one interval, if its start reports power and it has a positive length. -/
def energyTerm (p : TelemetrySnapshot Number × TelemetrySnapshot Number) :
    Except Exn (Option Double) :=
  let elapsed := Z.sub p.2.timestamp p.1.timestamp
  if elapsed ≤ 0 then return none
  else match (p.1.gpu g).bind fun x => x.measurement .powerWatts with
  | none => return none
  | some w => return some ((← w.toDouble).scaled (elapsed / 1000000))

/-- `_energy_terms`. -/
def energyTerms : Except Exn (List Double) :=
  return (← (pairwise W.samples).mapM (energyTerm Z g)).reduceOption

/-- The energy, in exact arithmetic. -/
def energyJoules : Except Exn (Measurement Double) := do
  let terms ← energyTerms W Z g
  return if terms = [] then none else some (Double.sum terms)

def supportedSampleCount (metric : WindowMetric) : Except Exn ℕ :=
  match metric with
  | .peakVramBytes => return (W.measurements g .vramUsedBytes).length
  | .meanPowerWatts => return (W.measurements g .powerWatts).length
  | .energyJoules => return (← energyTerms W Z g).length
  | .maxTemperatureC => return (W.measurements g .temperatureC).length
  | .suspectedThrottling => return (← suspectedThrottling W g).supportedSamples

end

end SweatMeter.Binary64
