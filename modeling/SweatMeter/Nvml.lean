/-
  The in-process NVML backend (`NvmlGpuReader`) over an arbitrary binding.

  A binding is given by what each name it may have does in one call: it is
  absent, no callable, or answers or raises for each device.  A device is told by
  its index, which stands for the handle NVML gives out for it.
-/
import Mathlib.Algebra.Order.Group.Int
import SweatMeter.Py.Dict
import SweatMeter.Py.Logged
import SweatMeter.Py.Text
import SweatMeter.Types

namespace SweatMeter

open Py

/-! ## The binding -/

/-- The functions of a binding (`NvmlBinding`). -/
inductive NvmlFunction where
  | nvmlInit
  | nvmlShutdown
  | nvmlSystemGetDriverVersion
  | nvmlSystemGetCudaDriverVersion
  | nvmlDeviceGetCount
  | nvmlDeviceGetHandleByIndex
  | nvmlDeviceGetName
  | nvmlDeviceGetUUID
  | nvmlDeviceGetMemoryInfo
  | nvmlDeviceGetUtilizationRates
  | nvmlDeviceGetTemperature
  | nvmlDeviceGetPowerUsage
  | nvmlDeviceGetEnforcedPowerLimit
  | nvmlDeviceGetFanSpeed
  | nvmlDeviceGetClockInfo
  | nvmlDeviceGetCudaComputeCapability
  | nvmlDeviceGetCurrentClocksThrottleReasons
  | nvmlDeviceGetSupportedClocksThrottleReasons
  deriving DecidableEq

/-- The constants of a binding. -/
inductive NvmlConstant where
  | NVML_TEMPERATURE_GPU
  | NVML_CLOCK_SM
  | NVML_CLOCK_MEM
  deriving DecidableEq

/-- What `getattr(obj, name, None)` meets. -/
inductive Attribute where
  | absent
  | value (o : Obj)
  | raises (e : Exn)

def Attribute.get : Attribute → Except Exn Obj
  | absent => .ok .none
  | value o => .ok o
  | raises e => .error e

/-- A `Sequence` other than text: its length, and what unpacking yields. -/
structure Items where
  len : Except Exn ℕ
  items : Except Exn (List Obj)

/-- An object a call answers. -/
structure NvmlObject where
  obj : Obj
  attr : String → Attribute := fun _ => .absent
  sequence : Option Items := none

def NvmlObject.none : NvmlObject := { obj := .none }

/-- The arguments of a call: the device whose handle is passed, and a constant. -/
structure NvmlArgs where
  device : Option ℕ := none
  constant : Option Obj := none

inductive NvmlName where
  | absent
  | notCallable
  | callable (run : NvmlArgs → Except Exn NvmlObject)

structure NvmlBinding where
  function : NvmlFunction → NvmlName
  constant : NvmlConstant → Option Obj

/-- `binding.f`, as an operation without arguments; `none` if it is no callable. -/
def NvmlBinding.lookup (B : NvmlBinding) (f : NvmlFunction) :
    Except Exn (Option (Except Exn NvmlObject)) :=
  match B.function f with
  | .absent => .error ⟨"AttributeError"⟩
  | .notCallable => .ok none
  | .callable run => .ok (some (run {}))

/-- `binding.f(handle)` or `binding.f(handle, binding.c)`, all of it evaluated. -/
def NvmlBinding.invoke (B : NvmlBinding) (f : NvmlFunction) (device : ℕ)
    (c : Option NvmlConstant := none) : Except Exn NvmlObject := do
  let run ← match B.function f with
    | .absent => .error ⟨"AttributeError"⟩
    | .notCallable => pure none
    | .callable run => pure (some run)
  let constant ← match c with
    | none => pure none
    | some c => match B.constant c with
      | none => .error ⟨"AttributeError"⟩
      | some value => pure (some value)
  match run with
  | none => .error ⟨"TypeError"⟩
  | some run => run ⟨some device, constant⟩

/-! ## Helpers -/

/-- `_ERROR_REASONS`. -/
def errorReasons : List (String × String) := [
  ("NVMLError_NotSupported", "sensor_unsupported"),
  ("NVMLError_InvalidArgument", "sensor_unsupported"),
  ("NVMLError_FunctionNotFound", "sensor_unsupported"),
  ("NVMLError_NoPermission", "permission_denied"),
  ("NVMLError_LibraryNotFound", "nvml_library_not_found"),
  ("NVMLError_DriverNotLoaded", "nvml_driver_not_loaded"),
  ("NVMLError_Uninitialized", "nvml_not_initialized"),
  ("NVMLError_GpuIsLost", "gpu_lost"),
  ("NVMLError_Timeout", "nvml_timeout")]

/-- The reason of a failure, by the name of its class. -/
def errorReason (e : Exn) : String := (errorReasons.lookup e.name).getD "nvml_error"

/-- `_THROTTLE_BITS`. -/
def throttleBits : List (String × ℕ) := [
  ("gpu_idle", 0x01),
  ("applications_clocks_setting", 0x02),
  ("sw_power_cap", 0x04),
  ("hw_slowdown", 0x08),
  ("sync_boost", 0x10),
  ("sw_thermal_slowdown", 0x20),
  ("hw_thermal_slowdown", 0x40),
  ("hw_power_brake_slowdown", 0x80)]

/-- `_text`. -/
def nvmlText : Obj → Option String
  | .str s | .bytes s => if strip s.toList = [] then none else some (String.ofList (strip s.toList))
  | _ => none

/-- `_number`. -/
def nvmlNumber (value : Obj) (scale : ℚ := 1) (minimum : ℚ := 0) (maximum : Option ℚ := none) :
    Except Exn (Measurement Number) :=
  match value with
  | .num x => do
    if !(← x.isfinite) then return none
    let scaled := if scale = 1 then x else x.div scale
    if !(← scaled.isfinite) || scaled.ltRat minimum then return none
    if maximum.any scaled.gtRat then return none
    return some scaled
  | _ => return none

/-- `_attempt`; `none` is an operation that is not callable. -/
def attempt (operation : Option (Except Exn NvmlObject)) (key : String) : Diagnosed NvmlObject :=
  match operation with
  | none => do
    setReason key "nvml_binding_incomplete"
    return .none
  | some (.error e) => do
    setReason key (errorReason e)
    return .none
  | some (.ok value) => return value

/-! ## Devices -/

/-- `f"gpu.{index}"`, which all keys of the device start with. -/
def deviceName (index : ℕ) : Diagnosed String := .lift ((intText index).map ("gpu." ++ ·))

/-- The count, unless it is malformed. -/
def validCount : Obj → Option ℕ
  | .num (.int n) => if n < 0 then none else some n.toNat
  | _ => none

/-- `_device_count`. -/
def deviceCount (B : NvmlBinding) : Diagnosed ℕ := do
  let operation ← .lift (B.lookup .nvmlDeviceGetCount)
  let count ← attempt operation "gpu"
  setDefaultReasonIf (validCount count.obj = none) "gpu" "malformed_value"
  return (validCount count.obj).getD 0

/-- `_memory`. -/
def memory (B : NvmlBinding) (device : ℕ) (name : String) :
    Diagnosed (Measurement Number × Measurement Number) := do
  let info ← attempt (B.invoke .nvmlDeviceGetMemoryInfo device) s!"{name}.vram_used_bytes"
  let used ← .lift (do nvmlNumber (← (info.attr "used").get))
  let total ← .lift (do nvmlNumber (← (info.attr "total").get))
  setDefaultReasonIf (used = none) s!"{name}.vram_used_bytes" "sensor_unsupported"
  setDefaultReasonIf (total = none) s!"{name}.vram_total_bytes" "sensor_unsupported"
  return (used, total)

/-- The names of the throttle bits set in both masks. -/
def activeBits (supported current : ℕ) : List String :=
  (throttleBits.filter fun p => supported &&& p.2 ≠ 0 ∧ current &&& p.2 ≠ 0).map Prod.fst

/-- The two masks, unless one is malformed or nothing is supported. -/
def throttleMasks (supported current : Obj) : Option (ℕ × ℕ) :=
  match supported, current with
  | .num (.int s), .num (.int c) => if s ≤ 0 ∨ c < 0 then none else some (s.toNat, c.toNat)
  | _, _ => none

/-- `_throttle_reasons`. -/
def throttleReasons (B : NvmlBinding) (device : ℕ) (name : String) :
    Diagnosed (List String × Bool) := do
  let key := s!"{name}.throttle_reasons"
  let supported ← attempt (B.invoke .nvmlDeviceGetSupportedClocksThrottleReasons device) key
  let current ← attempt (B.invoke .nvmlDeviceGetCurrentClocksThrottleReasons device) key
  match throttleMasks supported.obj current.obj with
  | none => do
    setDefaultReason key "sensor_unsupported"
    return ([], false)
  | some (supported, current) => return (activeBits supported current, true)

/-- `_number(self._attempt(...))`. -/
def sense (call : Except Exn NvmlObject) (key : String) (scale : ℚ := 1) (minimum : ℚ := 0)
    (maximum : Option ℚ := none) : Diagnosed (Measurement Number) := do
  let value ← attempt call key
  .lift (nvmlNumber value.obj scale minimum maximum)

/-- The fields whose diagnostics `_sample_device` completes. -/
def notedFields : List GpuField :=
  [.utilizationPercent, .memoryUtilizationPercent, .temperatureC, .powerWatts, .powerLimitWatts,
    .fanPercent, .coreClockMhz, .memoryClockMhz]

/-- `_sample_device`. -/
def sampleDevice (B : NvmlBinding) (device : ℕ) (name : String) : Diagnosed (GpuSample Number) := do
  let vram ← memory B device name
  let utilization ← attempt (B.invoke .nvmlDeviceGetUtilizationRates device)
    s!"{name}.utilization_percent"
  let throttle ← throttleReasons B device name
  let uuid ← attempt (B.invoke .nvmlDeviceGetUUID device) s!"{name}.uuid"
  let gpu ← .lift (do nvmlNumber (← (utilization.attr "gpu").get) 1 0 (some 100))
  let mem ← .lift (do nvmlNumber (← (utilization.attr "memory").get) 1 0 (some 100))
  let temperature ← sense (B.invoke .nvmlDeviceGetTemperature device (some .NVML_TEMPERATURE_GPU))
    s!"{name}.temperature_c" 1 (-27315 / 100)
  let power ← sense (B.invoke .nvmlDeviceGetPowerUsage device) s!"{name}.power_watts" 1000
  let limit ← sense (B.invoke .nvmlDeviceGetEnforcedPowerLimit device)
    s!"{name}.power_limit_watts" 1000
  let fan ← sense (B.invoke .nvmlDeviceGetFanSpeed device) s!"{name}.fan_percent" 1 0 (some 100)
  let core ← sense (B.invoke .nvmlDeviceGetClockInfo device (some .NVML_CLOCK_SM))
    s!"{name}.core_clock_mhz"
  let clock ← sense (B.invoke .nvmlDeviceGetClockInfo device (some .NVML_CLOCK_MEM))
    s!"{name}.memory_clock_mhz"
  let measurement : GpuField → Measurement Number
    | .utilizationPercent => gpu
    | .memoryUtilizationPercent => mem
    | .vramUsedBytes => vram.1
    | .vramTotalBytes => vram.2
    | .temperatureC => temperature
    | .memoryTemperatureC => none
    | .powerWatts => power
    | .powerLimitWatts => limit
    | .fanPercent => fan
    | .coreClockMhz => core
    | .memoryClockMhz => clock
  setDefaultReason s!"{name}.memory_temperature_c" "sensor_unsupported"
  .note fun r => notedFields.foldl (fun r f =>
    if (measurement f).isNone then r.setdefault s!"{name}.{f.name}" "sensor_unsupported" else r) r
  return {
    index := device
    uuid := nvmlText uuid.obj
    measurement := measurement
    throttleReasons := throttle.1
    throttleReasonsAvailable := throttle.2 }

/-- One turn of a loop over the devices: nothing if NVML gives out no handle. -/
def atDevice {T : Type} (B : NvmlBinding) (device : ℕ) (body : String → Diagnosed T) : Diagnosed (List T) := do
  let name ← deviceName device
  let handle ← attempt (B.invoke .nvmlDeviceGetHandleByIndex device) name
  if handle.obj = .none then return []
  let x ← body name
  return [x]

/-- A loop over these devices. -/
def overDevices {T : Type} (B : NvmlBinding) (body : ℕ → String → Diagnosed T) : List ℕ → Diagnosed (List T)
  | [] => return []
  | device :: devices => do
    let here ← atDevice B device (body device)
    let rest ← overDevices B body devices
    return here ++ rest

/-- `sample`, once the binding is ready. -/
def sampleAll (B : NvmlBinding) : Diagnosed (List (GpuSample Number)) := do
  let count ← deviceCount B
  let samples ← overDevices B (sampleDevice B) (List.range count)
  setDefaultReasonIf samples.isEmpty "gpu" "no_nvidia_gpus"
  return samples

/-! ## Static identity -/

/-- The arguments of a `GpuProfile` (the vendor is `NVIDIA`). -/
structure GpuProfile where
  index : ℤ
  name : Option String
  uuid : Option String
  vramTotalBytes : Measurement Number
  driverVersion : Option String
  cudaVersion : Option String
  computeCapability : Option String

/-- `f"{major}.{minor}"`. -/
def versionText (major minor : ℤ) : Except Exn String := do
  let major ← intText major
  let minor ← intText minor
  return s!"{major}.{minor}"

/-- The version number, unless it is malformed. -/
def validVersion : Obj → Option ℤ
  | .num (.int n) => if n ≤ 0 then none else some n
  | _ => none

/-- `_cuda_version`. -/
def cudaVersion (B : NvmlBinding) : Diagnosed (Option String) := do
  let operation ← .lift (B.lookup .nvmlSystemGetCudaDriverVersion)
  let raw ← attempt operation "gpu.cuda_version"
  match validVersion raw.obj with
  | none => do
    setDefaultReason "gpu.cuda_version" "malformed_value"
    return none
  | some n => .lift (some <$> versionText (n / 1000) (n % 1000 / 10))

/-- `major, minor = raw`. -/
def unpackPair : List Obj → Except Exn (Obj × Obj)
  | [major, minor] => .ok (major, minor)
  | _ => .error ⟨"ValueError"⟩

/-- The parts, if both are integers. -/
def intParts : Obj × Obj → Option (ℤ × ℤ)
  | (.num (.int major), .num (.int minor)) => some (major, minor)
  | _ => none

/-- `_compute_capability`. -/
def computeCapability (B : NvmlBinding) (device : ℕ) (name : String) : Diagnosed (Option String) := do
  let key := s!"{name}.compute_capability"
  let raw ← attempt (B.invoke .nvmlDeviceGetCudaComputeCapability device) key
  match raw.sequence with
  | none => malformed key
  | some s => do
    let len ← .lift s.len
    if len ≠ 2 then malformed key else do
      let pair ← .lift (s.items >>= unpackPair)
      match intParts pair with
      | none => do
        setReason key "malformed_value"
        return none
      | some (major, minor) => .lift (some <$> versionText major minor)
where
  malformed (key : String) : Diagnosed (Option String) := do
    setDefaultReason key "malformed_value"
    return none

/-- One turn of the loop of `static_info`, for an addressable device; `construct`
    is what the constructor of `GpuProfile` checks. -/
def profileDevice (construct : GpuProfile → Except Exn Unit) (B : NvmlBinding)
    (driver cuda : Option String) (device : ℕ) (name : String) : Diagnosed GpuProfile := do
  let label ← attempt (B.invoke .nvmlDeviceGetName device) s!"{name}.name"
  let uuid ← attempt (B.invoke .nvmlDeviceGetUUID device) s!"{name}.uuid"
  let (_, total) ← memory B device name
  let capability ← computeCapability B device name
  let profile : GpuProfile := {
    index := device
    name := nvmlText label.obj
    uuid := nvmlText uuid.obj
    vramTotalBytes := total
    driverVersion := driver
    cudaVersion := cuda
    computeCapability := capability }
  .lift (construct profile)
  return profile

/-- `static_info`, once the binding is ready. -/
def profileAll (construct : GpuProfile → Except Exn Unit) (B : NvmlBinding) :
    Diagnosed (List GpuProfile) := do
  let operation ← .lift (B.lookup .nvmlSystemGetDriverVersion)
  let driver ← attempt operation "gpu.driver_version"
  let cuda ← cudaVersion B
  let count ← deviceCount B
  let profiles ← overDevices B (profileDevice construct B (nvmlText driver.obj) cuda)
    (List.range count)
  setDefaultReasonIf profiles.isEmpty "gpu" "no_nvidia_gpus"
  return profiles

/-- `close` of an initialized reader. -/
def shutdown (B : NvmlBinding) : Diagnosed Unit := do
  let operation ← .lift (B.lookup .nvmlShutdown)
  let _ ← attempt operation "gpu"
  return ()

/-! ## The reader -/

/-- What one call meets: `load_nvml_binding`, and the binding. -/
structure NvmlCall where
  load : Except Exn Unit
  binding : NvmlBinding

/-- The reader's state: whether it holds a binding and has initialized it, and
    the diagnostics of its latest operation. -/
structure NvmlGpuReader where
  loaded : Bool := false
  initialized : Bool := false
  reasons : Dict String := ∅

namespace NvmlGpuReader

variable (r : NvmlGpuReader) (c : NvmlCall)

/-- `_ready`, after the diagnostics are cleared: whether the binding is usable. -/
def ready : Bool × NvmlGpuReader :=
  match r.loaded, c.load with
  | false, .error e =>
    let reason := if e.name = "DependencyUnavailableError" then "pynvml_not_installed"
      else "nvml_error"
    (false, { r with reasons := (∅ : Dict String).set "gpu" reason })
  | _, _ =>
    let r : NvmlGpuReader := { r with loaded := true, reasons := ∅ }
    if r.initialized then (true, r)
    else match c.binding.function .nvmlInit with
      | .absent | .notCallable =>
        (false, { r with reasons := r.reasons.set "gpu" "nvml_binding_incomplete" })
      | .callable run => match run {} with
        | .error e => (false, { r with reasons := r.reasons.set "gpu" (errorReason e) })
        | .ok _ => (true, { r with initialized := true })

/-- Run an operation on the binding if it is ready, else return `default`. -/
def operate {T : Type} (default : T) (operation : NvmlBinding → Diagnosed T) :
    Except Exn T × NvmlGpuReader :=
  match r.ready c with
  | (false, r) => (.ok default, r)
  | (true, r) =>
    let x := operation c.binding
    (x.outcome, { r with reasons := x.log r.reasons })

/-- `available`. -/
def available : Except Exn Bool × NvmlGpuReader := r.operate c false fun B => do
  let count ← deviceCount B
  setDefaultReasonIf (count = 0) "gpu" "no_nvidia_gpus"
  return count ≠ 0

/-- `sample`. -/
def sample : Except Exn (List (GpuSample Number)) × NvmlGpuReader := r.operate c [] sampleAll

/-- `static_info`. -/
def staticInfo (construct : GpuProfile → Except Exn Unit) :
    Except Exn (List GpuProfile) × NvmlGpuReader := r.operate c [] (profileAll construct)

/-- `close`. -/
def close : Except Exn Unit × NvmlGpuReader :=
  let (loaded, initialized) := (r.loaded, r.initialized)
  let r : NvmlGpuReader := { r with initialized := false }
  if loaded && initialized then
    let x := shutdown c.binding
    (x.outcome, { r with reasons := x.log r.reasons })
  else (.ok (), r)

end NvmlGpuReader

end SweatMeter
