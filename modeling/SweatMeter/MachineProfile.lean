/-
  The machine profile (`TelemetryCollector.machine_profile`) over arbitrary readers.

  BaseAiCore's constructors and its fingerprint are parameters: whether they
  accept their arguments, and what the fingerprint is.  `assemble` is
  `_machine_profile`, the body under the public non-raising wrapper.
-/
import SweatMeter.Collector
import SweatMeter.Nvml

namespace SweatMeter

open Py

/-! ## Static facts -/

/-- The texts among the static facts. -/
inductive TextFact where
  | hostname
  | osName
  | osVersion
  | kernel
  | architecture
  | cpuModel
  | pythonVersion
  deriving DecidableEq

/-- The fact's name in the source. -/
def TextFact.name : TextFact → String
  | hostname => "hostname"
  | osName => "os_name"
  | osVersion => "os_version"
  | kernel => "kernel"
  | architecture => "architecture"
  | cpuModel => "cpu_model"
  | pythonVersion => "python_version"

/-- The numbers among the static facts. -/
inductive NumberFact where
  | physicalCores
  | logicalCores
  | ramBytes
  deriving DecidableEq

/-- The fact's name in the source. -/
def NumberFact.name : NumberFact → String
  | physicalCores => "physical_cores"
  | logicalCores => "logical_cores"
  | ramBytes => "ram_bytes"

/-- A `HostFacts` object, whose attributes may hold anything.  `storage` is `none`
    for what is no tuple. -/
structure HostFacts where
  text : TextFact → Obj
  number : NumberFact → Obj
  storage : Option (List Obj)

/-- `HostFacts()`. -/
def emptyFacts : HostFacts := ⟨fun _ => .unsupported, fun _ => .unsupported, some []⟩

/-- The fields that a failure of `static_facts` is noted under. -/
def factFields : List String :=
  ["hostname", "os_name", "os_version", "kernel", "architecture", "cpu_model", "physical_cores",
    "logical_cores", "ram_bytes", "storage", "python_version"]

/-! ## GPU profiles -/

/-- `baseaicore.GpuVendor`. -/
inductive GpuVendor where
  | nvidia
  | unknown
  | other (value : String)
  deriving DecidableEq

/-- A `GpuProfile` object.  Its constructor has checked the index; the other
    attributes may hold anything.  `vendor` is `none` for what is no `GpuVendor`. -/
structure GpuProfileObject where
  index : ℤ
  name : Obj
  uuid : Obj
  vramTotalBytes : Obj
  driverVersion : Obj
  cudaVersion : Obj
  computeCapability : Obj
  vendor : Option GpuVendor

/-- The arguments of a `GpuProfile` of any vendor. -/
structure VendorGpuProfile extends GpuProfile where
  vendor : GpuVendor

/-! ## BaseAiCore -/

/-- The arguments of `compute_machine_fingerprint`. -/
structure Identity where
  hostname : Option String
  osName : Option String
  architecture : Option String
  cpuModel : Option String
  physicalCores : Measurement Number
  logicalCores : Measurement Number
  ramBytes : Measurement Number
  gpus : List VendorGpuProfile

/-- The arguments of a `MachineProfile`. -/
structure MachineProfile (F : Type) where
  machineFingerprint : F
  text : TextFact → Option String := fun _ => none
  number : NumberFact → Measurement Number := fun _ => none
  gpus : List VendorGpuProfile := []
  storage : List Obj := []
  observedAt : Datetime

/-- What the collector uses of BaseAiCore: whether its constructors accept their
    arguments, and the fingerprint. -/
structure BaseAiCore (F : Type) where
  gpuProfile : VendorGpuProfile → Except Exn Unit
  fingerprint : Identity → Except Exn F
  machineProfile : MachineProfile F → Except Exn Unit

/-- Everything one call of `machine_profile` meets. -/
structure ProfileBoundary where
  clocks : Clocks
  staticFacts : Except Exn (Option HostFacts)
  hostReasons : ReasonSurface
  /-- `none` for an element that is no `GpuProfile` -/
  staticInfo : Except Exn (List (Option GpuProfileObject))
  gpuReasons : ReasonSurface

/-! ## Normalization -/

/-- `_profile_text`. -/
def profileText : Obj → Option String
  | .str s => if strip s.toList = [] then none else some (String.ofList (strip s.toList))
  | _ => none

section

variable {F : Type} (core : BaseAiCore F)

/-- The normalized profile of a `GpuProfile` object. -/
def normalizeGpuProfile (value : GpuProfileObject) : Except Exn VendorGpuProfile := do
  let vram ← number value.vramTotalBytes
  let profile : VendorGpuProfile := {
    index := value.index
    name := profileText value.name
    uuid := profileText value.uuid
    vramTotalBytes := vram
    driverVersion := profileText value.driverVersion
    cudaVersion := profileText value.cudaVersion
    computeCapability := profileText value.computeCapability
    vendor := value.vendor.getD .unknown }
  core.gpuProfile profile
  return profile

/-- One turn of the loop of `_normalize_gpu_profiles`. -/
def normalizeProfileValue (position : ℕ) (value : Option GpuProfileObject)
    (normalized : List VendorGpuProfile) (reasons : Dict String) :
    Except Exn (List VendorGpuProfile × Dict String) :=
  match value with
  | none => return (normalized, reasons.set s!"gpu.profile.{position}" "malformed_reading")
  | some value => do
    if normalized.any fun p => p.index = value.index then
      return (normalized, reasons.set s!"gpu.profile.{position}.index" "duplicate_gpu_index")
    let profile ← normalizeGpuProfile core value
    return (normalized ++ [profile], reasons)

/-- The loop of `_normalize_gpu_profiles`, from this position on. -/
def normalizeProfileValues : ℕ → List (Option GpuProfileObject) → List VendorGpuProfile →
    Dict String → Except Exn (List VendorGpuProfile × Dict String)
  | _, [], normalized, reasons => return (normalized, reasons)
  | position, value :: values, normalized, reasons => do
    let (normalized, reasons) ← normalizeProfileValue core position value normalized reasons
    normalizeProfileValues (position + 1) values normalized reasons

/-- `_normalize_gpu_profiles`. -/
def normalizeGpuProfiles (values : List (Option GpuProfileObject)) (reasons : Dict String) :
    Except Exn (List VendorGpuProfile × Dict String) := do
  let (normalized, reasons) ← normalizeProfileValues core 0 values [] reasons
  return (normalized.insertionSort fun p q => p.index ≤ q.index, reasons)

/-! ## The profile -/

/-- `_mark_unsupported` over the numbers of the identity; its missing texts are
    marked alike. -/
def markMissing {T : Type} (values : List (String × Option T)) (reason : String)
    (reasons : Dict String) : Dict String :=
  values.foldl (fun r p => if p.2.isNone then r.setdefault p.1 reason else r) reasons

/-- `_machine_profile`. -/
def assemble (b : ProfileBoundary) : Except Exn (MachineProfile F × Dict String) := do
  let (facts, reasons) := read b.staticFacts (some emptyFacts) factFields ∅
  let (facts, reasons) := orMalformed facts emptyFacts ["host_profile"] reasons
  let (gpuValues, reasons) := read b.staticInfo [] ["gpu"] reasons
  let (gpus, reasons) ← normalizeGpuProfiles core gpuValues reasons
  let (timestamp, reasons) := timestampOf b.clocks reasons
  let hostname := profileText (facts.text .hostname)
  let osName := profileText (facts.text .osName)
  let architecture := profileText (facts.text .architecture)
  let cpuModel := profileText (facts.text .cpuModel)
  let physicalCores ← number (facts.number .physicalCores)
  let logicalCores ← number (facts.number .logicalCores)
  let ramBytes ← number (facts.number .ramBytes)
  let fingerprint ← core.fingerprint {
    hostname := hostname
    osName := osName
    architecture := architecture
    cpuModel := cpuModel
    physicalCores := physicalCores
    logicalCores := logicalCores
    ramBytes := ramBytes
    gpus := gpus }
  let profile : MachineProfile F := {
    machineFingerprint := fingerprint
    text := fun
      | .hostname => hostname
      | .osName => osName
      | .osVersion => profileText (facts.text .osVersion)
      | .kernel => profileText (facts.text .kernel)
      | .architecture => architecture
      | .cpuModel => cpuModel
      | .pythonVersion => profileText (facts.text .pythonVersion)
    number := fun
      | .physicalCores => physicalCores
      | .logicalCores => logicalCores
      | .ramBytes => ramBytes
    gpus := gpus
    storage := facts.storage.getD []
    observedAt := timestamp }
  core.machineProfile profile
  let reasons := markMissing [("physical_cores", physicalCores), ("logical_cores", logicalCores),
    ("ram_bytes", ramBytes)] "sensor_unsupported" reasons
  let reasons := markMissing [("hostname", hostname), ("os_name", osName),
    ("architecture", architecture), ("cpu_model", cpuModel)] "sensor_unsupported" reasons
  let hostReasons ← readerReasons b.hostReasons
  let reasons := reasons.update (hostReasons.filter fun p => p.1 ∉ HostField.all.map HostField.name)
  let gpuReasons ← readerReasons b.gpuReasons
  let reasons := reasons.update gpuReasons
  let reasons := if gpus = [] then reasons.setdefault "gpu" "no_gpus" else reasons
  return (profile, Dict.ofItems reasons.sortedItems)

/-- `_emergency_profile`. -/
def emergencyProfile (c : Clocks) : Except Exn (MachineProfile F) := do
  let fingerprint ← core.fingerprint {
    hostname := none
    osName := none
    architecture := none
    cpuModel := none
    physicalCores := none
    logicalCores := none
    ramBytes := none
    gpus := [] }
  let profile : MachineProfile F := {
    machineFingerprint := fingerprint
    observedAt := fallbackTimestamp c.localToUtc c.utcNowEmergency }
  core.machineProfile profile
  return profile

/-- The diagnostics of a wholly failed collection. -/
def collectorError : Dict String := Dict.ofItems [("machine_profile", "collector_error")]

/-- `machine_profile`: the result, and the collector afterwards. -/
def TelemetryCollector.machineProfile (_ : TelemetryCollector) (b : ProfileBoundary) :
    Except Exn (MachineProfile F) × TelemetryCollector :=
  match assemble core b with
  | .ok (profile, reasons) => (.ok profile, ⟨reasons⟩)
  | .error _ => (emergencyProfile core b.clocks, ⟨collectorError⟩)

end

end SweatMeter
