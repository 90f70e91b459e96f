/-
  The deterministic readers of `testing.py`.

  Every operation of a `ScriptedHostReader` has a cursor of its own; a
  `ScriptedGpuReader` has one for `sample`, and derives its profiles from the
  whole script.  A `FaultInjectingReader` raises at one operation and delegates
  the others.
-/
import Mathlib.Logic.Function.Basic
import SweatMeter.ReaderState

namespace SweatMeter

open Py Py.Stateful

/-- `_HOST_OPERATIONS`. -/
inductive HostOperation where
  | cpuPercent
  | loadAverage1m
  | memory
  | cpuTemperature
  | diskThroughput
  | processRssBytes
  | staticFacts
  deriving DecidableEq

/-- One step of a host script. -/
structure HostReading where
  cpuPercent : Measurement Number := none
  loadAverage1m : Measurement Number := none
  memory : MemoryReading (Measurement Number) := ⟨none, none, none⟩
  cpuTemperatureC : Measurement Number := none
  diskThroughput : DiskThroughput (Measurement Number) := ⟨none, none⟩
  processRssBytes : Measurement Number := none
  staticFacts : HostFacts := emptyFacts

/-- The positions of the scripted readers. -/
structure Cursors where
  host : HostOperation → ℕ := fun _ => 0
  gpu : ℕ := 0

/-- The object that is a measurement. -/
def measured : Measurement Number → Obj
  | some x => .num x
  | none => .unsupported

def MemoryReading.attributes (m : MemoryReading (Measurement Number)) :
    MemoryReading (Except Exn Obj) :=
  ⟨.ok (measured m.totalBytes), .ok (measured m.availableBytes), .ok (measured m.usedBytes)⟩

def DiskThroughput.attributes (d : DiskThroughput (Measurement Number)) :
    DiskThroughput (Except Exn Obj) :=
  ⟨.ok (measured d.readBytesPerSec), .ok (measured d.writeBytesPerSec)⟩

/-! ## The host -/

namespace ScriptedHostReader

variable (samples : List HostReading)

/-- `_next`. -/
def next (operation : HostOperation) : EStateM Exn Cursors HostReading := fun s =>
  let position := s.host operation
  match samples[position]? with
  | none => .error ⟨"IndexError"⟩ s
  | some row => .ok row { s with host := Function.update s.host operation (position + 1) }

/-- `ScriptedHostReader(samples)`. -/
def reader : HostReaderObject Cursors where
  cpuPercent := do return measured (← next samples .cpuPercent).cpuPercent
  loadAverage1m := do return measured (← next samples .loadAverage1m).loadAverage1m
  memory := do return some (← next samples .memory).memory.attributes
  cpuTemperature := do return measured (← next samples .cpuTemperature).cpuTemperatureC
  diskThroughput := do return some (← next samples .diskThroughput).diskThroughput.attributes
  processRssBytes := do return measured (← next samples .processRssBytes).processRssBytes
  staticFacts := do return some (← next samples .staticFacts).staticFacts
  unavailableReasons _ := .absent

end ScriptedHostReader

namespace FaultInjectingReader

variable {σ : Type}

/-- `_call`. -/
def call {T : Type} (fail operation : HostOperation) (fn : EStateM Exn σ T) : EStateM Exn σ T :=
  if operation = fail then throw ⟨"RuntimeError"⟩ else fn

/-- `FaultInjectingReader(wrapped, fail=fail)` around a host reader. -/
def reader (wrapped : HostReaderObject σ) (fail : HostOperation) : HostReaderObject σ where
  cpuPercent := call fail .cpuPercent wrapped.cpuPercent
  loadAverage1m := call fail .loadAverage1m wrapped.loadAverage1m
  memory := call fail .memory wrapped.memory
  cpuTemperature := call fail .cpuTemperature wrapped.cpuTemperature
  diskThroughput := call fail .diskThroughput wrapped.diskThroughput
  processRssBytes := call fail .processRssBytes wrapped.processRssBytes
  staticFacts := call fail .staticFacts wrapped.staticFacts
  unavailableReasons s := match wrapped.unavailableReasons s with
    | .absent => .mapping (.ok [])
    | reporter => reporter

end FaultInjectingReader

/-! ## The GPUs -/

/-- The object that is an optional text. -/
def textOrNone : Option String → Obj
  | some s => .str s
  | none => .none

/-- The sample as an object. -/
def GpuSample.row (s : GpuSample Number) : GpuRow where
  index := .ok (.num (.int s.index))
  uuid := .ok (textOrNone s.uuid)
  measurement f := .ok (measured (s.measurement f))
  throttleReasons := .ok (s.throttleReasons.map .str)
  throttleReasonsAvailable := .ok (.bool s.throttleReasonsAvailable)

namespace ScriptedGpuReader

/-- The profile derived from a sample. -/
def derivedProfile (s : GpuSample Number) : GpuProfileObject where
  index := s.index
  name := .none
  uuid := textOrNone s.uuid
  vramTotalBytes := measured (s.measurement .vramTotalBytes)
  driverVersion := .none
  cudaVersion := .none
  computeCapability := .none
  vendor := some .unknown

/-- The arguments of its constructor. -/
def profileArguments (s : GpuSample Number) : VendorGpuProfile where
  index := s.index
  name := none
  uuid := s.uuid
  vramTotalBytes := s.measurement .vramTotalBytes
  driverVersion := none
  cudaVersion := none
  computeCapability := none
  vendor := .unknown

variable {F : Type} (core : BaseAiCore F) (samples : List (List (GpuSample Number)))

/-- `sample`. -/
def sample : EStateM Exn Cursors (List (Option GpuRow)) := fun s =>
  match samples[s.gpu]? with
  | none => .error ⟨"IndexError"⟩ s
  | some step => .ok (step.map fun g => some g.row) { s with gpu := s.gpu + 1 }

/-- `profiles.setdefault(sample.index, GpuProfile(...))`: the default is built
    before it is looked up. -/
def setdefaultProfile (profiles : List GpuProfileObject) (s : GpuSample Number) :
    Except Exn (List GpuProfileObject) := do
  core.gpuProfile (profileArguments s)
  return if profiles.any fun p => p.index = s.index then profiles
    else profiles ++ [derivedProfile s]

/-- `static_info`. -/
def staticInfo : Except Exn (List (Option GpuProfileObject)) := do
  let profiles ← samples.flatten.foldlM (setdefaultProfile core) []
  return (profiles.insertionSort fun p q => p.index ≤ q.index).map some

/-- `ScriptedGpuReader(samples)`. -/
def reader : GpuReaderObject Cursors where
  sample := sample samples
  staticInfo := lift (staticInfo core samples)
  unavailableReasons _ := .absent

end ScriptedGpuReader

end SweatMeter
