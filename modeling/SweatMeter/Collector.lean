/-
  The collector (`TelemetryCollector.snapshot`) over arbitrary readers.

  A reader is given by what each of its operations does in one call: it raises,
  or it returns some value.  Reading an attribute of a returned record may raise
  too.  `collect` is `_snapshot`, the body under the public non-raising wrapper;
  `TelemetryCollector.snapshot` is the wrapper; it keeps the
  diagnostics of the snapshot it returns.
-/
import Mathlib.Algebra.Order.Group.Int
import SweatMeter.Py.Dict
import SweatMeter.Py.Except
import SweatMeter.Py.Text
import SweatMeter.Types

namespace SweatMeter

open Py

/-! ## What the boundary may hand back -/

/-- What `tzinfo.utcoffset` answers, besides raising. -/
inductive UtcOffset where
  | none
  | delta (us : ℤ)
  | other

/-- A `datetime` object: its wall clock in microseconds since year 1 and, unless
    it is naive, what its `tzinfo` answers for its offset. -/
structure RawDatetime where
  wall : ℤ
  tzinfo : Option (Except Exn UtcOffset)

/-- The clocks of one call: the injected one and `utc_now` (`none` for an object
    that is no `datetime`).  `utc_now` is asked in the fallback of `_timestamp`
    and again on the emergency path.  `localToUtc` is the system's conversion of
    a naive datetime. -/
structure Clocks where
  clock : Except Exn (Option RawDatetime)
  utcNow : Except Exn (Option RawDatetime)
  utcNowEmergency : Except Exn (Option RawDatetime)
  localToUtc : ℤ → Except Exn ℤ

/-- An object with an optional `unavailable_reasons` method. -/
inductive ReasonSurface where
  | absent
  | raises (e : Exn)
  | notMapping
  /-- a mapping, with its items (`none` for one that is no pair) -/
  | mapping (items : Except Exn (List (Option (Obj × Obj))))

/-- A `GpuSample` object whose attributes hold anything. -/
structure GpuRow where
  index : Except Exn Obj
  uuid : Except Exn Obj
  measurement : GpuField → Except Exn Obj
  /-- iterating the attribute `throttle_reasons` -/
  throttleReasons : Except Exn (List Obj)
  throttleReasonsAvailable : Except Exn Obj

/-- A host reader in one call of `snapshot` (`none` for a value of the wrong type). -/
structure HostReader where
  cpuPercent : Except Exn Obj
  loadAverage1m : Except Exn Obj
  memory : Except Exn (Option (MemoryReading (Except Exn Obj)))
  cpuTemperature : Except Exn Obj
  diskThroughput : Except Exn (Option (DiskThroughput (Except Exn Obj)))
  processRssBytes : Except Exn Obj
  unavailableReasons : ReasonSurface

/-- A GPU reader in one call of `snapshot` (`none` for an element that is no `GpuSample`). -/
structure GpuReader where
  sample : Except Exn (List (Option GpuRow))
  unavailableReasons : ReasonSurface

/-- Everything one call of `snapshot` meets. -/
structure Boundary where
  clocks : Clocks
  host : HostReader
  gpu : GpuReader

/-! ## Helpers -/

/-- `_number`. -/
def number (value : Obj) (minimum : ℚ := 0) (maximum : Option ℚ := none) :
    Except Exn (Measurement Number) :=
  match value with
  | .num x => do
    if !(← x.isfinite) then return none
    if x.ltRat minimum then return none
    if maximum.any x.gtRat then return none
    return some x
  | _ => return none

/-- `_read`. -/
def read {T : Type} (fn : Except Exn T) (default : T) (reasonFields : List String)
    (reasons : Dict String) : T × Dict String :=
  match fn with
  | .ok value => (value, reasons)
  | .error _ => (default, reasonFields.foldl (fun r f => r.set f "reader_error") reasons)

/-- Microseconds from year 1 to the end of year 9999, the range of `datetime`. -/
def datetimeRange : ℤ := 315537897600000000

/-- `datetime(1970, 1, 1, tzinfo=UTC)`. -/
def fallbackInstant : RawDatetime := ⟨62135596800000000, some (.ok (.delta 0))⟩

def utcDatetime (us : ℤ) : Datetime := ⟨0, us, false⟩

/-- `value.astimezone(UTC)`. -/
def astimezone (localToUtc : ℤ → Except Exn ℤ) (value : RawDatetime) : Except Exn Datetime :=
  match value.tzinfo with
  | none | some (.ok .none) => (localToUtc value.wall).map utcDatetime
  | some (.error e) => .error e
  | some (.ok .other) => .error ⟨"TypeError"⟩
  | some (.ok (.delta us)) =>
    if |us| < 86400000000 then
      if 0 ≤ value.wall - us ∧ value.wall - us < datetimeRange then .ok (utcDatetime (value.wall - us))
      else .error ⟨"OverflowError"⟩
    else .error ⟨"ValueError"⟩

/-- `_fallback_timestamp`, with what `utc_now` does in this call. -/
def fallbackTimestamp (localToUtc : ℤ → Except Exn ℤ) (utcNow : Except Exn (Option RawDatetime)) :
    Datetime :=
  match utcNow with
  | .ok (some value) => match astimezone localToUtc value with
    | .ok converted => converted
    | .error _ => utcDatetime fallbackInstant.wall
  | _ => utcDatetime fallbackInstant.wall

/-- The datetime knows its offset: `tzinfo.utcoffset` answers something. -/
def RawDatetime.isAware (value : RawDatetime) : Bool :=
  match value.tzinfo with
  | some (.ok .none) | some (.error _) | none => false
  | some (.ok _) => true

/-- `_timestamp`. -/
def timestampOf (c : Clocks) (reasons : Dict String) : Datetime × Dict String :=
  let (raw, reasons) := read c.clock (some fallbackInstant) ["timestamp"] reasons
  let converted := raw.bind fun value =>
    if value.isAware then (astimezone c.localToUtc value).toOption else none
  match converted with
  | some t => (t, reasons)
  | none => (fallbackTimestamp c.localToUtc c.utcNow, reasons.set "timestamp" "invalid_clock")

/-- The pair is a key and a value that are non-empty strings. -/
def wellFormedReason : Obj × Obj → Option (String × String)
  | (.str key, .str value) => if key ≠ "" ∧ value ≠ "" then some (key, value) else none
  | _ => none

/-- `key, value = item`. -/
def unpack : Option (Obj × Obj) → Except Exn (Obj × Obj)
  | some p => .ok p
  | none => .error ⟨"TypeError"⟩

/-- `_reader_reasons`: the well-formed entries, in the mapping's order. -/
def readerReasons (reader : ReasonSurface) : Except Exn (List (String × String)) :=
  match reader with
  | .mapping (.ok items) => do
    let pairs ← items.mapM unpack
    return pairs.filterMap wellFormedReason
  | _ => return []

/-- `_mark_unsupported` over the live host fields. -/
def markUnsupported (live : HostField → Measurement Number) (reason : String)
    (reasons : Dict String) : Dict String :=
  HostField.all.foldl (fun r f => if (live f).isNone then r.setdefault f.name reason else r) reasons

/-! ## GPU rows -/

/-- `field.endswith("percent")` decides the upper bound of a GPU field. -/
def GpuField.maximum (f : GpuField) : Option ℚ :=
  if endswith f.name "percent" then some 100 else none

/-- `"temperature" in field` decides the lower bound of a GPU field. -/
def GpuField.minimum (f : GpuField) : ℚ :=
  if inText "temperature" f.name then -27315 / 100 else 0

/-- `reasons.setdefault(f"gpu.{index}.{field}", ...)` for an unsupported field. -/
def noteUnsupported (index : ℤ) (f : GpuField) (measurement : Measurement Number)
    (reasons : Dict String) : Except Exn (Dict String) :=
  if measurement.isSome then .ok reasons
  else do
    let text ← intText index
    return reasons.setdefault s!"gpu.{text}.{f.name}" "sensor_unsupported"

/-- Normalize the fields of one row, noting the unsupported ones. -/
def gpuMeasurements (index : ℤ) (row : GpuRow) :
    List GpuField → Dict String → Except Exn ((GpuField → Measurement Number) × Dict String)
  | [], reasons => return (fun _ => none, reasons)
  | f :: fs, reasons => do
    let measurement ← number (← row.measurement f) f.minimum f.maximum
    let reasons ← noteUnsupported index f measurement reasons
    let (rest, reasons) ← gpuMeasurements index row fs reasons
    return (Function.update rest f measurement, reasons)

/-- The text of an object that is a non-empty string. -/
def nonEmptyText : Obj → Option String
  | .str s => if s ≠ "" then some s else none
  | _ => none

/-- The normalized row, for a row with this valid index. -/
def normalizeGpuRow (index : ℤ) (row : GpuRow) (reasons : Dict String) :
    Except Exn (GpuSample Number × Dict String) := do
  let (measurements, reasons) ← gpuMeasurements index row GpuField.all reasons
  let uuid ← row.uuid
  let throttleReasons ← row.throttleReasons
  let available ← row.throttleReasonsAvailable
  return ({
    index := index
    uuid := nonEmptyText uuid
    measurement := measurements
    throttleReasons := throttleReasons.filterMap nonEmptyText
    throttleReasonsAvailable := available = .bool true }, reasons)

/-- The index of a row, if it is a non-negative integer. -/
def validIndex : Obj → Option ℤ
  | .num (.int n) => if n < 0 then none else some n
  | _ => none

/-- One turn of the loop of `_normalize_gpu_samples`. -/
def normalizeGpuValue (position : ℕ) (value : Option GpuRow) (normalized : List (GpuSample Number))
    (reasons : Dict String) : Except Exn (List (GpuSample Number) × Dict String) :=
  match value with
  | none => return (normalized, reasons.set s!"gpu.sample.{position}" "malformed_reading")
  | some row => do
    match validIndex (← row.index) with
    | none => return (normalized, reasons.set s!"gpu.sample.{position}.index" "malformed_value")
    | some index =>
      if normalized.any fun r => r.index = index then
        return (normalized, reasons.set s!"gpu.sample.{position}.index" "duplicate_gpu_index")
      let (sample, reasons) ← normalizeGpuRow index row reasons
      return (normalized ++ [sample], reasons)

/-- The loop of `_normalize_gpu_samples`, from this position on. -/
def normalizeGpuValues : ℕ → List (Option GpuRow) → List (GpuSample Number) → Dict String →
    Except Exn (List (GpuSample Number) × Dict String)
  | _, [], normalized, reasons => return (normalized, reasons)
  | position, value :: values, normalized, reasons => do
    let (normalized, reasons) ← normalizeGpuValue position value normalized reasons
    normalizeGpuValues (position + 1) values normalized reasons

/-- `_normalize_gpu_samples`. -/
def normalizeGpuSamples (values : List (Option GpuRow)) (reasons : Dict String) :
    Except Exn (List (GpuSample Number) × Dict String) := do
  let (normalized, reasons) ← normalizeGpuValues 0 values [] reasons
  return (normalized.insertionSort fun a b => a.index ≤ b.index, reasons)

/-! ## The snapshot -/

/-- `MemoryReading()`. -/
def emptyMemory : MemoryReading (Except Exn Obj) := ⟨.ok .unsupported, .ok .unsupported, .ok .unsupported⟩

/-- `DiskThroughput()`. -/
def emptyDisk : DiskThroughput (Except Exn Obj) := ⟨.ok .unsupported, .ok .unsupported⟩

/-- Replace a value of the wrong type, noting it under `fields`. -/
def orMalformed {T : Type} (value : Option T) (default : T) (fields : List String)
    (reasons : Dict String) : T × Dict String :=
  match value with
  | some v => (v, reasons)
  | none => (default, fields.foldl (fun r f => r.set f "malformed_reading") reasons)

def memoryFields : List String := ["ram_used_bytes", "ram_available_bytes", "ram_total_bytes"]

def diskFields : List String := ["disk_read_bytes_per_sec", "disk_write_bytes_per_sec"]

/-- `_snapshot`. -/
def collect (b : Boundary) : Except Exn (TelemetrySnapshot Number) := do
  let (timestamp, reasons) := timestampOf b.clocks ∅
  let (cpu, reasons) := read b.host.cpuPercent .unsupported ["cpu_percent"] reasons
  let cpu ← number cpu 0 (some 100)
  let (load, reasons) := read b.host.loadAverage1m .unsupported ["load_average_1m"] reasons
  let load ← number load
  let (memory, reasons) := read b.host.memory (some emptyMemory) memoryFields reasons
  let (memory, reasons) := orMalformed memory emptyMemory memoryFields reasons
  let (temperature, reasons) :=
    read b.host.cpuTemperature .unsupported ["cpu_temperature_c"] reasons
  let temperature ← number temperature (-27315 / 100)
  let (disk, reasons) := read b.host.diskThroughput (some emptyDisk) diskFields reasons
  let (disk, reasons) := orMalformed disk emptyDisk diskFields reasons
  let (rss, reasons) := read b.host.processRssBytes .unsupported ["process_rss_bytes"] reasons
  let rss ← number rss
  let (gpuValues, reasons) := read b.gpu.sample [] ["gpu"] reasons
  let (gpus, reasons) ← normalizeGpuSamples gpuValues reasons
  let used ← number (← memory.usedBytes)
  let available ← number (← memory.availableBytes)
  let total ← number (← memory.totalBytes)
  let diskRead ← number (← disk.readBytesPerSec)
  let diskWrite ← number (← disk.writeBytesPerSec)
  let live : HostField → Measurement Number
    | .cpuPercent => cpu
    | .loadAverage1m => load
    | .ramUsedBytes => used
    | .ramAvailableBytes => available
    | .ramTotalBytes => total
    | .cpuTemperatureC => temperature
    | .diskReadBytesPerSec => diskRead
    | .diskWriteBytesPerSec => diskWrite
    | .processRssBytes => rss
  let reasons := markUnsupported live "sensor_unsupported" reasons
  let hostReasons ← readerReasons b.host.unavailableReasons
  let reasons := reasons.update (hostReasons.filter fun p => p.1 ∈ HostField.all.map HostField.name)
  let gpuReasons ← readerReasons b.gpu.unavailableReasons
  let reasons := reasons.update gpuReasons
  let reasons := if gpus = [] then reasons.setdefault "gpu" "no_gpus" else reasons
  return { timestamp := timestamp, host := live, gpus := gpus, reasons := reasons.sortedItems }

/-- The snapshot of the emergency path. -/
def emergencySnapshot (c : Clocks) : TelemetrySnapshot Number where
  timestamp := fallbackTimestamp c.localToUtc c.utcNowEmergency
  reasons := [("snapshot", "collector_error")]

/-- `TelemetrySnapshot.unavailable_reasons`. -/
def TelemetrySnapshot.unavailableReasons {ν : Type} (x : TelemetrySnapshot ν) : Dict String :=
  Dict.ofItems x.reasons

/-- The state a collector keeps between calls: its latest diagnostics. -/
structure TelemetryCollector where
  reasons : Dict String

namespace TelemetryCollector

/-- `unavailable_reasons`. -/
def unavailableReasons (c : TelemetryCollector) : Dict String := c.reasons

/-- `snapshot`: the result, and the collector afterwards. -/
def snapshot (_ : TelemetryCollector) (b : Boundary) : TelemetrySnapshot Number × TelemetryCollector :=
  let x := match collect b with
    | .ok x => x
    | .error _ => emergencySnapshot b.clocks
  (x, ⟨x.unavailableReasons⟩)

end TelemetryCollector

end SweatMeter
