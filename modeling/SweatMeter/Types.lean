/-
  The observations SweatMeter's readers and collectors return.

  The numeric fields of a record are a function of the field; the number type is
  a parameter, so that the collector can hand out Python numbers and the window
  aggregates can work on exact ones.  `none` is the `UNSUPPORTED` sentinel.
-/
import SweatMeter.Py.Number
import SweatMeter.Py.Time

namespace SweatMeter

open Py

/-- `baseaicore.Measurement`: a number, or `none` for `UNSUPPORTED`. -/
abbrev Measurement (ν : Type) := Option ν

/-- The measurements of a `GpuSample` (`_GPU_MEASUREMENT_FIELDS`). -/
inductive GpuField where
  | utilizationPercent
  | memoryUtilizationPercent
  | vramUsedBytes
  | vramTotalBytes
  | temperatureC
  | memoryTemperatureC
  | powerWatts
  | powerLimitWatts
  | fanPercent
  | coreClockMhz
  | memoryClockMhz
  deriving DecidableEq

/-- The field's name in the source. -/
def GpuField.name : GpuField → String
  | utilizationPercent => "utilization_percent"
  | memoryUtilizationPercent => "memory_utilization_percent"
  | vramUsedBytes => "vram_used_bytes"
  | vramTotalBytes => "vram_total_bytes"
  | temperatureC => "temperature_c"
  | memoryTemperatureC => "memory_temperature_c"
  | powerWatts => "power_watts"
  | powerLimitWatts => "power_limit_watts"
  | fanPercent => "fan_percent"
  | coreClockMhz => "core_clock_mhz"
  | memoryClockMhz => "memory_clock_mhz"

/-- All fields, in declaration order. -/
def GpuField.all : List GpuField :=
  [utilizationPercent, memoryUtilizationPercent, vramUsedBytes, vramTotalBytes, temperatureC,
    memoryTemperatureC, powerWatts, powerLimitWatts, fanPercent, coreClockMhz, memoryClockMhz]

theorem GpuField.mem_all (f : GpuField) : f ∈ all := by cases f <;> decide

/-- One per-device GPU reading. -/
structure GpuSample (ν : Type) where
  index : ℤ
  uuid : Option String := none
  measurement : GpuField → Measurement ν := fun _ => none
  throttleReasons : List String := []
  throttleReasonsAvailable : Bool := false

/-- One reading of system memory. -/
structure MemoryReading (μ : Type) where
  totalBytes : μ
  availableBytes : μ
  usedBytes : μ

/-- Whole-device disk throughput between two samples. -/
structure DiskThroughput (μ : Type) where
  readBytesPerSec : μ
  writeBytesPerSec : μ

/-- The live host measurements of a snapshot. -/
inductive HostField where
  | cpuPercent
  | loadAverage1m
  | ramUsedBytes
  | ramAvailableBytes
  | ramTotalBytes
  | cpuTemperatureC
  | diskReadBytesPerSec
  | diskWriteBytesPerSec
  | processRssBytes
  deriving DecidableEq

/-- The field's name in the source. -/
def HostField.name : HostField → String
  | cpuPercent => "cpu_percent"
  | loadAverage1m => "load_average_1m"
  | ramUsedBytes => "ram_used_bytes"
  | ramAvailableBytes => "ram_available_bytes"
  | ramTotalBytes => "ram_total_bytes"
  | cpuTemperatureC => "cpu_temperature_c"
  | diskReadBytesPerSec => "disk_read_bytes_per_sec"
  | diskWriteBytesPerSec => "disk_write_bytes_per_sec"
  | processRssBytes => "process_rss_bytes"

/-- All fields, in declaration order. -/
def HostField.all : List HostField :=
  [cpuPercent, loadAverage1m, ramUsedBytes, ramAvailableBytes, ramTotalBytes, cpuTemperatureC,
    diskReadBytesPerSec, diskWriteBytesPerSec, processRssBytes]

theorem HostField.mem_all (f : HostField) : f ∈ all := by cases f <;> decide

/-- One complete observation.  Its timestamp is aware by construction; `reasons`
    are the diagnostics of the unavailable fields. -/
structure TelemetrySnapshot (ν : Type) where
  timestamp : Datetime
  host : HostField → Measurement ν := fun _ => none
  gpus : List (GpuSample ν) := []
  reasons : List (String × String) := []

end SweatMeter
