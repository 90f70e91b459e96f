/-
  The command backend (`NvidiaSmiReader`) over arbitrary command outcomes.
-/
import Mathlib.Algebra.Order.Floor.Ring
import Mathlib.Data.Rat.Floor
import SweatMeter.Py.Csv
import SweatMeter.Py.Logged
import SweatMeter.Types

namespace SweatMeter

open Py

/-! ## Commands -/

/-- What the executable resolver does. -/
inductive Resolved where
  | permissionError
  | osError
  | raises (e : Exn)
  | executable (path : Option String)

/-- What the process runner does.  `osError` is any other `OSError`, or a
    `SubprocessError` that is no time-out. -/
inductive Completed where
  | timeoutExpired
  | fileNotFoundError
  | permissionError
  | osError
  | raises (e : Exn)
  | completed (returncode : ℤ) (stdout : Text)

structure SmiCommand where
  resolver : Resolved
  runner : Completed

/-- A reader's settings, and what each command does in one call, by its arguments. -/
structure SmiCall where
  maxOutputBytes : ℕ := 1000000
  command : List String → SmiCommand

/-- `_invoke`: bounded output, or a reason code. -/
def SmiCall.invoke (c : SmiCall) (arguments : List String) : Except Exn (Except String Text) :=
  let command := c.command arguments
  match command.resolver with
  | .permissionError => .ok (.error "permission_denied")
  | .osError => .ok (.error "nvidia_smi_not_found")
  | .raises e => .error e
  | .executable path =>
    if path = none ∨ path = some "" then .ok (.error "nvidia_smi_not_found")
    else match command.runner with
      | .timeoutExpired => .ok (.error "nvidia_smi_timeout")
      | .fileNotFoundError => .ok (.error "nvidia_smi_not_found")
      | .permissionError => .ok (.error "permission_denied")
      | .osError => .ok (.error "nvidia_smi_unavailable")
      | .raises e => .error e
      | .completed returncode stdout =>
        if returncode ≠ 0 then .ok (.error "nvidia_smi_failed")
        else if c.maxOutputBytes < utf8Length stdout then .ok (.error "nvidia_smi_output_too_large")
        else .ok (.ok stdout)

/-! ## Rows -/

/-- `_UNAVAILABLE_MARKERS`. -/
def unavailableMarkers : List String :=
  ["", "n/a", "[n/a]", "not available", "[not available]", "not supported", "[not supported]",
    "unsupported", "[unsupported]"]

/-- A stripped cell, or `none` for an unavailable one. -/
def parseCell (cell : Text) : Option Text :=
  if casefold (strip cell) ∈ unavailableMarkers.map String.toList then none else some (strip cell)

/-- The cells of a row by column. -/
abbrev SmiRow := List (String × Option Text)

/-- The rows, and how many lines are malformed. -/
def parseLines (columns : List String) : List Text → List SmiRow × ℕ
  | [] => ([], 0)
  | line :: lines =>
    let (rows, malformed) := parseLines columns lines
    if strip line = [] then (rows, malformed)
    else match Csv.readLine line with
      | .error _ => (rows, malformed + 1)
      | .ok cells => (columns.zip (cells.map parseCell) :: rows, malformed)

/-- `_parse_nvidia_csv`. -/
def parseNvidiaCsv (output : Text) (columns : List String) : List SmiRow × ℕ :=
  parseLines columns (splitlines output)

def queryArguments (fields : List String) : List String :=
  ["--query-gpu=" ++ ",".intercalate fields, "--format=csv,noheader,nounits"]

/-- `_query`. -/
def query (c : SmiCall) (fields : List String) (key : String) : Diagnosed (List SmiRow) := do
  match ← .lift (c.invoke (queryArguments fields)) with
  | .error reason => do
    setReason key reason
    return []
  | .ok output => do
    let parsed := parseNvidiaCsv output fields
    setDefaultReasonIf (parsed.2 ≠ 0) key "malformed_csv"
    return parsed.1

/-- The index of a row; `-1` if it is malformed. -/
def smiRowIndex (row : SmiRow) : ℤ :=
  match row.lookup "index" with
  | some (some text) => match toInt text with
    | .ok index => index
    | .error _ => -1
  | _ => -1

/-- The loop of `_rows_by_index`, from this row on. -/
def indexRows (scope : String) : ℕ → List SmiRow → List (ℤ × SmiRow) → Diagnosed (List (ℤ × SmiRow))
  | _, [], indexed => return indexed
  | number, row :: rows, indexed => do
    let index := smiRowIndex row
    if index < 0 then do
      setReason s!"{scope}.row.{number}.index" "malformed_value"
      indexRows scope (number + 1) rows indexed
    else if index ∈ indexed.map Prod.fst then do
      setReason s!"{scope}.row.{number}.index" "duplicate_gpu_index"
      indexRows scope (number + 1) rows indexed
    else indexRows scope (number + 1) rows (indexed ++ [(index, row)])

/-- `_rows_by_index`. -/
def rowsByIndex (rows : List SmiRow) (scope : String) : Diagnosed (List (ℤ × SmiRow)) :=
  indexRows scope 0 rows []

/-! ## Fields -/

/-- `_optional_text`. -/
def optionalText (row : SmiRow) (column : String) (index : ℤ) (field : String) :
    Diagnosed (Option Text) :=
  match row.lookup column with
  | none => do
    setReason s!"gpu.{index}.{field}" "field_missing"
    return none
  | some none => do
    setReason s!"gpu.{index}.{field}" "sensor_unsupported"
    return none
  | some (some text) => return some text

/-- The measurement in a cell, or the reason it is unsupported. -/
def cellMeasurement (cell : Option (Option Text)) (maximum : Option ℚ) (mibToBytes : Bool) :
    Except String Number :=
  match cell with
  | none => .error "field_missing"
  | some none => .error "sensor_unsupported"
  | some (some text) => match toFloat text with
    | .error _ => .error "malformed_value"
    | .ok (.finite q) =>
      if q < 0 ∨ maximum.any (· < q) then .error "out_of_range"
      else if !mibToBytes then .ok (.float (.finite q))
      else match toDouble (q * (1024 * 1024)) with
        | .finite bytes => .ok (.int ⌊bytes⌋)
        | _ => .error "out_of_range"
    | .ok _ => .error "out_of_range"

/-- `_measurement`. -/
def smiMeasurement (row : SmiRow) (column : String) (index : ℤ) (field : GpuField)
    (maximum : Option ℚ := none) (mibToBytes : Bool := false) : Diagnosed (Measurement Number) :=
  match cellMeasurement (row.lookup column) maximum mibToBytes with
  | .ok x => return some x
  | .error reason => do
    setReason s!"gpu.{index}.{field.name}" reason
    return none

/-- `_THROTTLE_FIELDS`. -/
def throttleFields : List (String × String) := [
  ("gpu_idle", "clocks_throttle_reasons.gpu_idle"),
  ("applications_clocks_setting", "clocks_throttle_reasons.applications_clocks_setting"),
  ("sw_power_cap", "clocks_throttle_reasons.sw_power_cap"),
  ("hw_slowdown", "clocks_throttle_reasons.hw_slowdown"),
  ("hw_thermal_slowdown", "clocks_throttle_reasons.hw_thermal_slowdown"),
  ("hw_power_brake_slowdown", "clocks_throttle_reasons.hw_power_brake_slowdown"),
  ("sync_boost", "clocks_throttle_reasons.sync_boost"),
  ("sw_thermal_slowdown", "clocks_throttle_reasons.sw_thermal_slowdown")]

/-- `_THROTTLE_COLUMNS`. -/
def throttleColumns : List String := "index" :: throttleFields.map Prod.snd

/-- The folded text of a throttle column, if there is any. -/
def throttleState (row : SmiRow) (column : String) : Option Text :=
  match row.lookup column with
  | some (some text) => some (casefold text)
  | _ => none

/-- The active reasons of a row, and whether any column is recognized. -/
def rowThrottle (row : SmiRow) : List String × Bool :=
  let active := throttleFields.filter fun p => throttleState row p.2 = some "active".toList
  let recognized := throttleFields.any fun p =>
    throttleState row p.2 = some "active".toList ∨ throttleState row p.2 = some "not active".toList
  (active.map Prod.fst, recognized)

/-- `_throttle_reasons`. -/
def smiThrottleReasons (row : Option SmiRow) (index : ℤ) : Diagnosed (List String × Bool) :=
  match row with
  | none => do
    setReason s!"gpu.{index}.throttle_reasons" "sensor_unsupported"
    return ([], false)
  | some row => do
    .note fun r => if (rowThrottle row).2 then r
      else r.set s!"gpu.{index}.throttle_reasons" "sensor_unsupported"
    return rowThrottle row

/-- `_sample_from_row`. -/
def sampleFromRow (row : SmiRow) (index : ℤ) (reasons : List String × Bool) :
    Diagnosed (GpuSample Number) := do
  let uuid ← optionalText row "uuid" index "uuid"
  let gpu ← smiMeasurement row "utilization.gpu" index .utilizationPercent (some 100)
  let mem ← smiMeasurement row "utilization.memory" index .memoryUtilizationPercent (some 100)
  let used ← smiMeasurement row "memory.used" index .vramUsedBytes none true
  let total ← smiMeasurement row "memory.total" index .vramTotalBytes none true
  let temperature ← smiMeasurement row "temperature.gpu" index .temperatureC
  let memoryTemperature ← smiMeasurement row "temperature.memory" index .memoryTemperatureC
  let power ← smiMeasurement row "power.draw" index .powerWatts
  let limit ← smiMeasurement row "power.limit" index .powerLimitWatts
  let fan ← smiMeasurement row "fan.speed" index .fanPercent (some 100)
  let core ← smiMeasurement row "clocks.current.sm" index .coreClockMhz
  let clock ← smiMeasurement row "clocks.current.memory" index .memoryClockMhz
  return {
    index := index
    uuid := uuid.map String.ofList
    measurement := fun
      | .utilizationPercent => gpu
      | .memoryUtilizationPercent => mem
      | .vramUsedBytes => used
      | .vramTotalBytes => total
      | .temperatureC => temperature
      | .memoryTemperatureC => memoryTemperature
      | .powerWatts => power
      | .powerLimitWatts => limit
      | .fanPercent => fan
      | .coreClockMhz => core
      | .memoryClockMhz => clock
    throttleReasons := reasons.1
    throttleReasonsAvailable := reasons.2 }

/-! ## The operations -/

/-- `_SAMPLE_FIELDS`. -/
def sampleFields : List String :=
  ["index", "uuid", "utilization.gpu", "utilization.memory", "memory.used", "memory.total",
    "temperature.gpu", "temperature.memory", "power.draw", "power.limit", "fan.speed",
    "clocks.current.sm", "clocks.current.memory"]

/-- `setdefault("gpu", ...)` for an operation that finds no row. -/
def noRows : Diagnosed Unit := .note fun r =>
  r.setdefault "gpu" (if r.isEmpty then "no_nvidia_gpus" else "malformed_csv")

/-- The samples of these rows, with the rows of the throttle query. -/
def sampleRows (throttleRows : List (ℤ × SmiRow)) : List (ℤ × SmiRow) →
    Diagnosed (List (GpuSample Number))
  | [] => return []
  | (index, row) :: rows => do
    let reasons ← smiThrottleReasons (throttleRows.lookup index) index
    let sample ← sampleFromRow row index reasons
    let rest ← sampleRows throttleRows rows
    return sample :: rest

/-- `sample`, after the diagnostics are cleared. -/
def SmiCall.sample (c : SmiCall) : Diagnosed (List (GpuSample Number)) := do
  let rows ← query c sampleFields "gpu"
  let coreRows ← rowsByIndex rows "gpu.sample"
  if coreRows = [] then do
    noRows
    return []
  else do
    let rows ← query c throttleColumns "gpu.throttle_reasons"
    let throttleRows ← rowsByIndex rows "gpu.throttle"
    sampleRows throttleRows (coreRows.insertionSort fun a b => a.1 ≤ b.1)

/-- `available`, after the diagnostics are cleared. -/
def SmiCall.available (c : SmiCall) : Diagnosed Bool := do
  let rows ← query c ["index"] "gpu"
  let indexed ← rowsByIndex rows "gpu.probe"
  if indexed ≠ [] then return true
  else do
    setDefaultReason "gpu" (if rows ≠ [] then "malformed_csv" else "no_nvidia_gpus")
    return false

end SweatMeter
