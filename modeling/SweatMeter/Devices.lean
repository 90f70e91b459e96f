/-
  NVIDIA devices, as the two backends meet them: the tables `nvidia-smi` prints
  for a list of devices, and what an NVML binding reports of it.

  A device is given by its readings in exact arithmetic; `none` is a sensor that
  it does not support, printed `[N/A]` and raised as `NVMLError_NotSupported`.
-/
import SweatMeter.NvidiaSample
import SweatMeter.NvmlSample
import SweatMeter.Py.Numeral

namespace SweatMeter

open Py

/-! ## Devices -/

/-- A UUID, which both backends read as it stands. -/
structure Uuid where
  text : Text
  printed : Csv.Printed text
  trimmed : strip text = text
  available : casefold text ∉ unavailableMarkers.map String.toList

structure GpuDevice where
  uuid : Uuid
  /-- percent, of the GPU and of its memory -/
  utilization : Option (ℕ × ℕ)
  /-- MiB, used and total -/
  memory : Option (ℕ × ℕ)
  temperature : Option ℤ
  /-- what is printed in this column, which NVML has no call for -/
  memoryTemperature : { cell : Text // Csv.Printed cell }
  /-- tens of milliwatts -/
  power : Option ℕ
  powerLimit : Option ℕ
  fan : Option ℕ
  smClock : Option ℕ
  memoryClock : Option ℕ
  /-- throttle reasons -/
  supported : ℕ
  current : ℕ
  temperature_ge : ∀ t ∈ temperature, -273 ≤ t

namespace GpuDevice

variable (d : GpuDevice)

/-- The number NVML reports for a field, if the device supports it. -/
def reported : GpuField → Option ℤ
  | .utilizationPercent => (d.utilization.map Prod.fst).map fun n : ℕ => (n : ℤ)
  | .memoryUtilizationPercent => (d.utilization.map Prod.snd).map fun n : ℕ => (n : ℤ)
  | .vramUsedBytes => (d.memory.map Prod.fst).map fun m : ℕ => (m * 2 ^ 20 : ℤ)
  | .vramTotalBytes => (d.memory.map Prod.snd).map fun m : ℕ => (m * 2 ^ 20 : ℤ)
  | .temperatureC => d.temperature
  | .memoryTemperatureC => none
  | .powerWatts => d.power.map fun p : ℕ => (10 * p : ℤ)
  | .powerLimitWatts => d.powerLimit.map fun p : ℕ => (10 * p : ℤ)
  | .fanPercent => d.fan.map fun n : ℕ => (n : ℤ)
  | .coreClockMhz => d.smClock.map fun n : ℕ => (n : ℤ)
  | .memoryClockMhz => d.memoryClock.map fun n : ℕ => (n : ℤ)

/-- The exact value of a field, if the device supports it. -/
def value (f : GpuField) : Option ℚ := (d.reported f).map fun n : ℤ => n / f.nvmlScale

/-- Every reported number fits a double. -/
def InRange : Prop := ∀ f, ∀ n ∈ d.reported f, n.natAbs < doubleLimit

end GpuDevice

/-! ## What nvidia-smi prints -/

def printCell {T : Type} (render : T → Text) : Option T → Text
  | none => "[N/A]".toList
  | some x => render x

/-- The bit of a named throttle reason. -/
def throttleBit (name : String) : ℕ := (throttleBits.lookup name).getD 0

namespace GpuDevice

variable (d : GpuDevice)

/-- The cell of a field. -/
def cell : GpuField → Text
  | .utilizationPercent => printCell numeral (d.utilization.map Prod.fst)
  | .memoryUtilizationPercent => printCell numeral (d.utilization.map Prod.snd)
  | .vramUsedBytes => printCell numeral (d.memory.map Prod.fst)
  | .vramTotalBytes => printCell numeral (d.memory.map Prod.snd)
  | .temperatureC => printCell intNumeral d.temperature
  | .memoryTemperatureC => d.memoryTemperature.1
  | .powerWatts => printCell hundredths d.power
  | .powerLimitWatts => printCell hundredths d.powerLimit
  | .fanPercent => printCell numeral d.fan
  | .coreClockMhz => printCell numeral d.smClock
  | .memoryClockMhz => printCell numeral d.memoryClock

/-- The device's row of the sample table. -/
def sampleCells (index : ℕ) : List Text :=
  numeral index :: d.uuid.text :: GpuField.all.map d.cell

/-- The cell of a throttle reason. -/
def throttleCell (name : String) : Text :=
  if d.supported &&& throttleBit name = 0 then "[N/A]".toList
  else if d.current &&& throttleBit name = 0 then "Not Active".toList
  else "Active".toList

/-- The device's row of the throttle table. -/
def throttleCells (index : ℕ) : List Text :=
  numeral index :: throttleFields.map fun p => d.throttleCell p.1

end GpuDevice

/-- The rows of a table, by index. -/
def entries (cells : GpuDevice → ℕ → List Text) (ds : List GpuDevice) : List (ℤ × List Text) :=
  ds.zipIdx.map fun p => ((p.2 : ℤ), cells p.1 p.2)

/-- The size of the sample table. -/
def sampleTableBytes (ds : List GpuDevice) : ℕ :=
  utf8Length (table ((entries GpuDevice.sampleCells ds).map Prod.snd))

/-- The size of the throttle table. -/
def throttleTableBytes (ds : List GpuDevice) : ℕ :=
  utf8Length (table ((entries GpuDevice.throttleCells ds).map Prod.snd))

/-- The command prints this table, its lines in any order. -/
def SmiCommand.PrintsRows (command : SmiCommand) (cells : GpuDevice → ℕ → List Text)
    (ds : List GpuDevice) : Prop :=
  ∃ rows, rows.Perm ((entries cells ds).map Prod.snd) ∧ command.PrintsTable rows

/-- `nvidia-smi` prints the tables of these devices. -/
structure SmiCall.Prints (c : SmiCall) (ds : List GpuDevice) : Prop where
  sample : (c.command (queryArguments sampleFields)).PrintsRows GpuDevice.sampleCells ds
  throttle : (c.command (queryArguments throttleColumns)).PrintsRows GpuDevice.throttleCells ds

/-! ## What NVML reports -/

/-- A call answers this reading, or raises if there is none. -/
def Answers {T : Type} (call : Except Exn NvmlObject) (reading : Option T)
    (holds : T → NvmlObject → Prop) : Prop :=
  match reading with
  | none => call = .error ⟨"NVMLError_NotSupported"⟩
  | some x => ∃ o, call = .ok o ∧ holds x o

/-- The answer is this number. -/
def IsNumber (n : ℤ) (o : NvmlObject) : Prop := o.obj = .num (.int n)

/-- An attribute of the answer is this number. -/
def HasNumber (name : String) (n : ℤ) (o : NvmlObject) : Prop :=
  o.attr name = .value (.num (.int n))

namespace NvmlBinding

variable (B : NvmlBinding)

/-- The binding reports this device under this index. -/
structure ReportsDevice (i : ℕ) (d : GpuDevice) : Prop where
  handle : B.Addressable i
  uuid : ∃ o, B.sensor .uuid i = .ok o ∧
    (o.obj = .str (String.ofList d.uuid.text) ∨ o.obj = .bytes (String.ofList d.uuid.text))
  utilization : Answers (B.sensor .utilizationRates i) d.utilization fun u o =>
    HasNumber "gpu" u.1 o ∧ HasNumber "memory" u.2 o
  memory : Answers (B.sensor .memoryInfo i) d.memory fun m o =>
    HasNumber "used" (m.1 * 2 ^ 20) o ∧ HasNumber "total" (m.2 * 2 ^ 20) o
  temperature : Answers (B.sensor .temperature i) d.temperature IsNumber
  power : Answers (B.sensor .powerUsage i) d.power fun p => IsNumber (10 * p)
  powerLimit : Answers (B.sensor .enforcedPowerLimit i) d.powerLimit fun p => IsNumber (10 * p)
  fan : Answers (B.sensor .fanSpeed i) d.fan fun n => IsNumber n
  smClock : Answers (B.sensor .smClock i) d.smClock fun n => IsNumber n
  memoryClock : Answers (B.sensor .memoryClock i) d.memoryClock fun n => IsNumber n
  supported : ∃ o, B.sensor .supportedThrottleReasons i = .ok o ∧ IsNumber d.supported o
  current : ∃ o, B.sensor .currentThrottleReasons i = .ok o ∧ IsNumber d.current o

/-- The binding reports these devices. -/
structure Reports (ds : List GpuDevice) : Prop where
  init : B.Initializes
  count : ∃ run o, B.function .nvmlDeviceGetCount = .callable run ∧ run {} = .ok o ∧
    IsNumber ds.length o
  devices : ∀ i d, ds[i]? = some d → B.ReportsDevice i d

end NvmlBinding

/-! ## A machine with these devices -/

/-- `nvidia-smi` for these devices. -/
def printing (ds : List GpuDevice) : SmiCall where
  command arguments := {
    resolver := .executable (some "/usr/bin/nvidia-smi")
    runner := .completed 0 (table ((entries
      (if arguments = queryArguments sampleFields then GpuDevice.sampleCells
        else GpuDevice.throttleCells) ds).map Prod.snd)) }

theorem prints_printing (ds : List GpuDevice) : (printing ds).Prints ds where
  sample := by
    refine ⟨_, .refl _, ⟨_, rfl, by simp⟩, ?_⟩
    simp only [printing, ↓reduceIte]
  throttle := by
    have hne : queryArguments throttleColumns ≠ queryArguments sampleFields := by decide +kernel
    refine ⟨_, .refl _, ⟨_, rfl, by simp⟩, ?_⟩
    simp only [printing, hne, ↓reduceIte]

/-- An answer, or `NVMLError_NotSupported`. -/
def answering {T : Type} (reading : Option T) (o : T → NvmlObject) : Except Exn NvmlObject :=
  match reading with
  | none => .error ⟨"NVMLError_NotSupported"⟩
  | some x => .ok (o x)

def oneNumber (n : ℤ) : NvmlObject := { obj := .num (.int n) }

/-- An object with two numeric attributes. -/
def twoNumbers (name name' : String) (n n' : ℤ) : NvmlObject where
  obj := .other
  attr key :=
    if key = name then .value (.num (.int n))
    else if key = name' then .value (.num (.int n'))
    else .absent

/-- A sensor call on a device. -/
def GpuDevice.call (d : GpuDevice) (constant : Option Obj) : NvmlFunction → Except Exn NvmlObject
  | .nvmlDeviceGetUUID => .ok { obj := .str (String.ofList d.uuid.text) }
  | .nvmlDeviceGetUtilizationRates => answering d.utilization fun u => twoNumbers "gpu" "memory" u.1 u.2
  | .nvmlDeviceGetMemoryInfo => answering d.memory fun m =>
    twoNumbers "used" "total" (m.1 * 2 ^ 20) (m.2 * 2 ^ 20)
  | .nvmlDeviceGetTemperature => answering d.temperature oneNumber
  | .nvmlDeviceGetPowerUsage => answering d.power fun p => oneNumber (10 * p)
  | .nvmlDeviceGetEnforcedPowerLimit => answering d.powerLimit fun p => oneNumber (10 * p)
  | .nvmlDeviceGetFanSpeed => answering d.fan fun n => oneNumber n
  | .nvmlDeviceGetClockInfo =>
    if constant = some (.num (.int 1)) then answering d.smClock fun n => oneNumber n
    else answering d.memoryClock fun n => oneNumber n
  | .nvmlDeviceGetSupportedClocksThrottleReasons => .ok (oneNumber d.supported)
  | .nvmlDeviceGetCurrentClocksThrottleReasons => .ok (oneNumber d.current)
  | _ => .error ⟨"NVMLError_NotSupported"⟩

/-- NVML for these devices. -/
def reporting (ds : List GpuDevice) : NvmlBinding where
  function
    | .nvmlInit | .nvmlShutdown => .callable fun _ => .ok .none
    | .nvmlDeviceGetCount => .callable fun _ => .ok (oneNumber ds.length)
    | .nvmlDeviceGetHandleByIndex => .callable fun _ => .ok { obj := .other }
    | f => .callable fun args => match args.device.bind (ds[·]?) with
      | none => .error ⟨"NVMLError_InvalidArgument"⟩
      | some d => d.call args.constant f
  constant
    | .NVML_TEMPERATURE_GPU => some (.num (.int 0))
    | .NVML_CLOCK_SM => some (.num (.int 1))
    | .NVML_CLOCK_MEM => some (.num (.int 2))

theorem answers_answering {T : Type} {reading : Option T} {o : T → NvmlObject}
    {holds : T → NvmlObject → Prop} (h : ∀ x, holds x (o x)) :
    Answers (answering reading o) reading holds := by
  cases reading with
  | none => rfl
  | some x => exact ⟨o x, rfl, h x⟩

theorem sensor_reporting {ds : List GpuDevice} {i : ℕ} {d : GpuDevice} (h : ds[i]? = some d)
    (c : SensorCall) :
    (reporting ds).sensor c i =
      d.call (c.constant.bind (reporting ds).constant) c.function := by
  cases c <;>
    simp [NvmlBinding.sensor, NvmlBinding.invoke, SensorCall.function, SensorCall.constant,
      reporting, h]

theorem reports_reporting (ds : List GpuDevice) : (reporting ds).Reports ds where
  init := ⟨fun _ => .ok .none, .none, rfl, rfl⟩
  count := ⟨fun _ => .ok (oneNumber ds.length), oneNumber ds.length, rfl, rfl, rfl⟩
  devices i d hd := {
    handle := by rintro ⟨⟩
    uuid := ⟨_, sensor_reporting hd .uuid, .inl rfl⟩
    utilization := by
      rw [sensor_reporting hd]
      exact answers_answering fun _ => ⟨rfl, rfl⟩
    memory := by
      rw [sensor_reporting hd]
      exact answers_answering fun _ => ⟨rfl, rfl⟩
    temperature := by
      rw [sensor_reporting hd]
      exact answers_answering fun _ => rfl
    power := by
      rw [sensor_reporting hd]
      exact answers_answering fun _ => rfl
    powerLimit := by
      rw [sensor_reporting hd]
      exact answers_answering fun _ => rfl
    fan := by
      rw [sensor_reporting hd]
      exact answers_answering fun _ => rfl
    smClock := by
      rw [sensor_reporting hd]
      exact answers_answering fun _ => rfl
    memoryClock := by
      rw [sensor_reporting hd]
      exact answers_answering fun _ => rfl
    supported := ⟨_, sensor_reporting hd .supportedThrottleReasons, rfl⟩
    current := ⟨_, sensor_reporting hd .currentThrottleReasons, rfl⟩ }

/-- A device without sensors or throttle reasons. -/
def bareDevice : GpuDevice where
  uuid := ⟨"GPU-0".toList, Csv.printed_word (by decide) (by decide) rfl (by decide), by decide, by decide⟩
  utilization := none
  memory := none
  temperature := none
  memoryTemperature := ⟨"[N/A]".toList, Csv.printed_word (by decide) (by decide) rfl (by decide)⟩
  power := none
  powerLimit := none
  fan := none
  smClock := none
  memoryClock := none
  supported := 0
  current := 0
  temperature_ge := by rintro t ⟨⟩

end SweatMeter
