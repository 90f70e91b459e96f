/-
  What the operations of `NvmlGpuReader` compute: each field of a sample is a
  function of the sensor call that feeds it (`SampleOf`), and a sample is taken of
  every addressable device in turn (`SamplesOf`).
-/
import SweatMeter.Nvml

namespace SweatMeter

open Py

/-! ## Guarded calls -/

/-- What a guarded operation goes on with. -/
def guarded (operation : Option (Except Exn NvmlObject)) : NvmlObject :=
  match operation with
  | some (.ok value) => value
  | _ => .none

@[simp] theorem attempt_outcome (operation : Option (Except Exn NvmlObject)) (key : String) :
    (attempt operation key).outcome = .ok (guarded operation) := by
  match operation with
  | none => rfl
  | some (.error _) => rfl
  | some (.ok _) => rfl

/-! ## Numbers -/

theorem isfinite_div {x : Number} (h : x.isfinite = .ok true) (q : ℚ) :
    (x.div q).isfinite = .ok true := by
  cases x with
  | int n => rfl
  | float d => cases d with
    | finite r => rfl
    | nan => cases h
    | inf neg => cases h

theorem nvmlNumber_eq {x : Number} (h : x.isfinite = .ok true) (scale lo : ℚ) (hi : Option ℚ) :
    nvmlNumber (.num x) scale lo hi =
      let scaled := if scale = 1 then x else x.div scale
      .ok (if scaled.ltRat lo ∨ hi.any scaled.gtRat then none else some scaled) := by
  have hs : (if scale = 1 then x else x.div scale).isfinite = .ok true := by
    split
    · exact h
    · exact isfinite_div h scale
  simp only [nvmlNumber, h, hs, ok_bind, Bool.not_true, Bool.false_eq_true, ↓reduceIte,
    Bool.false_or]
  generalize (if scale = 1 then x else x.div scale) = y
  by_cases hlo : y.ltRat lo
  · simp only [hlo, ↓reduceIte, true_or]; rfl
  · by_cases hhi : hi.any y.gtRat
    · simp only [hlo, hhi, ↓reduceIte, or_true, Bool.false_eq_true]; rfl
    · simp only [hlo, hhi, ↓reduceIte, or_self, Bool.false_eq_true]; rfl

theorem nvmlNumber_of_not_finite {x : Number} (h : x.isfinite = .ok false) (scale lo : ℚ)
    (hi : Option ℚ) : nvmlNumber (.num x) scale lo hi = .ok none := by
  simp only [nvmlNumber, h, ok_bind, Bool.not_false, ↓reduceIte]; rfl

theorem returns_nvmlNumber {value : Obj} {scale lo : ℚ} {hi : Option ℚ} :
    Returns (nvmlNumber value scale lo hi) ↔ Fits value := by
  cases value with
  | num x =>
    rw [← returns_isfinite]
    cases h : x.isfinite with
    | error e => exact iff_of_false (by simp [nvmlNumber, h, not_returns_error]) (not_returns_error e)
    | ok fin => cases fin with
      | true => rw [nvmlNumber_eq h]; exact iff_of_true (returns_ok _) (returns_ok _)
      | false => rw [nvmlNumber_of_not_finite h]; exact iff_of_true (returns_ok _) (returns_ok _)
  | _ => exact iff_of_true (returns_ok _) trivial

/-! ## One device -/

/-- The calls that feed a sample. -/
inductive SensorCall where
  | memoryInfo
  | utilizationRates
  | supportedThrottleReasons
  | currentThrottleReasons
  | uuid
  | temperature
  | powerUsage
  | enforcedPowerLimit
  | fanSpeed
  | smClock
  | memoryClock
  deriving DecidableEq

def SensorCall.function : SensorCall → NvmlFunction
  | memoryInfo => .nvmlDeviceGetMemoryInfo
  | utilizationRates => .nvmlDeviceGetUtilizationRates
  | supportedThrottleReasons => .nvmlDeviceGetSupportedClocksThrottleReasons
  | currentThrottleReasons => .nvmlDeviceGetCurrentClocksThrottleReasons
  | uuid => .nvmlDeviceGetUUID
  | temperature => .nvmlDeviceGetTemperature
  | powerUsage => .nvmlDeviceGetPowerUsage
  | enforcedPowerLimit => .nvmlDeviceGetEnforcedPowerLimit
  | fanSpeed => .nvmlDeviceGetFanSpeed
  | smClock | memoryClock => .nvmlDeviceGetClockInfo

def SensorCall.constant : SensorCall → Option NvmlConstant
  | temperature => some .NVML_TEMPERATURE_GPU
  | smClock => some .NVML_CLOCK_SM
  | memoryClock => some .NVML_CLOCK_MEM
  | _ => none

/-- The call that feeds a field. -/
def GpuField.call : GpuField → Option SensorCall
  | utilizationPercent | memoryUtilizationPercent => some .utilizationRates
  | vramUsedBytes | vramTotalBytes => some .memoryInfo
  | temperatureC => some .temperature
  | memoryTemperatureC => none
  | powerWatts => some .powerUsage
  | powerLimitWatts => some .enforcedPowerLimit
  | fanPercent => some .fanSpeed
  | coreClockMhz => some .smClock
  | memoryClockMhz => some .memoryClock

/-- The attribute of the answer that a field is read from. -/
def GpuField.attribute : GpuField → Option String
  | utilizationPercent => some "gpu"
  | memoryUtilizationPercent => some "memory"
  | vramUsedBytes => some "used"
  | vramTotalBytes => some "total"
  | _ => none

def GpuField.nvmlScale : GpuField → ℚ
  | powerWatts | powerLimitWatts => 1000
  | _ => 1

def GpuField.nvmlMinimum : GpuField → ℚ
  | temperatureC => -27315 / 100
  | _ => 0

def GpuField.nvmlMaximum : GpuField → Option ℚ
  | utilizationPercent | memoryUtilizationPercent | fanPercent => some 100
  | _ => none

namespace NvmlBinding

variable (B : NvmlBinding)

def sensor (call : SensorCall) (device : ℕ) : Except Exn NvmlObject :=
  B.invoke call.function device call.constant

/-- What a sensor call yields once guarded. -/
def answer (call : SensorCall) (device : ℕ) : NvmlObject := guarded (some (B.sensor call device))

/-- The value a field is read from. -/
def fieldValue (device : ℕ) (f : GpuField) : Except Exn Obj :=
  match f.call, f.attribute with
  | none, _ => .ok .none
  | some call, none => .ok (B.answer call device).obj
  | some call, some name => ((B.answer call device).attr name).get

def measurement (device : ℕ) (f : GpuField) : Except Exn (Measurement Number) := do
  nvmlNumber (← B.fieldValue device f) f.nvmlScale f.nvmlMinimum f.nvmlMaximum

/-- The throttle reasons of a device. -/
def throttle (device : ℕ) : List String × Bool :=
  match throttleMasks (B.answer .supportedThrottleReasons device).obj
    (B.answer .currentThrottleReasons device).obj with
  | none => ([], false)
  | some (supported, current) => (activeBits supported current, true)

/-- The sample that a device's sensors make. -/
structure SampleOf (device : ℕ) (s : GpuSample Number) : Prop where
  index : s.index = device
  uuid : s.uuid = nvmlText (B.answer .uuid device).obj
  measurement : ∀ f, B.measurement device f = .ok (s.measurement f)
  throttle : (s.throttleReasons, s.throttleReasonsAvailable) = B.throttle device

end NvmlBinding

open NvmlBinding

theorem memory_ok {B : NvmlBinding} {device : ℕ} {name : String}
    {p : Measurement Number × Measurement Number} :
    (memory B device name).outcome = .ok p ↔
      B.measurement device .vramUsedBytes = .ok p.1 ∧
        B.measurement device .vramTotalBytes = .ok p.2 := by
  unfold memory
  constructor
  · intro h
    have h := (Logged.bind_of_ok (attempt_outcome _ _)).1 h
    obtain ⟨used, hused, h⟩ := Logged.bind_ok.1 h
    obtain ⟨total, htotal, h⟩ := Logged.bind_ok.1 h
    cases h
    exact ⟨hused, htotal⟩
  · rintro ⟨hused, htotal⟩
    refine (Logged.bind_of_ok (attempt_outcome _ _)).2 ?_
    exact Logged.bind_ok.2 ⟨_, hused, Logged.bind_ok.2 ⟨_, htotal, rfl⟩⟩

theorem throttleReasons_outcome (B : NvmlBinding) (device : ℕ) (name : String) :
    (throttleReasons B device name).outcome = .ok (B.throttle device) := by
  simp only [throttleReasons, Logged.outcome_bind, attempt_outcome, ok_bind]
  simp only [throttle, answer, sensor, SensorCall.function, SensorCall.constant]
  cases throttleMasks _ _ <;> rfl

theorem sense_outcome (call : Except Exn NvmlObject) (key : String) (scale lo : ℚ)
    (hi : Option ℚ) :
    (sense call key scale lo hi).outcome = nvmlNumber (guarded (some call)).obj scale lo hi := by
  rw [sense, Logged.outcome_bind, attempt_outcome]; rfl

/-- **A device's sample is made of its sensors, each field of its own.** -/
theorem sampleDevice_ok {B : NvmlBinding} {device : ℕ} {name : String} {s : GpuSample Number} :
    (sampleDevice B device name).outcome = .ok s ↔ B.SampleOf device s := by
  unfold sampleDevice
  constructor
  · intro h
    obtain ⟨vram, hvram, h⟩ := Logged.bind_ok.1 h
    have h := (Logged.bind_of_ok (attempt_outcome _ _)).1 h
    have h := (Logged.bind_of_ok (throttleReasons_outcome _ _ _)).1 h
    have h := (Logged.bind_of_ok (attempt_outcome _ _)).1 h
    obtain ⟨gpu, hgpu, h⟩ := Logged.bind_ok.1 h
    obtain ⟨mem, hmem, h⟩ := Logged.bind_ok.1 h
    obtain ⟨t, ht, h⟩ := Logged.bind_ok.1 h
    obtain ⟨p, hp, h⟩ := Logged.bind_ok.1 h
    obtain ⟨l, hl, h⟩ := Logged.bind_ok.1 h
    obtain ⟨fan, hfan, h⟩ := Logged.bind_ok.1 h
    obtain ⟨core, hcore, h⟩ := Logged.bind_ok.1 h
    obtain ⟨clock, hclock, h⟩ := Logged.bind_ok.1 h
    cases h
    rw [sense_outcome] at ht hp hl hfan hcore hclock
    refine ⟨rfl, rfl, ?_, rfl⟩
    intro f
    cases f with
    | utilizationPercent => exact hgpu
    | memoryUtilizationPercent => exact hmem
    | vramUsedBytes => exact (memory_ok.1 hvram).1
    | vramTotalBytes => exact (memory_ok.1 hvram).2
    | temperatureC => exact ht
    | memoryTemperatureC => rfl
    | powerWatts => exact hp
    | powerLimitWatts => exact hl
    | fanPercent => exact hfan
    | coreClockMhz => exact hcore
    | memoryClockMhz => exact hclock
  · intro hs
    obtain ⟨i, u, m, t, a⟩ := s
    obtain ⟨rfl, rfl, hm, hth⟩ := hs
    have hmem := Except.ok.inj (hm .memoryTemperatureC)
    refine Logged.bind_ok.2 ⟨(_, _), memory_ok.2 ⟨hm .vramUsedBytes, hm .vramTotalBytes⟩, ?_⟩
    refine (Logged.bind_of_ok (attempt_outcome _ _)).2 ?_
    refine (Logged.bind_of_ok (throttleReasons_outcome _ _ _)).2 ?_
    refine (Logged.bind_of_ok (attempt_outcome _ _)).2 ?_
    refine Logged.bind_ok.2 ⟨_, hm .utilizationPercent, ?_⟩
    refine Logged.bind_ok.2 ⟨_, hm .memoryUtilizationPercent, ?_⟩
    refine Logged.bind_ok.2 ⟨_, (sense_outcome ..).trans (hm .temperatureC), ?_⟩
    refine Logged.bind_ok.2 ⟨_, (sense_outcome ..).trans (hm .powerWatts), ?_⟩
    refine Logged.bind_ok.2 ⟨_, (sense_outcome ..).trans (hm .powerLimitWatts), ?_⟩
    refine Logged.bind_ok.2 ⟨_, (sense_outcome ..).trans (hm .fanPercent), ?_⟩
    refine Logged.bind_ok.2 ⟨_, (sense_outcome ..).trans (hm .coreClockMhz), ?_⟩
    refine Logged.bind_ok.2 ⟨_, (sense_outcome ..).trans (hm .memoryClockMhz), ?_⟩
    rw [← hth]
    refine congrArg Except.ok (congrArg (fun m => GpuSample.mk (ν := Number) _ _ m t a) (funext fun f => ?_))
    cases f <;> first | rfl | exact hmem

/-! ## All devices -/

namespace NvmlBinding

variable (B : NvmlBinding)

/-- NVML gives out a handle for the device. -/
def Addressable (device : ℕ) : Prop :=
  (guarded (some (B.invoke .nvmlDeviceGetHandleByIndex device))).obj ≠ .none

/-- What a loop over the devices collects. -/
inductive Over {T : Type} (P : ℕ → T → Prop) : List ℕ → List T → Prop
  | nil : Over P [] []
  | skip {d : ℕ} {ds xs} : Printable d → ¬ B.Addressable d → Over P ds xs → Over P (d :: ds) xs
  | take {d : ℕ} {ds x xs} : Printable d → B.Addressable d → P d x → Over P ds xs →
      Over P (d :: ds) (x :: xs)

end NvmlBinding

theorem deviceName_ok {d : ℕ} : (∃ name, (deviceName d).outcome = .ok name) ↔ Printable d := by
  rw [← returns_intText]
  constructor
  · rintro ⟨name, h⟩
    obtain ⟨text, h, -⟩ := map_eq_ok.1 h
    exact ⟨text, h⟩
  · rintro ⟨text, h⟩
    exact ⟨"gpu." ++ text, map_eq_ok.2 ⟨text, h, rfl⟩⟩

theorem atDevice_ok {T : Type} {B : NvmlBinding} {d : ℕ} {body : String → Diagnosed T} {P : T → Prop}
    (hbody : ∀ name x, (body name).outcome = .ok x ↔ P x) {xs : List T} :
    (atDevice B d body).outcome = .ok xs ↔
      Printable d ∧ (¬ B.Addressable d ∧ xs = [] ∨ B.Addressable d ∧ ∃ x, P x ∧ xs = [x]) := by
  simp only [atDevice, Logged.outcome_bind, attempt_outcome, ok_bind, bind_eq_ok, ← deviceName_ok]
  constructor
  · rintro ⟨name, hname, h⟩
    refine ⟨⟨name, hname⟩, ?_⟩
    split_ifs at h with hnone
    · cases h; exact .inl ⟨fun h => h hnone, rfl⟩
    · obtain ⟨x, hx, h⟩ := bind_eq_ok.1 h
      cases h; exact .inr ⟨hnone, x, (hbody name x).1 hx, rfl⟩
  · rintro ⟨⟨name, hname⟩, h⟩
    refine ⟨name, hname, ?_⟩
    rcases h with ⟨hno, rfl⟩ | ⟨hyes, x, hx, rfl⟩
    · rw [if_pos (not_not.1 hno)]; rfl
    · rw [if_neg hyes]; exact bind_eq_ok.2 ⟨x, (hbody name x).2 hx, rfl⟩

/-- **A loop over the devices, turn by turn.** -/
theorem overDevices_ok {T : Type} {B : NvmlBinding} {body : ℕ → String → Diagnosed T} {P : ℕ → T → Prop}
    (hbody : ∀ d name x, (body d name).outcome = .ok x ↔ P d x) {ds : List ℕ} {xs : List T} :
    (overDevices B body ds).outcome = .ok xs ↔ B.Over P ds xs := by
  induction ds generalizing xs with
  | nil =>
    constructor
    · intro h; cases h; exact .nil
    · intro h; cases h; rfl
  | cons d ds ih =>
    simp only [overDevices, Logged.outcome_bind, bind_eq_ok, atDevice_ok (hbody d), ih]
    constructor
    · rintro ⟨here, ⟨hp, h⟩, rest, hrest, hxs⟩
      cases hxs
      rcases h with ⟨hno, rfl⟩ | ⟨hyes, x, hx, rfl⟩
      · exact .skip hp hno hrest
      · exact .take hp hyes hx hrest
    · intro h
      cases h with
      | skip hp hno hrest => exact ⟨[], ⟨hp, .inl ⟨hno, rfl⟩⟩, xs, hrest, rfl⟩
      | @take _ _ x xs hp hyes hx hrest => exact ⟨[x], ⟨hp, .inr ⟨hyes, x, hx, rfl⟩⟩, xs, hrest, rfl⟩

theorem exists_over {T : Type} {B : NvmlBinding} {P : ℕ → T → Prop} {ds : List ℕ} :
    (∃ xs, B.Over P ds xs) ↔ ∀ d ∈ ds, Printable d ∧ (B.Addressable d → ∃ x, P d x) := by
  induction ds with
  | nil => exact iff_of_true ⟨[], .nil⟩ (by simp)
  | cons d ds ih =>
    rw [List.forall_mem_cons, ← ih]
    constructor
    · rintro ⟨xs, h⟩
      cases h with
      | skip hp hno hrest => exact ⟨⟨hp, fun h => absurd h hno⟩, _, hrest⟩
      | take hp _ hx hrest => exact ⟨⟨hp, fun _ => ⟨_, hx⟩⟩, _, hrest⟩
    · rintro ⟨⟨hp, hx⟩, xs, hrest⟩
      by_cases hd : B.Addressable d
      · obtain ⟨x, hx⟩ := hx hd
        exact ⟨x :: xs, .take hp hd hx hrest⟩
      · exact ⟨xs, .skip hp hd hrest⟩

theorem returns_nvml_measurement {B : NvmlBinding} {d : ℕ} {f : GpuField} :
    Returns (B.measurement d f) ↔ ∃ v, B.fieldValue d f = .ok v ∧ Fits v := by
  simp only [NvmlBinding.measurement, returns_bind, returns_nvmlNumber]

/-- A device's sample is taken if its readings fit a double. -/
theorem exists_sampleOf {B : NvmlBinding} {d : ℕ} :
    (∃ s, B.SampleOf d s) ↔ ∀ f, ∃ v, B.fieldValue d f = .ok v ∧ Fits v := by
  constructor
  · rintro ⟨s, hs⟩ f
    exact returns_nvml_measurement.1 ⟨_, hs.measurement f⟩
  · intro h
    choose m hm using fun f => returns_nvml_measurement.2 (h f)
    exact ⟨⟨d, _, m, _, _⟩, rfl, rfl, hm, rfl⟩

/-! ## The whole operation -/

theorem returns_lookup {B : NvmlBinding} {f : NvmlFunction} :
    Returns (B.lookup f) ↔ B.function f ≠ .absent := by
  unfold lookup
  split
  · rename_i h; exact iff_of_false (not_returns_error _) (by simp [h])
  · rename_i h; exact iff_of_true (returns_ok _) (by simp [h])
  · rename_i h; exact iff_of_true (returns_ok _) (by simp [h])

/-- A function answers, without arguments. -/
def NvmlBinding.AnswersWith (B : NvmlBinding) (f : NvmlFunction) (holds : NvmlObject → Prop) : Prop :=
  ∃ run o, B.function f = .callable run ∧ run {} = .ok o ∧ holds o

theorem NvmlBinding.AnswersWith.lookup {B : NvmlBinding} {f : NvmlFunction} {holds : NvmlObject → Prop}
    (h : B.AnswersWith f holds) : ∃ o, B.lookup f = .ok (some (.ok o)) ∧ holds o := by
  obtain ⟨run, o, hrun, ho, hholds⟩ := h
  exact ⟨o, by rw [NvmlBinding.lookup, hrun, ← ho], hholds⟩

theorem NvmlBinding.AnswersWith.present {B : NvmlBinding} {f : NvmlFunction} {holds : NvmlObject → Prop}
    (h : B.AnswersWith f holds) : B.function f ≠ .absent := by
  obtain ⟨run, o, hrun, -⟩ := h
  rw [hrun]
  rintro ⟨⟩

/-- What a name looked up outside the guard yields, once it is there. -/
def NvmlBinding.system (B : NvmlBinding) (f : NvmlFunction) : NvmlObject :=
  match B.lookup f with
  | .ok operation => guarded operation
  | .error _ => .none

/-- The devices `NvmlGpuReader` loops over. -/
def NvmlBinding.count (B : NvmlBinding) : ℕ :=
  (validCount (B.system .nvmlDeviceGetCount).obj).getD 0

theorem deviceCount_ok {B : NvmlBinding} {n : ℕ} :
    (deviceCount B).outcome = .ok n ↔ B.function .nvmlDeviceGetCount ≠ .absent ∧ n = B.count := by
  rw [← returns_lookup]
  unfold deviceCount NvmlBinding.count NvmlBinding.system
  cases B.lookup .nvmlDeviceGetCount with
  | error e =>
    refine iff_of_false ?_ fun h => absurd h.1 (not_returns_error e)
    rintro ⟨⟩
  | ok operation =>
    rw [Logged.bind_of_ok (Logged.outcome_lift _), Logged.bind_of_ok (attempt_outcome _ _)]
    constructor
    · intro h; cases h; exact ⟨returns_ok _, rfl⟩
    · rintro ⟨-, rfl⟩; rfl

/-- `sample` takes a sample of every addressable device. -/
theorem sampleAll_ok {B : NvmlBinding} {xs : List (GpuSample Number)} :
    (sampleAll B).outcome = .ok xs ↔
      B.function .nvmlDeviceGetCount ≠ .absent ∧ B.Over B.SampleOf (List.range B.count) xs := by
  have hover {ds : List ℕ} {ys : List (GpuSample Number)} :
      (overDevices B (sampleDevice B) ds).outcome = .ok ys ↔ B.Over B.SampleOf ds ys := by
    refine overDevices_ok (P := B.SampleOf) ?_
    intro d name s
    exact sampleDevice_ok
  unfold sampleAll
  constructor
  · intro h
    obtain ⟨n, hn, h⟩ := Logged.bind_ok.1 h
    obtain ⟨ys, hys, h⟩ := Logged.bind_ok.1 h
    cases h
    obtain ⟨hcount, rfl⟩ := deviceCount_ok.1 hn
    exact ⟨hcount, hover.1 hys⟩
  · rintro ⟨hcount, h⟩
    refine Logged.bind_ok.2 ⟨B.count, deviceCount_ok.2 ⟨hcount, rfl⟩, ?_⟩
    exact Logged.bind_ok.2 ⟨xs, hover.2 h, rfl⟩

/-- What `sample` reads on every device fits a double. -/
structure NvmlBinding.SampleReadable (B : NvmlBinding) : Prop where
  count : B.function .nvmlDeviceGetCount ≠ .absent
  devices : ∀ d < B.count, Printable d ∧
    (B.Addressable d → ∀ f, ∃ v, B.fieldValue d f = .ok v ∧ Fits v)

theorem returns_sampleAll {B : NvmlBinding} :
    Returns (sampleAll B).outcome ↔ B.SampleReadable := by
  have : (∃ xs, B.Over B.SampleOf (List.range B.count) xs) ↔ _ := exists_over
  simp only [List.mem_range, exists_sampleOf] at this
  simp only [Returns, sampleAll_ok, exists_and_left, this]
  constructor
  · intro h
    exact ⟨h.1, h.2⟩
  · intro h
    exact ⟨h.count, h.devices⟩

/-! ## A call of the reader -/

/-- `nvmlInit` succeeds. -/
def NvmlBinding.Initializes (B : NvmlBinding) : Prop :=
  ∃ run v, B.function .nvmlInit = .callable run ∧ run {} = .ok v

theorem ready_eq {B : NvmlBinding} (hinit : B.Initializes) (r : NvmlGpuReader) :
    r.ready ⟨.ok (), B⟩ = (true, ⟨true, true, ∅⟩) := by
  obtain ⟨run, v, hrun, hv⟩ := hinit
  obtain ⟨loaded, initialized, reasons⟩ := r
  cases initialized <;> simp [NvmlGpuReader.ready, hrun, hv]

theorem operate_eq {B : NvmlBinding} (hinit : B.Initializes) (r : NvmlGpuReader) {T : Type}
    (default : T) (operation : NvmlBinding → Diagnosed T) :
    r.operate ⟨.ok (), B⟩ default operation =
      ((operation B).outcome, ⟨true, true, (operation B).log ∅⟩) := by
  rw [NvmlGpuReader.operate, ready_eq hinit]

end SweatMeter
