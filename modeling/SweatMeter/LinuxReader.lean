/-
  The whole `LinuxHostReader`, over a machine that may be another one at each call.

  An operation reads the files of `/proc` and `/sys`, the clock and the functions of
  `socket` and `platform`; what it meets there is a `Machine`.  Its n-th call meets
  `met operation n`, so that a run of the reader is given by what its calls meet,
  whoever makes them and in whatever order.

  Each operation keeps a baseline of its own, or none: the state of the reader is a
  function of how often each operation has been called (`stateAt`), and so is what a
  collector finds (`observe_reader`).
-/
import SweatMeter.Cpuinfo
import SweatMeter.CpuStat
import SweatMeter.Meminfo
import SweatMeter.Scripted
import SweatMeter.SensorCache

namespace SweatMeter

open Py Py.Stateful

/-! ## The machine -/

/-- The files under `/proc` that are read. -/
inductive ProcFile where
  | stat
  | loadavg
  | meminfo
  | diskstats
  | selfStatus
  | cpuinfo
  deriving DecidableEq

/-- What one call of an operation meets. -/
structure Machine where
  proc : ProcFile → Except Exn Text
  sys : SysFiles
  clock : Except Exn Obj
  /-- the functions that report a text; none is asked for the CPU model -/
  reports : TextFact → Except Exn Obj

/-! ## Files of `/proc` -/

/-- `parse_loadavg`. -/
def parseLoadavg (text : Text) : Measurement ℚ :=
  match split text with
  | [] => none
  | field :: _ => match toFloat field with
    | .ok (.finite load) => if 0 ≤ load then some load else none
    | _ => none

/-- The body of the loop of `process_rss_bytes`; `none` goes on with the next line. -/
def rssLine (line : Text) : Option (Measurement ℤ) :=
  match partition ':' line with
  | (_, none) => none
  | (key, some remainder) =>
    if key ≠ "VmRSS".toList then none
    else match split remainder with
      | [value, unit] =>
        if casefold unit ≠ "kb".toList then some none
        else match toInt value with
          | .error _ => some none
          | .ok rssKib => some (if 0 ≤ rssKib then some (rssKib * 1024) else none)
      | _ => some none

/-- The loop of `process_rss_bytes`. -/
def parseRss (text : Text) : Measurement ℤ := ((splitlines text).findSome? rssLine).join

/-! ## Block devices -/

/-- `baseaicore.StorageDevice`. -/
structure StorageDevice where
  name : Text
  sizeBytes : Measurement ℤ
  model : Option Text
  rotational : Option Bool

/-- `self._sys_root / "block"`. -/
def blockRoot : Path := ["block".toList]

/-- The attribute files of a device. -/
inductive DeviceFile where
  | size
  | rotational
  | model
  deriving DecidableEq

/-- The path of a file below its device. -/
def DeviceFile.path : DeviceFile → Path
  | size => ["size".toList]
  | rotational => ["queue".toList, "rotational".toList]
  | model => ["device".toList, "model".toList]

def deviceFile (device : DirEntry) (file : DeviceFile) : Path :=
  blockRoot ++ device.name :: file.path

/-- `size_bytes`, from the text of the file. -/
def sizeOf : Option Text → Measurement ℤ
  | none => none
  | some text => match toInt text with
    | .ok sectors => if 0 ≤ sectors then some (sectors * 512) else none
    | .error _ => none

/-- `{"0": False, "1": True}.get(...)`. -/
def rotationalOf (text : Option Text) : Option Bool :=
  if text = some "0".toList then some false
  else if text = some "1".toList then some true
  else none

namespace SysFiles

variable (fs : SysFiles)

/-- The body of the loop of `read_block_devices`. -/
def blockDevice (device : DirEntry) : StorageDevice where
  name := device.name
  sizeBytes := sizeOf (fs.optionalText (deviceFile device .size))
  model := fs.optionalText (deviceFile device .model)
  rotational := rotationalOf (fs.optionalText (deviceFile device .rotational))

/-- The whole devices under `/sys/block`. -/
def wholeDevices : List DirEntry :=
  (fs.children blockRoot fun _ => true).filter fun device => wholeDevice device.name

/-- `read_block_devices`; the constructor of a `StorageDevice` may raise. -/
def readBlockDevices (storageDevice : StorageDevice → Except Exn Unit) :
    Except Exn (List StorageDevice) :=
  fs.wholeDevices.mapM fun device => do
    storageDevice (fs.blockDevice device)
    return fs.blockDevice device

end SysFiles

/-! ## Operations -/

/-- `_reported_text`. -/
def reportedText : Except Exn Obj → Obj
  | .ok (.str s) =>
    if strip s.toList = [] then .unsupported else .str (String.ofList (strip s.toList))
  | _ => .unsupported

def ofFloat (x : Measurement ℚ) : Measurement Number := x.map fun q => .float (.finite q)

def ofInt (x : Measurement ℤ) : Measurement Number := x.map .int

/-- The object that is a `ReportedText`. -/
def ofText : Option Text → Obj
  | some text => .str (String.ofList text)
  | none => .unsupported

/-- `_safe(lambda: parse(self._proc_text(name)), default)`, of a parser that does not raise. -/
def parsedOr {T : Type} (parse : Text → T) (default : T) : Except Exn Text → T
  | .ok text => parse text
  | .error _ => default

namespace Machine

variable (m : Machine)

/-- What `disk_throughput` meets. -/
def diskCall : DiskCall := ⟨m.proc .diskstats, m.clock⟩

/-- `load_average_1m`. -/
def loadAverage1m : Measurement ℚ := parsedOr parseLoadavg none (m.proc .loadavg)

/-- The figures of `memory`. -/
def memoryFigures : MemoryReading (Measurement ℤ) :=
  parsedOr parseMeminfo ⟨none, none, none⟩ (m.proc .meminfo)

/-- `memory`. -/
def memory : MemoryReading (Measurement Number) :=
  ⟨ofInt m.memoryFigures.totalBytes, ofInt m.memoryFigures.availableBytes,
    ofInt m.memoryFigures.usedBytes⟩

/-- `process_rss_bytes`. -/
def processRssBytes : Measurement ℤ := parsedOr parseRss none (m.proc .selfStatus)

/-- The CPU facts of `static_facts`. -/
def cpuFacts : CpuFacts := parsedOr parseCpuinfo ⟨none, none, none⟩ (m.proc .cpuinfo)

/-- `static_facts`. -/
def staticFacts (storageDevice : StorageDevice → Except Exn Unit) : Except Exn HostFacts := do
  let storage ← m.sys.readBlockDevices storageDevice
  return {
    text := fun
      | .cpuModel => ofText m.cpuFacts.cpuModel
      | f => reportedText (m.reports f)
    number := fun
      | .physicalCores => measured (ofInt (m.cpuFacts.physicalCores.map Int.ofNat))
      | .logicalCores => measured (ofInt (m.cpuFacts.logicalCores.map Int.ofNat))
      | .ramBytes => measured m.memory.totalBytes
    storage := some (storage.map fun _ => .other) }

end Machine

namespace HostState

variable (s : HostState) (m : Machine)

/-- `cpu_percent`. -/
def cpuPercent : Except Exn (Measurement ℚ) × HostState :=
  let (result, previousCpu) := SweatMeter.cpuPercent s.previousCpu (m.proc .stat)
  (result, { s with previousCpu })

/-- `cpu_temperature`. -/
def cpuTemperature : Measurement ℚ × HostState :=
  let (result, temperatureFile) := m.sys.cpuTemperature s.temperatureFile
  (result, { s with temperatureFile })

/-- `disk_throughput`. -/
def diskThroughput : Except Exn (DiskThroughput (Measurement Number)) × HostState :=
  let (result, disk) := s.disk.diskThroughput m.diskCall
  (result, { s with disk })

end HostState

/-! ## The reader -/

/-- A reader, and how often each of its operations has been called. -/
structure LinuxState where
  calls : HostOperation → ℕ := fun _ => 0
  host : HostState

/-- One more call of this operation. -/
def called (calls : HostOperation → ℕ) (op : HostOperation) : HostOperation → ℕ :=
  Function.update calls op (calls op + 1)

namespace LinuxHostReader

variable (met : HostOperation → ℕ → Machine)

/-- One call of an operation, on the machine that it meets. -/
def operation {T : Type} (op : HostOperation) (f : HostState → Machine → Except Exn T × HostState) :
    EStateM Exn LinuxState T := ofOutcome fun s =>
  let (result, host) := f s.host (met op (s.calls op))
  (result, ⟨called s.calls op, host⟩)

/-- An operation that assigns no field. -/
def pureOperation {T : Type} (op : HostOperation) (f : Machine → Except Exn T) :
    EStateM Exn LinuxState T :=
  operation met op fun s m => (f m, s)

/-- `LinuxHostReader`. -/
def reader (storageDevice : StorageDevice → Except Exn Unit) : HostReaderObject LinuxState where
  cpuPercent := operation met .cpuPercent fun s m =>
    ((s.cpuPercent m).1.map fun x => measured (ofFloat x), (s.cpuPercent m).2)
  loadAverage1m := pureOperation met .loadAverage1m fun m => .ok (measured (ofFloat m.loadAverage1m))
  memory := pureOperation met .memory fun m => .ok (some m.memory.attributes)
  cpuTemperature := operation met .cpuTemperature fun s m =>
    (.ok (measured (ofFloat (s.cpuTemperature m).1)), (s.cpuTemperature m).2)
  diskThroughput := operation met .diskThroughput fun s m =>
    ((s.diskThroughput m).1.map fun d => some d.attributes, (s.diskThroughput m).2)
  processRssBytes := pureOperation met .processRssBytes fun m =>
    .ok (measured (ofInt m.processRssBytes))
  staticFacts := pureOperation met .staticFacts fun m => (m.staticFacts storageDevice).map some
  unavailableReasons _ := .absent

/-- `LinuxHostReader(disk_devices=devices)`. -/
def fresh (devices : Option (List Text)) : LinuxState :=
  { host := { disk := { diskDevices := devices } } }

end LinuxHostReader

/-! ## Baselines -/

/-- The time and the counters of a call, if it has both. -/
def DiskCall.counted (devices : Option (List Text)) (c : DiskCall) :
    Option (ℚ × (Direction → ℕ)) :=
  match c.parsed devices, c.now with
  | some parsed, some now => match now.isfinite, now.toRat with
    | .ok true, some t => some (t, parsed)
    | _, _ => none
  | _, _ => none

theorem diskThroughput_snd (r : LinuxHostReader) (c : DiskCall) :
    (r.diskThroughput c).2 = ⟨r.diskDevices, (c.counted r.diskDevices).or r.previousDisk⟩ := by
  unfold LinuxHostReader.diskThroughput DiskCall.counted
  cases c.parsed r.diskDevices with
  | none => rfl
  | some parsed =>
    cases c.now with
    | none => rfl
    | some now => cases hfinite : now.isfinite with
      | error e => simp [hfinite]
      | ok finite => cases finite with
        | false => simp [hfinite]
        | true =>
          obtain ⟨t, ht⟩ := Number.toRat_of_isfinite hfinite
          simp [hfinite, ht]

theorem cpuPercent_snd (previous : Option CpuTimes) (stat : Except Exn Text) :
    (cpuPercent previous stat).2 = (parsedStat stat).or previous := by
  unfold cpuPercent
  cases parsedStat stat <;> rfl

namespace LinuxHostReader

variable (met : HostOperation → ℕ → Machine) (devices : Option (List Text))

/-- The last of the first `n` values that there are. -/
def lastOf {T : Type} (f : ℕ → Option T) (n : ℕ) : Option T :=
  ((List.range n).filterMap f).getLast?

theorem lastOf_succ {T : Type} (f : ℕ → Option T) (n : ℕ) :
    lastOf f (n + 1) = (f n).or (lastOf f n) := by
  rw [lastOf, List.range_succ, List.filterMap_append, List.getLast?_append, lastOf]
  cases h : f n <;> simp [h]

/-- The counters against which the n-th call of `cpu_percent` computes. -/
def cpuBaseline (n : ℕ) : Option CpuTimes :=
  lastOf (fun i => parsedStat ((met .cpuPercent i).proc .stat)) n

/-- The counters, and their time, against which the n-th call of `disk_throughput` computes. -/
def diskBaseline (n : ℕ) : Option (ℚ × (Direction → ℕ)) :=
  lastOf (fun i => (met .diskThroughput i).diskCall.counted devices) n

/-- The path that is remembered at the n-th call of `cpu_temperature`. -/
def sensorPath (n : ℕ) : Option Path :=
  SysFiles.remembered none ((List.range n).map fun i => (met .cpuTemperature i).sys)

/-- The reader after so many calls of its operations. -/
def stateAt (calls : HostOperation → ℕ) : LinuxState where
  calls := calls
  host := {
    previousCpu := cpuBaseline met (calls .cpuPercent)
    disk := ⟨devices, diskBaseline met devices (calls .diskThroughput)⟩
    temperatureFile := sensorPath met (calls .cpuTemperature) }

/-- What the n-th call of `cpu_percent` computes. -/
def cpuAt (n : ℕ) : Except Exn (Measurement ℚ) :=
  (cpuPercent (cpuBaseline met n) ((met .cpuPercent n).proc .stat)).1

/-- What the n-th call of `disk_throughput` computes. -/
def diskAt (n : ℕ) : Except Exn (DiskThroughput (Measurement Number)) :=
  (LinuxHostReader.diskThroughput ⟨devices, diskBaseline met devices n⟩
    (met .diskThroughput n).diskCall).1

/-- What the n-th call of `cpu_temperature` returns. -/
def temperatureAt (n : ℕ) : Measurement ℚ :=
  ((met .cpuTemperature n).sys.cpuTemperature (sensorPath met n)).1

/-! ## One call -/

variable {met devices} (storageDevice : StorageDevice → Except Exn Unit)
  (calls : HostOperation → ℕ)

theorem called_of_ne {op op' : HostOperation} (h : op' ≠ op) : called calls op op' = calls op' :=
  Function.update_of_ne h _ _

@[simp] theorem called_self (op : HostOperation) : called calls op op = calls op + 1 :=
  Function.update_self _ _ _

theorem outcome_pureOperation {T : Type} {op : HostOperation} (f : Machine → Except Exn T)
    (hcpu : .cpuPercent ≠ op) (hdisk : .diskThroughput ≠ op) (htemperature : .cpuTemperature ≠ op) :
    outcome (pureOperation met op f) (stateAt met devices calls) =
      (f (met op (calls op)), stateAt met devices (called calls op)) := by
  rw [pureOperation, operation, outcome_ofOutcome]
  simp only [stateAt, called_of_ne calls hcpu, called_of_ne calls hdisk,
    called_of_ne calls htemperature]

theorem outcome_cpuPercent : outcome (reader met storageDevice).cpuPercent
    (stateAt met devices calls) = ((cpuAt met (calls .cpuPercent)).map fun x => measured (ofFloat x),
      stateAt met devices (called calls .cpuPercent)) := by
  simp only [reader, operation, outcome_ofOutcome, HostState.cpuPercent, stateAt, cpuPercent_snd,
    called_self]
  rw [called_of_ne calls (by decide : HostOperation.diskThroughput ≠ .cpuPercent),
    called_of_ne calls (by decide : HostOperation.cpuTemperature ≠ .cpuPercent), cpuBaseline,
    cpuBaseline, lastOf_succ]
  rfl

theorem outcome_diskThroughput : outcome (reader met storageDevice).diskThroughput
    (stateAt met devices calls) =
      ((diskAt met devices (calls .diskThroughput)).map fun d => some d.attributes,
        stateAt met devices (called calls .diskThroughput)) := by
  simp only [reader, operation, outcome_ofOutcome, HostState.diskThroughput, stateAt,
    diskThroughput_snd, called_self]
  rw [called_of_ne calls (by decide : HostOperation.cpuPercent ≠ .diskThroughput),
    called_of_ne calls (by decide : HostOperation.cpuTemperature ≠ .diskThroughput), diskBaseline,
    diskBaseline, lastOf_succ]
  rfl

theorem outcome_cpuTemperature : outcome (reader met storageDevice).cpuTemperature
    (stateAt met devices calls) =
      (.ok (measured (ofFloat (temperatureAt met (calls .cpuTemperature)))),
        stateAt met devices (called calls .cpuTemperature)) := by
  simp only [reader, operation, outcome_ofOutcome, HostState.cpuTemperature, stateAt, called_self]
  rw [called_of_ne calls (by decide : HostOperation.cpuPercent ≠ .cpuTemperature),
    called_of_ne calls (by decide : HostOperation.diskThroughput ≠ .cpuTemperature), sensorPath,
    sensorPath, List.range_succ, List.map_append, SysFiles.remembered, SysFiles.remembered,
    List.foldl_append]
  rfl

theorem outcome_loadAverage1m : outcome (reader met storageDevice).loadAverage1m
    (stateAt met devices calls) =
      (.ok (measured (ofFloat (met .loadAverage1m (calls .loadAverage1m)).loadAverage1m)),
        stateAt met devices (called calls .loadAverage1m)) := by
  simp only [reader]
  exact outcome_pureOperation calls _ (by decide) (by decide) (by decide)

theorem outcome_memory : outcome (reader met storageDevice).memory (stateAt met devices calls) =
    (.ok (some (met .memory (calls .memory)).memory.attributes),
      stateAt met devices (called calls .memory)) := by
  simp only [reader]
  exact outcome_pureOperation calls _ (by decide) (by decide) (by decide)

theorem outcome_processRssBytes : outcome (reader met storageDevice).processRssBytes
    (stateAt met devices calls) =
      (.ok (measured (ofInt (met .processRssBytes (calls .processRssBytes)).processRssBytes)),
        stateAt met devices (called calls .processRssBytes)) := by
  simp only [reader]
  exact outcome_pureOperation calls _ (by decide) (by decide) (by decide)

/-! ## One snapshot -/

variable (met devices)

/-- What the operations do in the n-th snapshot. -/
def hostAt (n : ℕ) : HostReader where
  cpuPercent := (cpuAt met n).map fun x => measured (ofFloat x)
  loadAverage1m := .ok (measured (ofFloat (met .loadAverage1m n).loadAverage1m))
  memory := .ok (some (met .memory n).memory.attributes)
  cpuTemperature := .ok (measured (ofFloat (temperatureAt met n)))
  diskThroughput := (diskAt met devices n).map fun d => some d.attributes
  processRssBytes := .ok (measured (ofInt (met .processRssBytes n).processRssBytes))
  unavailableReasons := .absent

/-- The calls of `i` snapshots and `j` profiles. -/
def callsMade (i j : ℕ) : HostOperation → ℕ
  | .staticFacts => j
  | _ => i

/-- **A snapshot finds what its number says**, whatever calls there have been before. -/
theorem observe_reader (i j : ℕ) :
    (reader met storageDevice).observe (stateAt met devices (callsMade i j)) =
      (hostAt met devices i, stateAt met devices (callsMade (i + 1) j)) := by
  simp only [HostReaderObject.observe, outcome_cpuPercent, outcome_diskThroughput,
    outcome_cpuTemperature, outcome_loadAverage1m, outcome_memory, outcome_processRssBytes]
  refine Prod.ext rfl (congrArg (stateAt met devices) (funext fun op => ?_))
  cases op <;> rfl

/-- A profile leaves what the snapshots find. -/
theorem outcome_staticFacts (i j : ℕ) :
    outcome (reader met storageDevice).staticFacts (stateAt met devices (callsMade i j)) =
      (((met .staticFacts j).staticFacts storageDevice).map some,
        stateAt met devices (callsMade i (j + 1))) := by
  simp only [reader]
  rw [outcome_pureOperation _ _ (by decide) (by decide) (by decide)]
  refine Prod.ext rfl (congrArg (stateAt met devices) (funext fun op => ?_))
  cases op <;> rfl

end LinuxHostReader

end SweatMeter
