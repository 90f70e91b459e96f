/-
  The CPU temperature of a Linux host (`LinuxHostReader.cpu_temperature`), from
  the files under `/sys/class`.

  * Sensors are found in two trees, `thermal` and `hwmon`; each gives a list of
    candidates in order of preference, and the first of the first list that is
    not empty is read;
  * the path of the sensor is remembered, and the next call reads it without
    looking for sensors, as long as it holds a plausible temperature.

  A path is the list of its components under the injected `sys_root`, which is
  common to all of them.
-/
import Mathlib.Data.Char
import Mathlib.Data.List.Lex
import Mathlib.Data.List.Sort
import Mathlib.Data.Prod.Lex
import SweatMeter.Py.Text
import SweatMeter.Types

namespace SweatMeter

open Py

abbrev Path := List Text

/-- `str(path)`. -/
def Path.str (p : Path) : Text := ['/'].intercalate p

/-- The name of a directory entry. -/
@[ext]
structure DirEntry where
  name : Text
  noSlash : '/' ∉ name

/-- What one call meets under `/sys`. -/
structure SysFiles where
  read : Path → Except Exn Text
  entries : Path → Except Exn (List DirEntry)

/-- A name that starts and ends so, as the glob pattern `start*stop`. -/
def globbed (start stop : String) (name : Text) : Bool :=
  start.toList.isPrefixOf name && stop.toList.isSuffixOf (name.drop start.toList.length)

/-- `_millidegrees`. -/
def millidegrees (text : Option Text) : Option ℚ :=
  match text.map toFloat with
  | some (.ok (.finite q)) =>
    if -27315 / 100 ≤ q / 1000 ∧ q / 1000 ≤ 1000 then some (q / 1000) else none
  | _ => none

/-- A sensor with a valid reading: `(priority, name, temperature, path)`. -/
structure Candidate where
  priority : ℕ
  name : Text
  temperature : ℚ
  path : Path

/-- The tuple that is compared. -/
def Candidate.tuple (c : Candidate) : ℕ ×ₗ Text ×ₗ ℚ ×ₗ Path :=
  toLex (c.priority, toLex (c.name, toLex (c.temperature, c.path)))

/-- `sorted(candidates)`. -/
def ranked (candidates : List Candidate) : List Candidate :=
  candidates.insertionSort (·.tuple ≤ ·.tuple)

def preferredThermalZoneTypes : List Text :=
  ["x86_pkg_temp".toList, "cpu_thermal".toList, "cpu-thermal".toList, "coretemp".toList,
    "k10temp".toList, "acpitz".toList]

def cpuHwmonDrivers : List Text :=
  ["coretemp".toList, "k10temp".toList, "zenpower".toList, "cpu_thermal".toList,
    "cpu-thermal".toList, "acpitz".toList]

def nonCpuHwmonDrivers : List Text :=
  ["amdgpu".toList, "nouveau".toList, "nvidia".toList, "nvme".toList]

/-- `self._sys_root / "class" / "thermal"`. -/
def thermalRoot : Path := ["class".toList, "thermal".toList]

/-- `self._sys_root / "class" / "hwmon"`. -/
def hwmonRoot : Path := ["class".toList, "hwmon".toList]

namespace SysFiles

variable (fs : SysFiles)

/-- `_children`: the matching entries in order, none of an unreadable directory. -/
def children (root : Path) (isMatch : Text → Bool) : List DirEntry :=
  match fs.entries root with
  | .ok es => (es.filter fun e => isMatch e.name).insertionSort (·.name ≤ ·.name)
  | .error _ => []

/-- `_optional_text`. -/
def optionalText (path : Path) : Option Text :=
  match fs.read path with
  | .ok value => if strip value = [] then none else some (strip value)
  | .error _ => none

/-- `(_optional_text(path, read_text) or "").lower()`. -/
def lowerText (path : Path) : Text := lower ((fs.optionalText path).getD [])

/-- The plausible temperature in a file. -/
def temperature (path : Path) : Option ℚ := millidegrees (fs.optionalText path)

/-! ## Thermal zones -/

def zones : List DirEntry := fs.children thermalRoot (globbed "thermal_zone" "")

/-- `zone / "temp"`. -/
def zoneFile (zone : DirEntry) : Path := thermalRoot ++ [zone.name, "temp".toList]

def zoneType (zone : DirEntry) : Text := fs.lowerText (thermalRoot ++ [zone.name, "type".toList])

/-- The body of the loop of `_thermal_zone_candidates`. -/
def zoneCandidate (zone : DirEntry) : Option Candidate :=
  (fs.temperature (zoneFile zone)).map fun temperature =>
    ⟨preferredThermalZoneTypes.idxOf (fs.zoneType zone), zone.name, temperature, zoneFile zone⟩

/-- `_thermal_zone_candidates`. -/
def thermalZoneCandidates : List Candidate := ranked (fs.zones.filterMap fs.zoneCandidate)

/-! ## Hardware monitors -/

def driver (hwmon : DirEntry) : Text := fs.lowerText (hwmonRoot ++ [hwmon.name, "name".toList])

def hwmons : List DirEntry := fs.children hwmonRoot (globbed "hwmon" "")

/-- The chips whose driver is not one of a GPU or an NVMe disk. -/
def chips : List DirEntry :=
  fs.hwmons.filter fun hwmon => !nonCpuHwmonDrivers.contains (fs.driver hwmon)

/-- The temperature files of a chip. -/
def inputs (hwmon : DirEntry) : List DirEntry :=
  fs.children (hwmonRoot ++ [hwmon.name]) (globbed "temp" "_input")

def inputFile (hwmon input : DirEntry) : Path := hwmonRoot ++ [hwmon.name, input.name]

def label (hwmon input : DirEntry) : Text :=
  fs.lowerText (hwmonRoot ++ [hwmon.name, removesuffix "_input" input.name ++ "_label".toList])

def cpuLabel (hwmon input : DirEntry) : Bool :=
  ["package", "tctl", "tdie", "cpu"].any fun token => occursIn token (fs.label hwmon input)

/-- The sensor has a CPU driver or a CPU label. -/
def cpuSensor (hwmon input : DirEntry) : Bool :=
  cpuHwmonDrivers.contains (fs.driver hwmon) || fs.cpuLabel hwmon input

/-- The body of the inner loop of `_hwmon_candidates`. -/
def inputCandidate (hwmon input : DirEntry) : Option Candidate :=
  (fs.temperature (inputFile hwmon input)).map fun temperature =>
    ⟨if fs.cpuSensor hwmon input then 0 else 1, (inputFile hwmon input).str, temperature,
      inputFile hwmon input⟩

/-- `_hwmon_candidates`. -/
def hwmonCandidates : List Candidate :=
  ranked (fs.chips.flatMap fun hwmon => (fs.inputs hwmon).filterMap (fs.inputCandidate hwmon))

/-! ## The reader -/

/-- The candidate that a call without a remembered path reads. -/
def discover : Option Candidate :=
  match fs.thermalZoneCandidates with
  | c :: _ => some c
  | [] => fs.hwmonCandidates.head?

/-- `cpu_temperature`, and the path it remembers. -/
def cpuTemperature (temperatureFile : Option Path) : Measurement ℚ × Option Path :=
  match temperatureFile.bind fs.temperature with
  | some temperature => (some temperature, temperatureFile)
  | none => match fs.discover with
    | some c => (some c.temperature, some c.path)
    | none => (none, none)

end SysFiles

/-! ## The preferred candidate -/

section
variable {candidates rest : List Candidate} {c d : Candidate}

theorem mem_ranked : c ∈ ranked candidates ↔ c ∈ candidates := List.mem_insertionSort _

theorem tuple_le_of_ranked (h : ranked candidates = c :: rest) (hd : d ∈ candidates) :
    c.tuple ≤ d.tuple := by
  have hsorted : (ranked candidates).Pairwise (·.tuple ≤ ·.tuple) :=
    List.pairwise_insertionSort _ candidates
  rw [← mem_ranked, h] at hd
  rw [h] at hsorted
  rcases List.mem_cons.1 hd with rfl | hd
  · exact le_rfl
  · exact List.rel_of_pairwise_cons hsorted hd

theorem ranked_eq_nil : ranked candidates = [] ↔ candidates = [] := by
  rw [← List.length_eq_zero_iff, ranked, List.length_insertionSort, List.length_eq_zero_iff]

/-- What comes first in the tuples, before the temperature. -/
def Candidate.rank (c : Candidate) : ℕ ×ₗ Text := toLex (c.priority, c.name)

theorem rank_le_of_tuple_le (h : c.tuple ≤ d.tuple) : c.rank ≤ d.rank := by
  simp only [Candidate.tuple, Prod.Lex.toLex_le_toLex] at h
  simp only [Candidate.rank, Prod.Lex.toLex_le_toLex]
  rcases h with h | ⟨hpriority, h | ⟨hname, -⟩⟩
  · exact .inl h
  · exact .inr ⟨hpriority, h.le⟩
  · exact .inr ⟨hpriority, hname.le⟩

theorem priority_le_of_rank_le (h : c.rank ≤ d.rank) : c.priority ≤ d.priority := by
  simp only [Candidate.rank, Prod.Lex.toLex_le_toLex] at h
  rcases h with h | h
  · exact h.le
  · exact h.1.le

end

namespace SysFiles

variable {fs : SysFiles} {c : Candidate} {zone hwmon input : DirEntry}

/-- A candidate is one of a temperature exactly if it has this temperature and these
    other values. -/
theorem map_candidate_eq_some {temperature : Option ℚ} {priority : ℕ} {name : Text} {path : Path} :
    (temperature.map fun t => Candidate.mk priority name t path) = some c ↔
      temperature = some c.temperature ∧ c.priority = priority ∧ c.name = name ∧
        c.path = path := by
  rw [Option.map_eq_some_iff]
  constructor
  · rintro ⟨t, ht, rfl⟩
    exact ⟨ht, rfl, rfl, rfl⟩
  · rintro ⟨ht, hpriority, hname, hpath⟩
    refine ⟨c.temperature, ht, ?_⟩
    rw [← hpriority, ← hname, ← hpath]

theorem zoneCandidate_eq_some : fs.zoneCandidate zone = some c ↔
    fs.temperature (zoneFile zone) = some c.temperature ∧
      c.priority = preferredThermalZoneTypes.idxOf (fs.zoneType zone) ∧ c.name = zone.name ∧
      c.path = zoneFile zone := map_candidate_eq_some

theorem mem_thermalZoneCandidates :
    c ∈ fs.thermalZoneCandidates ↔ ∃ zone ∈ fs.zones, fs.zoneCandidate zone = some c := by
  rw [thermalZoneCandidates, mem_ranked, List.mem_filterMap]

theorem inputCandidate_eq_some : fs.inputCandidate hwmon input = some c ↔
    fs.temperature (inputFile hwmon input) = some c.temperature ∧
      c.priority = (if fs.cpuSensor hwmon input then 0 else 1) ∧
      c.name = (inputFile hwmon input).str ∧ c.path = inputFile hwmon input :=
  map_candidate_eq_some

theorem mem_hwmonCandidates : c ∈ fs.hwmonCandidates ↔
    ∃ hwmon ∈ fs.chips, ∃ input ∈ fs.inputs hwmon, fs.inputCandidate hwmon input = some c := by
  simp only [hwmonCandidates, mem_ranked, List.mem_flatMap, List.mem_filterMap]

/-- The candidate found comes first among the zones, or, where no zone has a valid
    temperature, among the hardware monitors. -/
theorem discover_eq_some (h : fs.discover = some c) :
    (c ∈ fs.thermalZoneCandidates ∧ ∀ d ∈ fs.thermalZoneCandidates, c.rank ≤ d.rank) ∨
      (fs.thermalZoneCandidates = [] ∧ c ∈ fs.hwmonCandidates ∧
        ∀ d ∈ fs.hwmonCandidates, c.rank ≤ d.rank) := by
  have hfirst : ∀ {candidates rest}, ranked candidates = c :: rest →
      c ∈ ranked candidates ∧ ∀ d ∈ ranked candidates, c.rank ≤ d.rank := by
    intro candidates rest h
    refine ⟨by rw [h]; exact List.mem_cons_self, ?_⟩
    intro d hd
    exact rank_le_of_tuple_le (tuple_le_of_ranked h (mem_ranked.1 hd))
  cases hzones : fs.thermalZoneCandidates with
  | cons d rest =>
    simp only [discover, hzones, Option.some.injEq] at h
    subst h
    rw [← hzones]
    exact .inl (hfirst hzones)
  | nil =>
    cases hinputs : fs.hwmonCandidates with
    | nil => simp [discover, hzones, hinputs] at h
    | cons d rest =>
      simp only [discover, hzones, hinputs, List.head?_cons, Option.some.injEq] at h
      subst h
      rw [← hinputs]
      exact .inr ⟨rfl, hfirst hinputs⟩

theorem discover_eq_none :
    fs.discover = none ↔ fs.thermalZoneCandidates = [] ∧ fs.hwmonCandidates = [] := by
  cases hzones : fs.thermalZoneCandidates <;> simp [discover, hzones]

end SysFiles

end SweatMeter
