/-
  Which sensor a first call of `cpu_temperature` reads.

  Within the thermal zones the preferred types come first, and within the
  hardware monitors the sensors with a CPU driver or a CPU label do.  The hardware
  monitors as a whole are a fallback for hosts where no zone has a valid
  temperature: a zone of unknown type is read although a monitor of the CPU is
  there (`unknown_zone_before_coretemp`).
-/
import SweatMeter.Temperature

namespace SweatMeter

open Py

namespace SysFiles

variable (fs : SysFiles)

/-- A first call returns the temperature in this file. -/
def FirstReads (path : Path) : Prop :=
  fs.cpuTemperature none = (fs.temperature path, some path)

/-- The type of the zone is in the preferred CPU list. -/
def Preferred (zone : DirEntry) : Prop := fs.zoneType zone ∈ preferredThermalZoneTypes

/-- No preferred zone has a valid temperature. -/
def NoPreferredZone : Prop :=
  ∀ zone ∈ fs.zones, fs.Preferred zone → fs.temperature (zoneFile zone) = none

/-- No zone at all has a valid temperature. -/
def NoZone : Prop := ∀ zone ∈ fs.zones, fs.temperature (zoneFile zone) = none

/-- No sensor with a CPU driver or a CPU label has a valid temperature. -/
def NoCpuInput : Prop :=
  ∀ hwmon ∈ fs.chips, ∀ input ∈ fs.inputs hwmon, fs.cpuSensor hwmon input = true →
    fs.temperature (inputFile hwmon input) = none

/-- A sensor that is not known to be the CPU's is read only if none that is has a
    valid temperature, in either tree. -/
def UnknownLast : Prop :=
  (∀ zone ∈ fs.zones, fs.FirstReads (zoneFile zone) → ¬ fs.Preferred zone →
    fs.NoPreferredZone ∧ fs.NoCpuInput) ∧
  ∀ hwmon ∈ fs.chips, ∀ input ∈ fs.inputs hwmon, fs.FirstReads (inputFile hwmon input) →
    fs.cpuSensor hwmon input = false → fs.NoPreferredZone ∧ fs.NoCpuInput

/-- The same, tree by tree: an unknown zone is read only if no preferred zone has a
    valid temperature, an unknown monitor only if no zone and no monitor of the
    CPU has one. -/
def UnknownLastOfTree : Prop :=
  (∀ zone ∈ fs.zones, fs.FirstReads (zoneFile zone) → ¬ fs.Preferred zone →
    fs.NoPreferredZone) ∧
  ∀ hwmon ∈ fs.chips, ∀ input ∈ fs.inputs hwmon, fs.FirstReads (inputFile hwmon input) →
    fs.cpuSensor hwmon input = false → fs.NoZone ∧ fs.NoCpuInput

/-- A first call finds nothing, or reads a sensor of one of the trees. -/
def FirstCall : Prop :=
  fs.cpuTemperature none = (none, none) ∨ (∃ zone ∈ fs.zones, fs.FirstReads (zoneFile zone)) ∨
    ∃ hwmon ∈ fs.chips, ∃ input ∈ fs.inputs hwmon, fs.FirstReads (inputFile hwmon input)

variable {fs} {c : Candidate} {zone hwmon input : DirEntry}

theorem cpuTemperature_none : fs.cpuTemperature none =
    match fs.discover with
    | some c => (some c.temperature, some c.path)
    | none => (none, none) := rfl

theorem discover_of_firstReads {path : Path} (h : fs.FirstReads path) :
    ∃ c, fs.discover = some c ∧ c.path = path := by
  rw [FirstReads, cpuTemperature_none] at h
  cases hfound : fs.discover with
  | none =>
    rw [hfound] at h
    cases congrArg Prod.snd h
  | some c =>
    rw [hfound] at h
    exact ⟨c, rfl, Option.some.inj (congrArg Prod.snd h)⟩

theorem firstReads_of_discover (h : fs.discover = some c)
    (ht : fs.temperature c.path = some c.temperature) : fs.FirstReads c.path := by
  rw [FirstReads, cpuTemperature_none, h, ht]

/-! ## Files of the two trees -/

theorem zoneFile_inj {zone' : DirEntry} (h : zoneFile zone = zoneFile zone') :
    zone = zone' := by
  have hname : zone.name = zone'.name := by simpa [zoneFile] using h
  exact DirEntry.ext hname

theorem inputFile_inj {hwmon' input' : DirEntry}
    (h : inputFile hwmon input = inputFile hwmon' input') :
    hwmon = hwmon' ∧ input = input' := by
  have hnames : hwmon.name = hwmon'.name ∧ input.name = input'.name := by
    simpa [inputFile] using h
  exact ⟨DirEntry.ext hnames.1, DirEntry.ext hnames.2⟩

theorem zoneFile_ne_inputFile : zoneFile zone ≠ inputFile hwmon input := by
  intro h
  have hroot : thermalRoot = hwmonRoot := congrArg (List.take 2) h
  revert hroot
  decide

/-! ## The order of preference -/

theorem thermalZoneCandidates_eq_nil (h : fs.thermalZoneCandidates = []) : fs.NoZone := by
  intro zone hzone
  rw [thermalZoneCandidates, ranked_eq_nil, List.filterMap_eq_nil_iff] at h
  exact Option.map_eq_none_iff.1 (h zone hzone)

/-- The sensor found, where it is the file of a zone. -/
theorem zone_of_discover (h : fs.discover = some c) (hpath : c.path = zoneFile zone) :
    c.priority = preferredThermalZoneTypes.idxOf (fs.zoneType zone) ∧
      ∀ d ∈ fs.thermalZoneCandidates, c.rank ≤ d.rank := by
  rcases discover_eq_some h with ⟨hmem, hfirst⟩ | ⟨-, hmem, -⟩
  · rcases mem_thermalZoneCandidates.1 hmem with ⟨zone', -, hzone'⟩
    rcases zoneCandidate_eq_some.1 hzone' with ⟨-, hpriority, -, hfile⟩
    rcases zoneFile_inj (hpath.symm.trans hfile) with rfl
    exact ⟨hpriority, hfirst⟩
  · rcases mem_hwmonCandidates.1 hmem with ⟨hwmon, -, input, -, hinput⟩
    rcases inputCandidate_eq_some.1 hinput with ⟨-, -, -, hfile⟩
    exact absurd (hpath.symm.trans hfile) zoneFile_ne_inputFile

/-- The sensor found, where it is a file of a hardware monitor. -/
theorem input_of_discover (h : fs.discover = some c) (hpath : c.path = inputFile hwmon input) :
    c.priority = (if fs.cpuSensor hwmon input then 0 else 1) ∧ fs.thermalZoneCandidates = [] ∧
      ∀ d ∈ fs.hwmonCandidates, c.rank ≤ d.rank := by
  rcases discover_eq_some h with ⟨hmem, -⟩ | ⟨hzones, hmem, hfirst⟩
  · rcases mem_thermalZoneCandidates.1 hmem with ⟨zone, -, hzone⟩
    rcases zoneCandidate_eq_some.1 hzone with ⟨-, -, -, hfile⟩
    exact absurd (hfile.symm.trans hpath) zoneFile_ne_inputFile
  · rcases mem_hwmonCandidates.1 hmem with ⟨hwmon', -, input', -, hinput'⟩
    rcases inputCandidate_eq_some.1 hinput' with ⟨-, hpriority, -, hfile⟩
    rcases inputFile_inj (hfile.symm.trans hpath) with ⟨rfl, rfl⟩
    exact ⟨hpriority, hzones, hfirst⟩

/-- An unknown zone comes after the preferred ones. -/
theorem noPreferredZone_of_firstReads (hreads : fs.FirstReads (zoneFile zone))
    (hunknown : ¬ fs.Preferred zone) : fs.NoPreferredZone := by
  intro zone' hzone' hpreferred
  rcases discover_of_firstReads hreads with ⟨c, hfound, hpath⟩
  rcases zone_of_discover hfound hpath with ⟨hpriority, hfirst⟩
  cases ht : fs.temperature (zoneFile zone') with
  | none => rfl
  | some t =>
    have hmem : ⟨preferredThermalZoneTypes.idxOf (fs.zoneType zone'), zone'.name, t,
        zoneFile zone'⟩ ∈ fs.thermalZoneCandidates :=
      mem_thermalZoneCandidates.2 ⟨zone', hzone', zoneCandidate_eq_some.2 ⟨ht, rfl, rfl, rfl⟩⟩
    have hle : c.priority ≤ preferredThermalZoneTypes.idxOf (fs.zoneType zone') :=
      priority_le_of_rank_le (hfirst _ hmem)
    have hlt := List.idxOf_lt_length_iff.2 hpreferred
    rw [hpriority, List.idxOf_eq_length hunknown] at hle
    omega

/-- An unknown monitor comes after those of the CPU, and after the zones. -/
theorem noCpuInput_of_firstReads (hreads : fs.FirstReads (inputFile hwmon input))
    (hunknown : fs.cpuSensor hwmon input = false) : fs.NoZone ∧ fs.NoCpuInput := by
  rcases discover_of_firstReads hreads with ⟨c, hfound, hpath⟩
  rcases input_of_discover hfound hpath with ⟨hpriority, hzones, hfirst⟩
  refine ⟨thermalZoneCandidates_eq_nil hzones, ?_⟩
  intro hwmon' hchip input' hinput hcpu
  cases ht : fs.temperature (inputFile hwmon' input') with
  | none => rfl
  | some t =>
    have hmem : ⟨0, (inputFile hwmon' input').str, t, inputFile hwmon' input'⟩ ∈
        fs.hwmonCandidates :=
      mem_hwmonCandidates.2 ⟨hwmon', hchip, input', hinput,
        inputCandidate_eq_some.2 ⟨ht, by rw [hcpu]; rfl, rfl, rfl⟩⟩
    have hle := priority_le_of_rank_le (hfirst _ hmem)
    rw [hpriority, hunknown] at hle
    cases hle

theorem firstCall (fs : SysFiles) : fs.FirstCall := by
  cases hfound : fs.discover with
  | none =>
    refine .inl ?_
    rw [cpuTemperature_none, hfound]
  | some c =>
    rcases discover_eq_some hfound with ⟨hmem, -⟩ | ⟨-, hmem, -⟩
    · rcases mem_thermalZoneCandidates.1 hmem with ⟨zone, hzone, hcandidate⟩
      rcases zoneCandidate_eq_some.1 hcandidate with ⟨ht, -, -, hpath⟩
      rw [← hpath] at ht
      exact .inr (.inl ⟨zone, hzone, hpath ▸ firstReads_of_discover hfound ht⟩)
    · rcases mem_hwmonCandidates.1 hmem with ⟨hwmon, hchip, input, hinput, hcandidate⟩
      rcases inputCandidate_eq_some.1 hcandidate with ⟨ht, -, -, hpath⟩
      rw [← hpath] at ht
      exact .inr (.inr ⟨hwmon, hchip, input, hinput, hpath ▸ firstReads_of_discover hfound ht⟩)

/-- **Unknown sensors come last in their tree.**  A first call reads a sensor, if it
    returns a temperature at all; an unknown zone only if no preferred zone has a
    valid temperature, and an unknown monitor only if no zone and no monitor of
    the CPU has one. -/
theorem unknown_sensors_last (fs : SysFiles) : fs.FirstCall ∧ fs.UnknownLastOfTree := by
  refine ⟨firstCall fs, ?_, ?_⟩
  · intro zone _ hreads hunknown
    exact noPreferredZone_of_firstReads hreads hunknown
  · intro hwmon _ input _ hreads hunknown
    exact noCpuInput_of_firstReads hreads hunknown

end SysFiles

/-! ## A zone of unknown type -/

/-- The file tree with these files and nothing else. -/
def SysFiles.ofList (files : List (Path × Text)) (dirs : List (Path × List DirEntry)) :
    SysFiles where
  read path := match files.lookup path with
    | some text => .ok text
    | none => .error ⟨"FileNotFoundError"⟩
  entries path := match dirs.lookup path with
    | some es => .ok es
    | none => .error ⟨"FileNotFoundError"⟩

def zone0 : DirEntry := ⟨"thermal_zone0".toList, by simp⟩

def hwmon0 : DirEntry := ⟨"hwmon0".toList, by simp⟩

def temp1 : DirEntry := ⟨"temp1_input".toList, by simp⟩

/-- A zone of unknown type beside the CPU's hardware monitor. -/
def mysteryZone : SysFiles :=
  .ofList
    [(thermalRoot ++ [zone0.name, "type".toList], "mystery_sensor\n".toList),
      (SysFiles.zoneFile zone0, "42000\n".toList),
      (hwmonRoot ++ [hwmon0.name, "name".toList], "coretemp\n".toList),
      (SysFiles.inputFile hwmon0 temp1, "61000\n".toList)]
    [(thermalRoot, [zone0]), (hwmonRoot, [hwmon0]), (hwmonRoot ++ [hwmon0.name], [temp1])]

/-- The 42 degrees of the unknown zone are read, not the 61 degrees of the CPU. -/
theorem unknown_zone_before_coretemp : ¬ ∀ fs : SysFiles, fs.UnknownLast := by
  intro h
  have hreads : mysteryZone.FirstReads (SysFiles.zoneFile zone0) := by
    unfold SysFiles.FirstReads
    decide +kernel
  have hunknown : ¬ mysteryZone.Preferred zone0 := by
    unfold SysFiles.Preferred
    decide +kernel
  have hzone : zone0 ∈ mysteryZone.zones := by
    have hzones : mysteryZone.zones = [zone0] := rfl
    rw [hzones]
    exact List.mem_singleton_self _
  have hchip : hwmon0 ∈ mysteryZone.chips := by
    have hchips : mysteryZone.chips = [hwmon0] := rfl
    rw [hchips]
    exact List.mem_singleton_self _
  have hinput : temp1 ∈ mysteryZone.inputs hwmon0 := by
    have hinputs : mysteryZone.inputs hwmon0 = [temp1] := rfl
    rw [hinputs]
    exact List.mem_singleton_self _
  have hcpu : mysteryZone.cpuSensor hwmon0 temp1 = true := by decide +kernel
  have htemperature : mysteryZone.temperature (SysFiles.inputFile hwmon0 temp1) = some 61 := by
    decide +kernel
  have hnone := ((h mysteryZone).1 zone0 hzone hreads hunknown).2 hwmon0 hchip temp1 hinput hcpu
  rw [htemperature] at hnone
  cases hnone

end SweatMeter
