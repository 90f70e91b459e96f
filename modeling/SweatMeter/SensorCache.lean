/-
  The remembered sensor path of `cpu_temperature` against discovery.

  Candidates are ordered by priority and name, and the name determines the path:
  which sensor comes first does not depend on the temperatures.  While the sensors
  stay the same, a remembered path that discovery would choose is therefore as
  good as discovery.  A valid path that was remembered when the sensors were
  others is kept, though, whatever better sensor there is now
  (`remembered_sensor_outranked`).
-/
import SweatMeter.LastResort

namespace SweatMeter

open Py

namespace SysFiles

/-! ## Runs -/

/-- The path remembered after calls over these contents. -/
def remembered (temperatureFile : Option Path) (contents : List SysFiles) : Option Path :=
  contents.foldl (fun file fs => (fs.cpuTemperature file).2) temperatureFile

/-- What these calls return. -/
def readings (temperatureFile : Option Path) : List SysFiles → List (Measurement ℚ)
  | [] => []
  | fs :: rest =>
    (fs.cpuTemperature temperatureFile).1 :: readings (fs.cpuTemperature temperatureFile).2 rest

/-- What a reader with an empty cache returns. -/
def fresh (fs : SysFiles) : Measurement ℚ := (fs.cpuTemperature none).1

variable (fs fs' : SysFiles)

/-- The temperature files that discovery looks at. -/
def SensorFile (path : Path) : Prop :=
  (∃ zone ∈ fs.zones, path = zoneFile zone) ∨
    ∃ hwmon ∈ fs.chips, ∃ input ∈ fs.inputs hwmon, path = inputFile hwmon input

/-- The remembered path, if any, has no valid temperature. -/
def Invalid (temperatureFile : Option Path) : Prop :=
  ∀ path, temperatureFile = some path → fs.temperature path = none

/-- The sensors, their zone types, driver names and labels, and which of them have a
    valid temperature. -/
structure SameSensors : Prop where
  zones : ∀ zone, zone ∈ fs.zones ↔ zone ∈ fs'.zones
  zoneType : ∀ zone ∈ fs.zones, fs.zoneType zone = fs'.zoneType zone
  zoneValid : ∀ zone ∈ fs.zones,
    (fs.temperature (zoneFile zone)).isSome = (fs'.temperature (zoneFile zone)).isSome
  hwmons : ∀ hwmon, hwmon ∈ fs.hwmons ↔ hwmon ∈ fs'.hwmons
  driver : ∀ hwmon ∈ fs.hwmons, fs.driver hwmon = fs'.driver hwmon
  inputs : ∀ hwmon ∈ fs.chips, ∀ input, input ∈ fs.inputs hwmon ↔ input ∈ fs'.inputs hwmon
  label : ∀ hwmon ∈ fs.chips, ∀ input ∈ fs.inputs hwmon,
    fs.label hwmon input = fs'.label hwmon input
  inputValid : ∀ hwmon ∈ fs.chips, ∀ input ∈ fs.inputs hwmon,
    (fs.temperature (inputFile hwmon input)).isSome =
      (fs'.temperature (inputFile hwmon input)).isSome

/-- The remembered path is not in the way of discovery: there is none, it is
    invalid, or it is the one that discovery chooses. -/
def Undisturbed (temperatureFile : Option Path) : Prop :=
  fs.Invalid temperatureFile ∨ fs.discover.map Candidate.path = temperatureFile

variable {fs fs'} {c d : Candidate} {file : Option Path}

/-! ## One call -/

theorem cpuTemperature_of_invalid (h : fs.Invalid file) :
    fs.cpuTemperature file = fs.cpuTemperature none := by
  cases file with
  | none => rfl
  | some path =>
    have hnone := h path rfl
    simp only [cpuTemperature, Option.bind_some, Option.bind_none, hnone]

theorem cpuTemperature_of_valid {path : Path} {t : ℚ} (h : fs.temperature path = some t) :
    fs.cpuTemperature (some path) = (some t, some path) := by
  simp only [cpuTemperature, Option.bind_some, h]

/-- The candidate found has the temperature in its file. -/
theorem temperature_of_discover (h : fs.discover = some c) :
    fs.SensorFile c.path ∧ fs.temperature c.path = some c.temperature := by
  rcases discover_eq_some h with ⟨hmem, -⟩ | ⟨-, hmem, -⟩
  · rcases mem_thermalZoneCandidates.1 hmem with ⟨zone, hzone, hcandidate⟩
    rcases zoneCandidate_eq_some.1 hcandidate with ⟨ht, -, -, hpath⟩
    rw [hpath]
    exact ⟨.inl ⟨zone, hzone, rfl⟩, ht⟩
  · rcases mem_hwmonCandidates.1 hmem with ⟨hwmon, hchip, input, hinput, hcandidate⟩
    rcases inputCandidate_eq_some.1 hcandidate with ⟨ht, -, -, hpath⟩
    rw [hpath]
    exact ⟨.inr ⟨hwmon, hchip, input, hinput, rfl⟩, ht⟩

/-- A call without a remembered path returns and remembers what it discovers. -/
theorem cpuTemperature_none_eq (fs : SysFiles) : fs.cpuTemperature none =
    (fs.discover.map Candidate.temperature, fs.discover.map Candidate.path) := by
  rw [cpuTemperature_none]
  cases fs.discover <;> rfl

theorem cpuTemperature_of_undisturbed (h : fs.Undisturbed file) :
    fs.cpuTemperature file = fs.cpuTemperature none := by
  rcases h with h | rfl
  · exact cpuTemperature_of_invalid h
  · cases hfound : fs.discover with
    | none => rfl
    | some c =>
      rw [cpuTemperature_none_eq, hfound]
      exact cpuTemperature_of_valid (temperature_of_discover hfound).2

/-- A call that returns `UNSUPPORTED`. -/
theorem cpuTemperature_fst_eq_none : (fs.cpuTemperature file).1 = none ↔
    fs.Invalid file ∧ fs.thermalZoneCandidates = [] ∧ fs.hwmonCandidates = [] := by
  rw [← discover_eq_none]
  constructor
  · intro h
    have hinvalid : fs.Invalid file := by
      rintro path rfl
      cases ht : fs.temperature path with
      | none => rfl
      | some t =>
        rw [cpuTemperature_of_valid ht] at h
        cases h
    rw [cpuTemperature_of_invalid hinvalid, cpuTemperature_none_eq] at h
    exact ⟨hinvalid, Option.map_eq_none_iff.1 h⟩
  · rintro ⟨hinvalid, hfound⟩
    rw [cpuTemperature_of_invalid hinvalid, cpuTemperature_none_eq, hfound]
    rfl

theorem millidegrees_bounds {text : Option Text} {t : ℚ} (h : millidegrees text = some t) :
    -27315 / 100 ≤ t ∧ t ≤ 1000 := by
  simp only [millidegrees] at h
  split at h
  · split at h
    · rename_i hbounds
      cases h
      exact hbounds
    · cases h
  · cases h

/-- A numeric result is the current temperature in a file, which is remembered. -/
theorem cpuTemperature_fst_eq_some {t : ℚ} (h : (fs.cpuTemperature file).1 = some t) :
    ∃ path, (fs.cpuTemperature file).2 = some path ∧ fs.temperature path = some t ∧
      (file = some path ∨ fs.SensorFile path) := by
  by_cases hinvalid : fs.Invalid file
  · rw [cpuTemperature_of_invalid hinvalid, cpuTemperature_none_eq] at h ⊢
    rcases Option.map_eq_some_iff.1 h with ⟨c, hfound, rfl⟩
    have hfile := temperature_of_discover hfound
    exact ⟨c.path, by rw [hfound]; rfl, hfile.2, .inr hfile.1⟩
  · simp only [Invalid, not_forall] at hinvalid
    rcases hinvalid with ⟨path, rfl, hvalid⟩
    rcases Option.ne_none_iff_exists'.1 hvalid with ⟨u, hu⟩
    rw [cpuTemperature_of_valid hu] at h ⊢
    cases h
    exact ⟨path, rfl, hu, .inl rfl⟩

/-! ## The order does not depend on the temperatures -/

/-- The candidates that come first in two lists with the same ranks have the same path. -/
theorem first_path_eq {cs cs' : List Candidate} (hc : c ∈ cs) (hd : d ∈ cs')
    (hfirst : ∀ e ∈ cs, c.rank ≤ e.rank) (hfirst' : ∀ e ∈ cs', d.rank ≤ e.rank)
    (h : ∀ e ∈ cs, ∃ e' ∈ cs', e'.rank = e.rank) (h' : ∀ e ∈ cs', ∃ e' ∈ cs, e'.rank = e.rank)
    (hpath : ∀ e ∈ cs, ∀ e' ∈ cs', e.name = e'.name → e.path = e'.path) : c.path = d.path := by
  rcases h c hc with ⟨e, he, hrank⟩
  rcases h' d hd with ⟨e', he', hrank'⟩
  have hle : c.rank ≤ d.rank := hrank' ▸ hfirst e' he'
  have hge : d.rank ≤ c.rank := hrank ▸ hfirst' e he
  have hname : c.name = d.name := congrArg (fun r => (ofLex r).2) (le_antisymm hle hge)
  exact hpath c hc d hd hname

/-- Files of hardware monitors are told apart by `str`. -/
theorem inputFile_of_str {hwmon input hwmon' input' : DirEntry}
    (h : (inputFile hwmon input).str = (inputFile hwmon' input').str) :
    inputFile hwmon input = inputFile hwmon' input' := by
  have hrest : hwmon.name ++ '/' :: input.name = hwmon'.name ++ '/' :: input'.name := by
    simpa [inputFile, Path.str, hwmonRoot, List.intercalate] using h
  rcases (List.append_cons_inj_of_notMem hwmon.noSlash input.noSlash).1 hrest with
    ⟨hchip, -, hinput⟩
  rw [inputFile, inputFile, hchip, hinput]

theorem SameSensors.chips (h : fs.SameSensors fs') {hwmon : DirEntry} (hchip : hwmon ∈ fs.chips) :
    hwmon ∈ fs'.chips := by
  simp only [SysFiles.chips, List.mem_filter] at hchip ⊢
  rcases hchip with ⟨hmem, hdriver⟩
  rw [h.driver hwmon hmem] at hdriver
  exact ⟨(h.hwmons hwmon).1 hmem, hdriver⟩

theorem SameSensors.cpuSensor (h : fs.SameSensors fs') {hwmon input : DirEntry}
    (hchip : hwmon ∈ fs.chips) (hinput : input ∈ fs.inputs hwmon) :
    fs.cpuSensor hwmon input = fs'.cpuSensor hwmon input := by
  have hdriver := h.driver hwmon (List.mem_of_mem_filter hchip)
  have hlabel := h.label hwmon hchip input hinput
  rw [SysFiles.cpuSensor, SysFiles.cpuSensor, cpuLabel, cpuLabel, hdriver, hlabel]

theorem SameSensors.zone_rank (h : fs.SameSensors fs') : ∀ c ∈ fs.thermalZoneCandidates,
    ∃ d ∈ fs'.thermalZoneCandidates, d.rank = c.rank := by
  intro c hc
  rcases mem_thermalZoneCandidates.1 hc with ⟨zone, hzone, hcandidate⟩
  rcases zoneCandidate_eq_some.1 hcandidate with ⟨ht, hpriority, hname, -⟩
  have hvalid := h.zoneValid zone hzone
  rw [ht] at hvalid
  rcases Option.isSome_iff_exists.1 hvalid.symm with ⟨t, ht'⟩
  rw [h.zoneType zone hzone] at hpriority
  refine ⟨⟨c.priority, c.name, t, zoneFile zone⟩, mem_thermalZoneCandidates.2 ?_, rfl⟩
  exact ⟨zone, (h.zones zone).1 hzone, zoneCandidate_eq_some.2 ⟨ht', hpriority, hname, rfl⟩⟩

theorem SameSensors.input_rank (h : fs.SameSensors fs') : ∀ c ∈ fs.hwmonCandidates,
    ∃ d ∈ fs'.hwmonCandidates, d.rank = c.rank := by
  intro c hc
  rcases mem_hwmonCandidates.1 hc with ⟨hwmon, hchip, input, hinput, hcandidate⟩
  rcases inputCandidate_eq_some.1 hcandidate with ⟨ht, hpriority, hname, -⟩
  have hvalid := h.inputValid hwmon hchip input hinput
  rw [ht] at hvalid
  rcases Option.isSome_iff_exists.1 hvalid.symm with ⟨t, ht'⟩
  rw [h.cpuSensor hchip hinput] at hpriority
  refine ⟨⟨c.priority, c.name, t, inputFile hwmon input⟩, mem_hwmonCandidates.2 ?_, rfl⟩
  exact ⟨hwmon, h.chips hchip, input, (h.inputs hwmon hchip input).1 hinput,
    inputCandidate_eq_some.2 ⟨ht', hpriority, hname, rfl⟩⟩

/-- No list of one has a candidate where the list of the other has none. -/
theorem eq_nil_of_rank {cs cs' : List Candidate} (h : ∀ c ∈ cs, ∃ d ∈ cs', d.rank = c.rank)
    (hnil : cs' = []) : cs = [] := by
  rw [List.eq_nil_iff_forall_not_mem]
  intro c hc
  rcases h c hc with ⟨d, hd, -⟩
  rw [hnil] at hd
  exact List.not_mem_nil hd

theorem zone_path_of_name : ∀ c ∈ fs.thermalZoneCandidates, ∀ d ∈ fs'.thermalZoneCandidates,
    c.name = d.name → c.path = d.path := by
  intro c hc d hd hname
  rcases mem_thermalZoneCandidates.1 hc with ⟨zone, -, hzone⟩
  rcases mem_thermalZoneCandidates.1 hd with ⟨zone', -, hzone'⟩
  rcases zoneCandidate_eq_some.1 hzone with ⟨-, -, hc, hpath⟩
  rcases zoneCandidate_eq_some.1 hzone' with ⟨-, -, hd, hpath'⟩
  rw [hpath, hpath', zoneFile, zoneFile, ← hc, ← hd, hname]

theorem input_path_of_name : ∀ c ∈ fs.hwmonCandidates, ∀ d ∈ fs'.hwmonCandidates,
    c.name = d.name → c.path = d.path := by
  intro c hc d hd hname
  rcases mem_hwmonCandidates.1 hc with ⟨hwmon, -, input, -, hinput⟩
  rcases mem_hwmonCandidates.1 hd with ⟨hwmon', -, input', -, hinput'⟩
  rcases inputCandidate_eq_some.1 hinput with ⟨-, -, hc, hpath⟩
  rcases inputCandidate_eq_some.1 hinput' with ⟨-, -, hd, hpath'⟩
  rw [hpath, hpath']
  rw [hc, hd] at hname
  exact inputFile_of_str hname

/-- Discovery chooses the same path whatever the temperatures are. -/
theorem discover_path_eq (h : fs.SameSensors fs') (h' : fs'.SameSensors fs) :
    fs.discover.map Candidate.path = fs'.discover.map Candidate.path := by
  cases hfound : fs.discover with
  | none =>
    rcases discover_eq_none.1 hfound with ⟨hzones, hinputs⟩
    have hfound' : fs'.discover = none :=
      discover_eq_none.2 ⟨eq_nil_of_rank h'.zone_rank hzones, eq_nil_of_rank h'.input_rank hinputs⟩
    rw [hfound']
  | some c =>
    cases hfound' : fs'.discover with
    | none =>
      rcases discover_eq_none.1 hfound' with ⟨hzones, hinputs⟩
      rw [discover_eq_none.2
        ⟨eq_nil_of_rank h.zone_rank hzones, eq_nil_of_rank h.input_rank hinputs⟩] at hfound
      cases hfound
    | some d =>
      refine congrArg some ?_
      rcases discover_eq_some hfound with ⟨hc, hfirst⟩ | ⟨hzones, hc, hfirst⟩
      · rcases discover_eq_some hfound' with ⟨hd, hfirst'⟩ | ⟨hzones', -⟩
        · exact first_path_eq hc hd hfirst hfirst' h.zone_rank h'.zone_rank zone_path_of_name
        · rw [eq_nil_of_rank h.zone_rank hzones'] at hc
          cases hc
      · rcases discover_eq_some hfound' with ⟨hd, -⟩ | ⟨-, hd, hfirst'⟩
        · rw [eq_nil_of_rank h'.zone_rank hzones] at hd
          cases hd
        · exact first_path_eq hc hd hfirst hfirst' h.input_rank h'.input_rank input_path_of_name

/-! ## Stretches -/

/-- Contents over which the sensors stay the same. -/
def Stretch (contents : List SysFiles) : Prop :=
  ∀ fs ∈ contents, ∀ fs' ∈ contents, fs.SameSensors fs'

theorem Stretch.tail {rest : List SysFiles} (h : Stretch (fs :: rest)) : Stretch rest := by
  intro a ha b hb
  exact h a (.tail _ ha) b (.tail _ hb)

/-- An undisturbed reader returns what a fresh one does, and stays undisturbed. -/
theorem readings_of_undisturbed {contents : List SysFiles} (hsame : Stretch contents)
    (h : ∀ fs ∈ contents.head?, fs.Undisturbed file) :
    readings file contents = contents.map fresh := by
  induction contents generalizing file with
  | nil => rfl
  | cons fs rest ih =>
    have hfresh := cpuTemperature_of_undisturbed (h fs rfl)
    rw [readings, hfresh, List.map_cons, ← fresh, cpuTemperature_none_eq]
    refine congrArg (fs.fresh :: ·) (ih hsame.tail ?_)
    intro fs' hfs'
    have hmem : fs' ∈ fs :: rest := .tail _ (List.mem_of_mem_head? hfs')
    exact .inr (discover_path_eq (hsame fs' hmem fs List.mem_cons_self)
      (hsame fs List.mem_cons_self fs' hmem))

/-- A remembered path is read as long as it is valid; from then on the reader is as
    good as a fresh one. -/
theorem readings_of_remembered {contents : List SysFiles} {path : Path} (hsame : Stretch contents) :
    readings (some path) contents =
      (contents.takeWhile fun fs => (fs.temperature path).isSome).map (·.temperature path) ++
        (contents.dropWhile fun fs => (fs.temperature path).isSome).map fresh := by
  induction contents with
  | nil => rfl
  | cons fs rest ih =>
    cases ht : fs.temperature path with
    | some t =>
      rw [readings, cpuTemperature_of_valid ht, ih hsame.tail]
      simp [ht]
    | none =>
      have hinvalid : fs.Undisturbed (some path) := by
        refine .inl ?_
        rintro _ ⟨⟩
        exact ht
      rw [readings_of_undisturbed hsame (by rintro _ ⟨⟩; exact hinvalid)]
      simp [ht]

/-! ## Runs from an empty cache -/

theorem readings_append (before stretch : List SysFiles) : readings file (before ++ stretch) =
    readings file before ++ readings (remembered file before) stretch := by
  induction before generalizing file with
  | nil => rfl
  | cons fs rest ih =>
    rw [List.cons_append, readings, ih, readings, List.cons_append]
    rfl

/-- The remembered path is a temperature file that some call came upon. -/
theorem sensorFile_of_remembered {before : List SysFiles} {path : Path}
    (h : remembered none before = some path) : ∃ fs ∈ before, fs.SensorFile path := by
  induction before using List.reverseRecOn with
  | nil => cases h
  | append_singleton before fs ih =>
    rw [remembered, List.foldl_concat] at h
    change (fs.cpuTemperature (remembered none before)).2 = some path at h
    cases hreading : (fs.cpuTemperature (remembered none before)).1 with
    | none =>
      rcases cpuTemperature_fst_eq_none.1 hreading with ⟨hinvalid, hnone⟩
      rw [cpuTemperature_of_invalid hinvalid, cpuTemperature_none_eq, discover_eq_none.2 hnone] at h
      cases h
    | some t =>
      rcases cpuTemperature_fst_eq_some hreading with ⟨path', hpath, -, hfile⟩
      cases hpath.symm.trans h
      rcases hfile with hfile | hfile
      · rcases ih hfile with ⟨fs', hmem, hsensor⟩
        exact ⟨fs', List.mem_append_left _ hmem, hsensor⟩
      · exact ⟨fs, List.mem_append_right _ (List.mem_singleton_self fs), hfile⟩

/-- What one call returns, after the calls over the contents before. -/
structure HonestCall (before : List SysFiles) (fs : SysFiles) : Prop where
  unsupported : (fs.cpuTemperature (remembered none before)).1 = none ↔
    fs.Invalid (remembered none before) ∧ fs.thermalZoneCandidates = [] ∧ fs.hwmonCandidates = []
  current : ∀ t, (fs.cpuTemperature (remembered none before)).1 = some t →
    ∃ path, fs.temperature path = some t ∧ (∃ fs' ∈ before ++ [fs], fs'.SensorFile path) ∧
      -27315 / 100 ≤ t ∧ t ≤ 1000

theorem honestCall (before : List SysFiles) (fs : SysFiles) : HonestCall before fs where
  unsupported := cpuTemperature_fst_eq_none
  current t ht := by
    rcases cpuTemperature_fst_eq_some ht with ⟨path, -, hread, hfile⟩
    refine ⟨path, hread, ?_, millidegrees_bounds hread⟩
    rcases hfile with hfile | hfile
    · rcases sensorFile_of_remembered hfile with ⟨fs', hmem, hsensor⟩
      exact ⟨fs', List.mem_append_left _ hmem, hsensor⟩
    · exact ⟨fs, List.mem_append_right _ (List.mem_singleton_self fs), hfile⟩

/-- Over every stretch a reader returns what fresh readers would. -/
def CacheRefinesDiscovery : Prop :=
  ∀ before stretch : List SysFiles, Stretch stretch →
    readings none (before ++ stretch) = readings none before ++ stretch.map fresh

/-- **The sensor cache.**  A call returns `UNSUPPORTED` exactly if the remembered
    path is invalid and there is no candidate, and otherwise the current
    temperature in a sensor file.  Over a stretch a reader returns what fresh
    readers would, if the path it remembers at the start is invalid or the one that
    discovery chooses; another path is read as long as it is valid. -/
theorem sensor_cache (before : List SysFiles) :
    (∀ fs, HonestCall before fs) ∧
    ∀ stretch, Stretch stretch →
      ((∀ fs ∈ stretch.head?, fs.Undisturbed (remembered none before)) →
        readings none (before ++ stretch) = readings none before ++ stretch.map fresh) ∧
      ∀ path, remembered none before = some path → readings none (before ++ stretch) =
        readings none before ++
          ((stretch.takeWhile fun fs => (fs.temperature path).isSome).map (·.temperature path) ++
            (stretch.dropWhile fun fs => (fs.temperature path).isSome).map fresh) := by
  refine ⟨honestCall before, ?_⟩
  intro stretch hsame
  refine ⟨?_, ?_⟩
  · intro h
    rw [readings_append, readings_of_undisturbed hsame h]
  · intro path hpath
    rw [readings_append, hpath, readings_of_remembered hsame]

theorem SameSensors.refl (fs : SysFiles) : fs.SameSensors fs :=
  ⟨fun _ => Iff.rfl, fun _ _ => rfl, fun _ _ => rfl, fun _ => Iff.rfl, fun _ _ => rfl,
    fun _ _ _ => Iff.rfl, fun _ _ _ _ => rfl, fun _ _ _ _ => rfl⟩

theorem stretch_singleton (fs : SysFiles) : Stretch [fs] := by
  intro a ha b hb
  rw [List.mem_singleton.1 ha, List.mem_singleton.1 hb]
  exact .refl fs

/-- The second call reads the path that the first one discovered. -/
theorem sensor_cache_second_call : readings none ([mysteryZone] ++ [mysteryZone]) =
    readings none [mysteryZone] ++ [mysteryZone].map fresh := by
  refine ((sensor_cache [mysteryZone]).2 [mysteryZone] (stretch_singleton _)).1 ?_
  rintro _ ⟨⟩
  refine .inr ?_
  decide +kernel

end SysFiles

/-! ## A better sensor that appears late -/

def zone1 : DirEntry := ⟨"thermal_zone1".toList, by simp⟩

/-- An ACPI zone at 40 degrees, and these further files and zones. -/
def acpiZone (files : List (Path × Text)) (zones : List DirEntry) : SysFiles :=
  .ofList
    ((thermalRoot ++ [zone0.name, "type".toList], "acpitz\n".toList) ::
      (SysFiles.zoneFile zone0, "40000\n".toList) :: files)
    [(thermalRoot, zone0 :: zones)]

/-- The CPU package at 70 degrees beside it. -/
def packageZone : SysFiles :=
  acpiZone
    [(thermalRoot ++ [zone1.name, "type".toList], "x86_pkg_temp\n".toList),
      (SysFiles.zoneFile zone1, "70000\n".toList)]
    [zone1]

/-- The remembered ACPI zone is read although the zone of the CPU package is there. -/
theorem remembered_sensor_outranked :
    SysFiles.readings none ([acpiZone [] []] ++ [packageZone]) = [some 40, some 40] ∧
    packageZone.fresh = some 70 ∧ ¬ SysFiles.CacheRefinesDiscovery := by
  have hreadings : SysFiles.readings none ([acpiZone [] []] ++ [packageZone]) =
      [some 40, some 40] := by decide +kernel
  have hfresh : packageZone.fresh = some 70 := by decide +kernel
  refine ⟨hreadings, hfresh, ?_⟩
  intro h
  have hrefined := h [acpiZone [] []] [packageZone] (SysFiles.stretch_singleton _)
  rw [hreadings, List.map_cons, hfresh] at hrefined
  simp [SysFiles.readings] at hrefined

end SweatMeter
