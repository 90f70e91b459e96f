/-
  The readers that `platform.py` chooses, and those that stand in for a platform
  without one: the null readers, and the stubs of Windows and macOS.

  A collector over these fabricates nothing: no figure is supported, and the reasons
  are exactly those of the reader, under exactly the fields of the host
  (`fallback_fabricates_nothing`).
-/
import SweatMeter.Outlives
import SweatMeter.ReaderState

namespace SweatMeter

open Py Py.Stateful

/-! ## Selection -/

/-- `UnsupportedPlatformError`, by its details. -/
structure UnsupportedPlatformError where
  platform : String
  feature : String
  deriving DecidableEq

/-- The readers of `create_host_reader`. -/
inductive HostPlatform where
  | linux
  | windows
  | darwin
  deriving DecidableEq

/-- `create_host_reader`, for a name of a platform. -/
def createHostReader (platformName : String) : Except UnsupportedPlatformError HostPlatform :=
  match platformName with
  | "linux" => .ok .linux
  | "win32" => .ok .windows
  | "darwin" => .ok .darwin
  | other => .error ⟨other, "host telemetry"⟩

/-- `GpuBackend`. -/
inductive GpuBackend where
  | nvidiaSmi
  | pynvml
  deriving DecidableEq

/-- What `create_gpu_reader` raises, by its details. -/
inductive GpuReaderError where
  /-- `DependencyUnavailableError` -/
  | dependencyUnavailable (dependency field : String)
  /-- `ValidationError` -/
  | validation (field : String)
  deriving DecidableEq

/-- What is passed for `prefer`. -/
inductive Prefer where
  | none
  | backend (b : GpuBackend)
  | other
  deriving DecidableEq

/-- `create_gpu_reader`, where `nvml_binding_available()` answers this. -/
def createGpuReader (nvmlBindingAvailable : Bool) : Prefer → Except GpuReaderError GpuBackend
  | .none => .ok (if nvmlBindingAvailable then .pynvml else .nvidiaSmi)
  | .backend .nvidiaSmi => .ok .nvidiaSmi
  | .backend .pynvml =>
    if nvmlBindingAvailable then .ok .pynvml else .error (.dependencyUnavailable "pynvml" "prefer")
  | .other => .error (.validation "prefer")

/-! ## GPU readers -/

variable {σ : Type}

/-- A GPU reader that makes no snapshot fail, and whose reasons are about GPUs. -/
structure GpuReaderObject.Plain (gpu : GpuReaderObject σ) : Prop where
  rows : ∀ t, RowsNormalizable (gpu.observe t).1.rows
  reasons : ∀ t, ∃ reasons, readerReasons (gpu.observe t).1.unavailableReasons = .ok reasons ∧
    ∀ p ∈ reasons, IsGpuKey p.1

/-! ## Null readers -/

/-- The reason that a null reader keeps. -/
structure NullReason where
  text : String
  ne_empty : text ≠ ""

/-- The constructor of a null reader: `ValidationError` for what is no text, or a blank one. -/
def nullReason : Obj → Except Exn NullReason
  | .str s =>
    if h : strip s.toList = [] then .error ⟨"ValidationError"⟩
    else .ok ⟨String.ofList (strip s.toList), fun heq => h (by simpa using congrArg String.toList heq)⟩
  | _ => .error ⟨"ValidationError"⟩

/-- The constructor takes any text that is not blank, without the blanks around it. -/
theorem nullReason_eq_ok {value : Obj} {reason : NullReason} : nullReason value = .ok reason ↔
    ∃ s, value = .str s ∧ strip s.toList ≠ [] ∧ reason.text = String.ofList (strip s.toList) := by
  obtain ⟨text, hne⟩ := reason
  unfold nullReason
  split
  · next s =>
    split_ifs with hblank
    · simp [hblank]
    · simp [hblank, @eq_comm _ text]
  · next hother =>
    refine iff_of_false (by rintro ⟨⟩) ?_
    rintro ⟨s, hs, -⟩
    exact hother s hs

/-- `_HOST_STATIC_FIELDS`. -/
def hostStaticFields : List String :=
  ["hostname", "os_name", "os_version", "kernel", "architecture", "cpu_model", "physical_cores",
    "logical_cores", "ram_bytes"]

/-- A dictionary with one value for all keys, as a reader returns it. -/
def fromkeys (keys : List String) (value : String) : ReasonSurface :=
  .mapping (.ok (keys.map fun key => some (.str key, .str value)))

/-- `NullHostReader`. -/
def NullHostReader.reader (reason : NullReason) : HostReaderObject σ where
  cpuPercent := return .unsupported
  loadAverage1m := return .unsupported
  memory := return some emptyMemory
  cpuTemperature := return .unsupported
  diskThroughput := return some emptyDisk
  processRssBytes := return .unsupported
  staticFacts := return some emptyFacts
  unavailableReasons _ :=
    fromkeys (HostField.all.map HostField.name ++ hostStaticFields) reason.text

/-- `NullGpuReader`. -/
def NullGpuReader.reader (reason : NullReason) : GpuReaderObject σ where
  sample := return []
  staticInfo := return []
  unavailableReasons _ := fromkeys ["gpu"] reason.text

/-- `_unsupported` of a stub. -/
def unsupportedPlatform {T : Type} : EStateM Exn σ T := throw ⟨"UnsupportedPlatformError"⟩

/-- `WindowsHostReader` and `DarwinHostReader`. -/
def stubHostReader : HostReaderObject σ where
  cpuPercent := unsupportedPlatform
  loadAverage1m := unsupportedPlatform
  memory := unsupportedPlatform
  cpuTemperature := unsupportedPlatform
  diskThroughput := unsupportedPlatform
  processRssBytes := unsupportedPlatform
  staticFacts := unsupportedPlatform
  unavailableReasons _ := .absent

/-- A dictionary of texts is read as it is. -/
theorem readerReasons_items {items : List (String × String)}
    (h : ∀ p ∈ items, p.1 ≠ "" ∧ p.2 ≠ "") :
    readerReasons (.mapping (.ok (items.map fun p => some (.str p.1, .str p.2)))) = .ok items := by
  have hpairs : (items.map fun p => some (Obj.str p.1, Obj.str p.2)).mapM unpack =
      .ok (items.map fun p => (.str p.1, .str p.2)) := by
    rw [List.mapM_map]
    exact mapM_eq_map fun _ _ => rfl
  have hwell : (items.map fun p => (Obj.str p.1, Obj.str p.2)).filterMap wellFormedReason =
      items := by
    clear hpairs
    induction items with
    | nil => rfl
    | cons p items ih =>
      obtain ⟨hp, hrest⟩ := List.forall_mem_cons.1 h
      have hone : wellFormedReason (.str p.1, .str p.2) = some p := if_pos hp
      rw [List.map_cons, List.filterMap_cons, hone, ih hrest]
  rw [readerReasons, hpairs, ok_bind, hwell]
  rfl

theorem readerReasons_fromkeys {keys : List String} {value : String} (hkeys : "" ∉ keys)
    (hvalue : value ≠ "") : readerReasons (fromkeys keys value) = .ok (keys.map (·, value)) := by
  have hitems := @readerReasons_items (keys.map (·, value)) ?_
  · rwa [List.map_map] at hitems
  · rintro p hp
    obtain ⟨key, hkey, rfl⟩ := List.mem_map.1 hp
    exact ⟨fun heq => hkeys (heq ▸ hkey), hvalue⟩

/-- A null reader has no rows, and one reason. -/
theorem NullGpuReader.plain (reason : NullReason) :
    (NullGpuReader.reader reason : GpuReaderObject σ).Plain where
  rows t := ⟨by rintro row ⟨⟩, by rintro i row ⟨⟩⟩
  reasons t := by
    refine ⟨_, readerReasons_fromkeys (by decide) reason.ne_empty, ?_⟩
    intro p hp
    rw [List.map_singleton, List.mem_singleton] at hp
    exact .inl (congrArg Prod.fst hp)

/-! ## What stands in for a host -/

inductive FallbackHost where
  | null (reason : NullReason)
  /-- of Windows or macOS -/
  | stub

namespace FallbackHost

def reader : FallbackHost → HostReaderObject σ
  | null reason => NullHostReader.reader reason
  | stub => stubHostReader

/-- The reason of each field. -/
def reason : FallbackHost → String
  | null reason => reason.text
  | stub => "reader_error"

/-- The fields of a profile that have it. -/
def profileFields : FallbackHost → List String
  | null _ => hostStaticFields
  | stub => factFields

/-- The names of the live fields. -/
def liveFields : List String := HostField.all.map HostField.name

theorem mem_liveFields {key : String} : key ∈ liveFields ↔ ∃ f : HostField, f.name = key := by
  simp [liveFields, HostField.mem_all]

/-- A dictionary updated with one value for some keys. -/
theorem getElem?_update_const {keys : List String} {value key : String} (r : Dict String) :
    (r.update (keys.map (·, value)))[key]? = if key ∈ keys then some value else r[key]? := by
  split_ifs with hkey
  · refine Dict.getElem?_update_of_mem r (List.mem_map.2 ⟨key, hkey, rfl⟩) ?_
    intro w hw
    obtain ⟨_, -, heq⟩ := List.mem_map.1 hw
    exact (Prod.mk.inj heq).2.symm
  · refine Dict.getElem?_update_of_ne r ?_
    intro p hp heq
    obtain ⟨k, hk, rfl⟩ := List.mem_map.1 hp
    exact hkey (heq ▸ hk)

/-- The last two layers: the reason of the null GPU reader. -/
theorem getElem?_null_gpu (gpu : NullReason) (key : String) (r : Dict String) :
    ((r.update [("gpu", gpu.text)]).setdefault "gpu" "no_gpus")[key]? =
      if key = "gpu" then some gpu.text else r[key]? := by
  have hupdate : (r.update [("gpu", gpu.text)])[key]? =
      if key = "gpu" then some gpu.text else r[key]? := by
    simpa using @getElem?_update_const ["gpu"] gpu.text key r
  by_cases hkey : key = "gpu"
  · rw [if_pos hkey] at hupdate ⊢
    exact Dict.getElem?_setdefault_of_some _ _ _ hupdate
  · rw [Dict.getElem?_setdefault_of_ne _ _ (Ne.symm hkey), hupdate]

variable (host : FallbackHost) (gpu : NullReason)

/-! ## Snapshots -/

theorem observe_value (clocks : Clocks) (s : σ) (f : HostField) :
    (observe host.reader (NullGpuReader.reader gpu) clocks s).1.host.value f = .ok .unsupported := by
  cases host <;> cases f <;> rfl

theorem observe_rows (clocks : Clocks) (s : σ) :
    (observe host.reader (NullGpuReader.reader gpu) clocks s).1.gpu.rows = [] := by
  cases host <;> rfl

/-- The reasons of the host reader. -/
def hostItems : FallbackHost → List (String × String)
  | null reason => (liveFields ++ hostStaticFields).map (·, reason.text)
  | stub => []

theorem readerReasons_host (clocks : Clocks) (s : σ) :
    readerReasons (observe host.reader (NullGpuReader.reader gpu) clocks s).1.host.unavailableReasons =
      .ok host.hostItems := by
  cases host with
  | null reason => exact readerReasons_fromkeys (by decide) reason.ne_empty
  | stub => rfl

theorem readerReasons_gpu (clocks : Clocks) (s : σ) :
    readerReasons (observe host.reader (NullGpuReader.reader gpu) clocks s).1.gpu.unavailableReasons =
      .ok [("gpu", gpu.text)] := by
  cases host <;> exact readerReasons_fromkeys (by decide) gpu.ne_empty

/-- Those of these fields that the failed reads of a stub note. -/
def noted (fields : List String) : FallbackHost → List String
  | null _ => []
  | stub => fields

theorem getElem?_boundaryNotes (clocks : Clocks) (s : σ) {key : String} (hkey : key ≠ "timestamp") :
    (boundaryNotes (observe host.reader (NullGpuReader.reader gpu) clocks s).1)[key]? =
      if key ∈ host.noted liveFields then some "reader_error" else none := by
  have hclock : (timestampOf clocks ∅).2[key]? = none := by
    refine Std.ExtTreeMap.getElem?_eq_none ?_
    intro hmem
    rcases mem_timestampOf hmem with hmem | hmem
    · simp at hmem
    · exact hkey hmem
  have hnotes : boundaryNotes (observe host.reader (NullGpuReader.reader gpu) clocks s).1 =
      (host.noted liveFields).foldl (fun r f => r.set f "reader_error")
        (timestampOf clocks ∅).2 := by
    cases host <;> rfl
  rw [hnotes, getElem?_foldl_set, hclock]

theorem tolerated_observe (clocks : Clocks) (s : σ) :
    Tolerated (observe host.reader (NullGpuReader.reader gpu) clocks s).1 where
  host f := ⟨_, observe_value host gpu clocks s f, trivial⟩
  gpus := by
    rw [observe_rows]
    exact ⟨by rintro row ⟨⟩, by rintro i row ⟨⟩⟩
  hostReasons := returns_readerReasons.1 ⟨_, readerReasons_host host gpu clocks s⟩
  gpuReasons := returns_readerReasons.1 ⟨_, readerReasons_gpu host gpu clocks s⟩

/-- The snapshot of a fallback: no figure, no device, and the reasons of the readers. -/
structure Blank (x : TelemetrySnapshot Number) : Prop where
  unsupported : ∀ f, x.host f = none
  noDevice : x.gpus = []
  reasons : ∀ key, key ≠ "timestamp" → x.unavailableReasons[key]? =
    if key = "gpu" then some gpu.text
    else if key ∈ liveFields then some host.reason else none

theorem blank_snapshot (c : TelemetryCollector) (clocks : Clocks) (s : σ) :
    Blank host gpu (c.snapshot (observe host.reader (NullGpuReader.reader gpu) clocks s).1).1 := by
  obtain ⟨x, hx⟩ := returns_collect.2 (tolerated_observe host gpu clocks s)
  obtain ⟨hcollected, n, r, hr, gr, hloop, -, hhr, hgr, hreasons⟩ := collect_spec hx
  have hgpus : x.gpus = [] := by
    obtain ⟨m, hm, hgpus⟩ := hcollected.gpus
    rw [observe_rows] at hm
    cases hm
    exact hgpus
  rw [TelemetryCollector.snapshot, hx]
  refine ⟨fun f => ?_, hgpus, fun key hkey => ?_⟩
  · have hf := hcollected.host f
    rw [HostReader.measurement, observe_value, ok_bind] at hf
    exact (Except.ok.inj hf).symm
  · rw [observe_rows] at hloop
    cases hloop
    cases (readerReasons_host host gpu clocks s).symm.trans hhr
    cases (readerReasons_gpu host gpu clocks s).symm.trans hgr
    rw [TelemetrySnapshot.unavailableReasons, hreasons, Dict.ofItems_sortedItems, finishNotes,
      if_pos hgpus, getElem?_null_gpu]
    by_cases hgpu : key = "gpu"
    · rw [if_pos hgpu, if_pos hgpu]
    rw [if_neg hgpu, if_neg hgpu]
    have hnotes := getElem?_boundaryNotes host gpu clocks s hkey
    have hmarked (hlive : key ∉ liveFields) (hnote : (boundaryNotes
        (observe host.reader (NullGpuReader.reader gpu) clocks s).1)[key]? = none) :
        (markUnsupported x.host "sensor_unsupported" (boundaryNotes
          (observe host.reader (NullGpuReader.reader gpu) clocks s).1))[key]? = none := by
      refine Std.ExtTreeMap.getElem?_eq_none ?_
      intro hmem
      rcases mem_markUnsupported.1 hmem with hmem | ⟨f, -, hf⟩
      · rw [Std.ExtTreeMap.mem_iff_isSome_getElem?, hnote] at hmem
        cases hmem
      · exact hlive (mem_liveFields.2 ⟨f, hf⟩)
    cases host with
    | null reason =>
      have hlive : (hostItems (null reason)).filter (fun p => p.1 ∈ HostField.all.map HostField.name) =
          liveFields.map (·, reason.text) := by
        rw [hostItems, List.filter_map]
        rfl
      rw [hlive, getElem?_update_const]
      split_ifs with hmem
      · rfl
      · exact hmarked hmem (hnotes.trans (if_neg List.not_mem_nil))
    | stub =>
      show (markUnsupported x.host "sensor_unsupported" _)[key]? = _
      split_ifs with hmem
      · exact outlives_markUnsupported _ _ _ _ (hnotes.trans (if_pos hmem))
      · exact hmarked hmem (hnotes.trans (if_neg hmem))

/-! ## Profiles -/

variable {F : Type} (core : BaseAiCore F)

/-- What `machine_profile` meets. -/
abbrev profileBoundary (clocks : Clocks) (s : σ) : ProfileBoundary :=
  (observeProfile host.reader (NullGpuReader.reader gpu) clocks s).1

theorem facts_eq (clocks : Clocks) (s : σ) : (profileBoundary host gpu clocks s).facts = emptyFacts := by
  cases host <;> rfl

theorem values_eq (clocks : Clocks) (s : σ) : (profileBoundary host gpu clocks s).values = [] := by
  cases host <;> rfl

theorem gpus_eq (clocks : Clocks) (s : σ) : (profileBoundary host gpu clocks s).gpus = [] := by
  rw [ProfileBoundary.gpus, ProfileBoundary.kept, values_eq]
  rfl

/-- A profile without facts, devices and storage. -/
structure BlankProfile (p : MachineProfile F) : Prop where
  text : ∀ f, p.text f = none
  number : ∀ f, p.number f = none
  noDevice : p.gpus = []
  noStorage : p.storage = []

/-- Its diagnostics. -/
def BlankReasons (reasons : Dict String) : Prop :=
  ∀ key, key ≠ "timestamp" → reasons[key]? =
    if key = "gpu" then some gpu.text
    else if key ∈ host.profileFields then some host.reason else none

theorem profile_hostReasons (clocks : Clocks) (s : σ) :
    readerReasons (profileBoundary host gpu clocks s).hostReasons = .ok host.hostItems := by
  cases host with
  | null reason => exact readerReasons_fromkeys (by decide) reason.ne_empty
  | stub => rfl

theorem profile_gpuReasons (clocks : Clocks) (s : σ) :
    readerReasons (profileBoundary host gpu clocks s).gpuReasons = .ok [("gpu", gpu.text)] := by
  cases host <;> exact readerReasons_fromkeys (by decide) gpu.ne_empty

theorem getElem?_readNotes (clocks : Clocks) (s : σ) (key : String) :
    (profileBoundary host gpu clocks s).readNotes[key]? =
      if key ∈ host.noted factFields then some "reader_error" else none := by
  have hnotes : (profileBoundary host gpu clocks s).readNotes =
      (host.noted factFields).foldl (fun r f => r.set f "reader_error") ∅ := by
    cases host <;> rfl
  rw [hnotes, getElem?_foldl_set, Std.ExtTreeMap.getElem?_empty]

/-- What the reads have noted is not marked. -/
theorem outlives_marked (b : ProfileBoundary) {key : String} (hkey : key ≠ "timestamp")
    (r : Dict String) : Outlives key r (b.marked r) :=
  (outlives_timestampOf b.clocks hkey r).trans
    ((outlives_markMissing _ _ _).trans (outlives_markMissing _ _ _))

/-- What is marked as missing is a static field. -/
theorem getElem?_marked {b : ProfileBoundary} {r : Dict String} {key : String}
    (hkey : key ≠ "timestamp") (hstatic : key ∉ hostStaticFields) (hnote : r[key]? = none) :
    (b.marked r)[key]? = none := by
  refine Std.ExtTreeMap.getElem?_eq_none ?_
  intro hmem
  simp only [ProfileBoundary.marked, mem_markMissing, ProfileBoundary.mem_numbers,
    ProfileBoundary.mem_texts] at hmem
  rcases hmem with (hmem | ⟨f, hf, -⟩) | ⟨f, htext, hf, -⟩
  · rcases mem_timestampOf hmem with hmem | hmem
    · rw [Std.ExtTreeMap.mem_iff_isSome_getElem?, hnote] at hmem
      cases hmem
    · exact hkey hmem
  · subst hf
    cases f <;> exact hstatic (by decide)
  · subst hf
    cases f <;> first | exact hstatic (by decide) | exact absurd htext (by decide)

theorem blankProfile_assemble {clocks : Clocks} {s : σ} {p : MachineProfile F} {r : Dict String}
    (h : assemble core (profileBoundary host gpu clocks s) = .ok (p, r)) :
    BlankProfile p ∧ BlankReasons host gpu r := by
  obtain ⟨-, ⟨fingerprint, -, rfl⟩, r₁, hr, gr, hloop, hhr, hgr, rfl⟩ := assemble_ok.1 h
  constructor
  · refine ⟨fun f => ?_, fun f => ?_, gpus_eq host gpu clocks s, ?_⟩
    all_goals
      rw [ProfileBoundary.profile, facts_eq]
      rfl
  · intro key hkey
    rw [LoopNoted, values_eq] at hloop
    cases hloop
    cases (profile_hostReasons host gpu clocks s).symm.trans hhr
    cases (profile_gpuReasons host gpu clocks s).symm.trans hgr
    rw [Dict.ofItems_sortedItems, ProfileBoundary.finish, if_pos (gpus_eq host gpu clocks s),
      ProfileBoundary.reported, Dict.update_append, getElem?_null_gpu]
    by_cases hgpu : key = "gpu"
    · rw [if_pos hgpu, if_pos hgpu]
    rw [if_neg hgpu, if_neg hgpu]
    have hnotes := getElem?_readNotes host gpu clocks s key
    cases host with
    | null reason =>
      have hstatic : (hostItems (null reason)).filter
          (fun p => p.1 ∉ HostField.all.map HostField.name) =
            hostStaticFields.map (·, reason.text) := by
        rw [hostItems, List.filter_map]
        rfl
      rw [hstatic, getElem?_update_const]
      split_ifs with hmem hfields hfields
      · rfl
      · exact absurd hmem hfields
      · exact absurd hfields hmem
      · exact getElem?_marked hkey hmem (hnotes.trans (if_neg List.not_mem_nil))
    | stub =>
      have hitems : (hostItems stub).filter (fun p => p.1 ∉ HostField.all.map HostField.name) =
          ([] : List String).map (·, "") := rfl
      rw [hitems, getElem?_update_const, if_neg List.not_mem_nil]
      split_ifs with hmem
      · exact outlives_marked _ hkey _ _ (hnotes.trans (if_pos hmem))
      · refine getElem?_marked hkey ?_ (hnotes.trans (if_neg hmem))
        intro hstatic
        refine hmem ?_
        have hsub : hostStaticFields ⊆ factFields := by decide
        exact hsub hstatic

theorem blankProfile_emergency {clocks : Clocks} {p : MachineProfile F}
    (h : emergencyProfile core clocks = .ok p) : BlankProfile p := by
  obtain ⟨fingerprint, -, h⟩ := bind_eq_ok.1 h
  obtain ⟨-, -, h⟩ := bind_eq_ok.1 h
  cases pure_eq_ok.1 h
  exact ⟨fun _ => rfl, fun _ => rfl, rfl, rfl⟩

theorem blankProfile_machineProfile (c : TelemetryCollector) {clocks : Clocks} {s : σ}
    {p : MachineProfile F}
    (hok : (c.machineProfile core (profileBoundary host gpu clocks s)).1 = .ok p) :
    BlankProfile p ∧
      ((c.machineProfile core (profileBoundary host gpu clocks s)).2.unavailableReasons =
          collectorError ∨ BlankReasons host gpu
        (c.machineProfile core (profileBoundary host gpu clocks s)).2.unavailableReasons) := by
  unfold TelemetryCollector.machineProfile at hok ⊢
  cases h : assemble core (profileBoundary host gpu clocks s) with
  | ok a =>
    rw [h] at hok
    obtain ⟨p', r⟩ := a
    cases hok
    obtain ⟨hblank, hreasons⟩ := blankProfile_assemble host gpu core h
    exact ⟨hblank, .inr hreasons⟩
  | error e =>
    rw [h] at hok
    exact ⟨blankProfile_emergency core hok, .inl rfl⟩

/-- **A fallback fabricates nothing.**  Over any session, every snapshot is without figures
    and devices, and so is every profile; the reasons are those of the null readers, or that
    the stub failed, under each field of the host, unless BaseAiCore rejects the profile. -/
theorem fallback_fabricates_nothing (t : Session σ) (calls : List CollectorCall) :
    (∀ x ∈ snapshots (t.run host.reader (NullGpuReader.reader gpu) core calls), Blank host gpu x) ∧
    ∀ p reasons, (.ok p, reasons) ∈ profiles (t.run host.reader (NullGpuReader.reader gpu) core calls) →
      BlankProfile p ∧ (reasons = collectorError ∨ BlankReasons host gpu reasons) := by
  refine ⟨fun x hx => ?_, fun p reasons hp => ?_⟩
  · obtain ⟨u, clocks, rfl⟩ := exists_of_mem_snapshots _ _ core hx
    rw [Session.snapshot_fst]
    exact blank_snapshot host gpu u.collector clocks u.state
  · obtain ⟨u, clocks, hok, rfl⟩ := exists_of_mem_profiles _ _ core hp
    rw [Session.machineProfile_eq] at hok ⊢
    exact blankProfile_machineProfile host gpu core u.collector hok.symm

end FallbackHost

end SweatMeter
