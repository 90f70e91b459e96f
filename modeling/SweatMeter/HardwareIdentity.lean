/-
  The identity of a Linux machine, from its files and its driver to its fingerprint.

  What identifies a machine is the names that it reports, its CPUs, its memory and its
  devices.  A collector on it passes these to the fingerprint and nothing else,
  whichever of the two backends it has, whatever calls there have been before and
  whatever else the machine tells (`hardware_identity`).
-/
import SweatMeter.DefaultCollector
import SweatMeter.Identity
import SweatMeter.StaticIdentity

namespace SweatMeter

open Py Py.Stateful

/-! ## The host -/

/-- What identifies a Linux host. -/
structure HostIdentity where
  hostname : Option Text
  osName : Option Text
  architecture : Option Text
  cpu : Cpu
  cpus : List Cpu
  ramKib : ℕ

/-- The function reports this text, up to blanks around it, or no text. -/
def Reports (answer : Except Exn Obj) : Option Text → Prop
  | some t => t ≠ [] ∧ ∃ s, answer = .ok (.str s) ∧ strip s.toList = t
  | none => ∀ s, answer = .ok (.str s) → strip s.toList = []

/-- A text of `/proc/cpuinfo` for these CPUs. -/
def ShowsCpus (cpus : List Cpu) (text : Text) : Prop :=
  ∃ blocks body blanks blanks', List.Forall₂ CpuLines cpus blocks ∧
    Separated (blocks.map joinLines) body ∧ (∀ c ∈ blanks, isspace c = true) ∧
    (∀ c ∈ blanks', isspace c = true) ∧ text = blanks ++ body ++ blanks'

/-- A text of `/proc/meminfo` with this total: no line after that of the total has its key. -/
def ShowsTotal (kib : ℕ) (text : Text) : Prop :=
  ∃ before blanks after, (∀ c ∈ blanks, isspace c = true) ∧
    splitlines text =
      before ++ ("MemTotal:".toList ++ (blanks ++ (numeral kib ++ " kB".toList))) :: after ∧
    ∀ line ∈ after, lineKey line ≠ "MemTotal"

/-- A machine with this identity, whose block devices can be told. -/
structure Machine.IdentifiedBy (storageDevice : StorageDevice → Except Exn Unit)
    (h : HostIdentity) (m : Machine) : Prop where
  hostname : Reports (m.reports .hostname) h.hostname
  osName : Reports (m.reports .osName) h.osName
  architecture : Reports (m.reports .architecture) h.architecture
  cpus : ∃ text, m.proc .cpuinfo = .ok text ∧ ShowsCpus (h.cpu :: h.cpus) text
  ram : ∃ text, m.proc .meminfo = .ok text ∧ ShowsTotal h.ramKib text
  storage : Returns (m.sys.readBlockDevices storageDevice)

/-- Its numbers fit a double. -/
structure HostIdentity.InRange (h : HostIdentity) : Prop where
  cpus : h.cpus.length + 1 < doubleLimit
  ram : h.ramKib * 1024 < doubleLimit

/-- Its CPUs and its memory, in numbers. -/
def HostIdentity.number (h : HostIdentity) : NumberFact → Measurement Number
  | .physicalCores =>
    if ∀ c ∈ h.cpu :: h.cpus, c.core = none then none
    else some (.int (coreIds (h.cpu :: h.cpus)).card)
  | .logicalCores => some (.int (h.cpus.length + 1 : ℕ))
  | .ramBytes => some (.int (h.ramKib * 1024 : ℕ))

/-- A `GpuProfile` as it is constructed, with the default of its vendor. -/
def GpuProfile.vendored (p : GpuProfile) : VendorGpuProfile where
  toGpuProfile := p
  vendor := .nvidia

/-- The arguments of the fingerprint, for this host with these devices. -/
def HostIdentity.identity (h : HostIdentity) (devices : MachineIdentity) : Identity where
  hostname := h.hostname.map String.ofList
  osName := h.osName.map String.ofList
  architecture := h.architecture.map String.ofList
  cpuModel := some (String.ofList h.cpu.model.text)
  physicalCores := h.number .physicalCores
  logicalCores := h.number .logicalCores
  ramBytes := h.number .ramBytes
  gpus := devices.profiles.map GpuProfile.vendored

/-! ## What is read of it -/

theorem profileText_ofList {t : Text} (hne : t ≠ []) (htrim : strip t = t) :
    profileText (.str (String.ofList t)) = some (String.ofList t) := by
  rw [profileText, String.toList_ofList, htrim, if_neg hne]

theorem profileText_reported {answer : Except Exn Obj} {t : Option Text} (h : Reports answer t) :
    profileText (reportedText answer) = t.map String.ofList := by
  cases t with
  | some t =>
    obtain ⟨hne, s, rfl, rfl⟩ := h
    rw [reportedText, if_neg hne, profileText_ofList hne (strip_strip _)]
    rfl
  | none =>
    have hunsupported : reportedText answer = .unsupported := by
      unfold reportedText
      split
      · rw [if_pos (h _ rfl)]
      · rfl
    rw [hunsupported]
    rfl

theorem facts_of_showsCpus {cpu : Cpu} {cpus : List Cpu} {text : Text}
    (h : ShowsCpus (cpu :: cpus) text) : parseCpuinfo text = {
      cpuModel := some cpu.model.text
      physicalCores :=
        if ∀ c ∈ cpu :: cpus, c.core = none then none else some (coreIds (cpu :: cpus)).card
      logicalCores := some (cpus.length + 1) } := by
  obtain ⟨blocks, body, blanks, blanks', hcpus, hbody, hblanks, hblanks', rfl⟩ := h
  have hdescribes : List.Forall₂ Describes (cpu :: cpus)
      (blocks.map fun lines => Dict.ofItems (lines.filterMap cpuinfoItem)) := by
    rw [List.forall₂_map_right_iff]
    exact hcpus.imp fun c lines h => h.describes
  obtain ⟨hcount, hids, hmodel⟩ := foldl_add hdescribes {}
  rw [parseCpuinfo, blockFields_split (block_of_cpuLines hcpus) hbody hblanks hblanks']
  generalize List.foldl CpuinfoTotals.add {} _ = totals at hcount hids hmodel
  have hcores : totals.physicalCoreIds = coreIds (cpu :: cpus) :=
    hids.trans (Finset.empty_union _)
  have hcard : (coreIds (cpu :: cpus)).card ≠ 0 ↔ ¬ ∀ c ∈ cpu :: cpus, c.core = none := by
    rw [ne_eq, Finset.card_eq_zero, coreIds_eq_empty]
  rw [CpuinfoTotals.facts, hcores, ite_cond_congr (propext hcard), ite_not]
  simp [hcount, hmodel]

theorem total_of_showsTotal {kib : ℕ} {text : Text} (h : ShowsTotal kib text)
    (hkib : kib < 10 ^ maxStrDigits) :
    (parseMeminfo text).totalBytes = some (kib * 1024 : ℕ) :=
  @getElem?_of_showsKib "MemTotal" _ _ h (by decide) (by decide) hkib

/-- The facts that are read of a host with this identity. -/
structure HostFacts.Of (h : HostIdentity) (facts : HostFacts) : Prop where
  hostname : profileText (facts.text .hostname) = h.hostname.map String.ofList
  osName : profileText (facts.text .osName) = h.osName.map String.ofList
  architecture : profileText (facts.text .architecture) = h.architecture.map String.ofList
  cpuModel : profileText (facts.text .cpuModel) = some (String.ofList h.cpu.model.text)
  number : ∀ f, facts.number f = measured (h.number f)

variable {h : HostIdentity} {storageDevice : StorageDevice → Except Exn Unit}

theorem HostIdentity.InRange.printable (hh : h.InRange) : h.ramKib < 10 ^ maxStrDigits := by
  have hfits : Fits (.num (.int h.ramKib)) := lt_of_le_of_lt (by simp; omega) hh.ram
  exact printable_of_fits hfits

theorem staticFacts_of_identified {m : Machine} (hm : m.IdentifiedBy storageDevice h)
    (hh : h.InRange) : ∃ facts, m.staticFacts storageDevice = .ok facts ∧ facts.Of h := by
  obtain ⟨storage, hstorage⟩ := hm.storage
  obtain ⟨cpuinfo, hcpuinfo, hcpus⟩ := hm.cpus
  obtain ⟨meminfo, hmeminfo, htotal⟩ := hm.ram
  have hparsed : m.cpuFacts = parseCpuinfo cpuinfo := by rw [Machine.cpuFacts, hcpuinfo, parsedOr]
  have hfacts := hparsed.trans (facts_of_showsCpus hcpus)
  have hram : m.memory.totalBytes = some (.int (h.ramKib * 1024 : ℕ)) := by
    rw [Machine.memory, Machine.memoryFigures, hmeminfo, parsedOr,
      total_of_showsTotal htotal hh.printable]
    rfl
  refine ⟨_, by rw [Machine.staticFacts, hstorage]; rfl, ?_⟩
  exact {
    hostname := profileText_reported hm.hostname
    osName := profileText_reported hm.osName
    architecture := profileText_reported hm.architecture
    cpuModel := by
      show profileText (ofText m.cpuFacts.cpuModel) = _
      rw [hfacts]
      exact profileText_ofList h.cpu.model.ne_nil h.cpu.model.trimmed
    number := by
      intro f
      cases f with
      | physicalCores =>
        show measured (ofInt (m.cpuFacts.physicalCores.map Int.ofNat)) = _
        rw [hfacts, HostIdentity.number]
        split_ifs <;> rfl
      | logicalCores =>
        show measured (ofInt (m.cpuFacts.logicalCores.map Int.ofNat)) = _
        rw [hfacts]
        rfl
      | ramBytes => exact congrArg measured hram }

/-- A natural number that fits is kept. -/
theorem number_of_nat {n : ℕ} (hn : n < doubleLimit) : Fits (measured (some (.int n))) ∧
    numberOf (measured (some (.int n))) = some (.int n) := by
  have hfits : Fits (measured (some (.int n))) := hn
  have hnumber : number (measured (some (.int n))) = .ok (some (.int n)) :=
    Script.number_measured (fun x hx => by cases hx; exact ⟨n, rfl, by positivity, by simp⟩) hfits
  exact ⟨hfits, (number_eq_ok.1 hnumber).2.symm⟩

theorem number_inRange (hh : h.InRange) (f : NumberFact) :
    Fits (measured (h.number f)) ∧ numberOf (measured (h.number f)) = h.number f := by
  cases f with
  | physicalCores =>
    rw [HostIdentity.number]
    split_ifs
    · exact ⟨trivial, rfl⟩
    · exact number_of_nat (((card_coreIds_le _).trans_eq List.length_cons).trans_lt hh.cpus)
  | logicalCores => exact number_of_nat hh.cpus
  | ramBytes => exact number_of_nat hh.ram

/-! ## The devices -/

/-- What a call of this backend meets tells the devices of the machine. -/
def GpuBackend.Tells (alnum : Char → Bool) (devices : MachineIdentity) :
    (backend : GpuBackend) → backend.Met → Prop
  | nvidiaSmi, c => c.PrintsIdentity alnum devices ∧ c.WithinLimit
  | pynvml, c => c.load = .ok () ∧ c.binding.Identifies devices

variable {alnum : Char → Bool} {construct : GpuProfile → Except Exn Unit}
  {devices : MachineIdentity} {backend : GpuBackend}

theorem staticInfo_of_tells (hconstruct : ∀ p : GpuProfile, p.Normalized → construct p = .ok ())
    (hlegible : devices.Legible) {c : backend.Met} (hc : backend.Tells alnum devices c)
    (r : backend.Reader) :
    ((backend.operations alnum construct).staticInfo r c).1 = .ok devices.profiles := by
  cases backend with
  | nvidiaSmi => exact staticInfo_prints hconstruct hc.1 hc.2 hlegible
  | pynvml =>
    obtain ⟨load, binding⟩ := c
    obtain ⟨rfl, hbinding⟩ := hc
    exact staticInfo_identifies hconstruct hbinding hlegible.toInRange r

theorem normalized_object (hlegible : devices.Legible) {p : DeviceIdentity × ℕ}
    (hp : p ∈ devices.devices.zipIdx) :
    Fits (devices.profile p).object.vramTotalBytes ∧
      (devices.profile p).object.normalized = (devices.profile p).vendored := by
  have hlabel (l : Label) : profileText (.str (String.ofList l.value)) =
      some (String.ofList l.value) := profileText_ofList l.value_ne_nil (strip_strip _)
  have hdotted (version : ℤ × ℤ) : profileText (.str (String.ofList (dotted version))) =
      some (String.ofList (dotted version)) :=
    profileText_ofList (dotted_ne_nil _) (strip_numeric numeric_dotted)
  have hvram := number_of_nat (vram_lt (hlegible.vram _ (List.fst_mem_of_mem_zipIdx hp)))
  refine ⟨hvram.1, ?_⟩
  simp only [GpuProfileObject.normalized, GpuProfile.object, GpuProfile.vendored,
    MachineIdentity.profile, textOrNone, hlabel, hdotted, hvram.2]
  rfl

/-! ## The profile -/

variable {F : Type} {core : BaseAiCore F}

/-- BaseAiCore accepts a machine with this identity. -/
structure BaseAiCore.Accepts (core : BaseAiCore F) (identity : Identity) : Prop where
  gpuProfile : ∀ p ∈ identity.gpus, core.gpuProfile p = .ok ()
  fingerprint : Returns (core.fingerprint identity)
  machineProfile : ∀ p : MachineProfile F, p.identity = identity → core.machineProfile p = .ok ()

/-- What a backend hands over for the devices. -/
def MachineIdentity.objects (devices : MachineIdentity) : List GpuProfileObject :=
  devices.profiles.map GpuProfile.object

theorem mem_objects {o : GpuProfileObject} (ho : some o ∈ devices.objects.map some) :
    ∃ p ∈ devices.devices.zipIdx, o = (devices.profile p).object := by
  simp only [List.mem_map, Option.some.injEq, exists_eq_right, MachineIdentity.objects,
    MachineIdentity.profiles] at ho
  obtain ⟨_, ⟨p, hp, rfl⟩, rfl⟩ := ho
  exact ⟨p, hp, rfl⟩

/-- The readers hand over the identity of the machine. -/
theorem identity_of_wellRead (hh : h.InRange) (hlegible : devices.Legible) {b : ProfileBoundary}
    {facts : HostFacts} (hfacts : facts.Of h) (hb : WellRead b facts (devices.objects.map some)) :
    b.identity = h.identity devices := by
  have hpositions := List.pairwise_map.1 (sorted_positions (fun _ => ()) devices.devices)
  have hsorted : devices.profiles.Pairwise fun p q => p.index < q.index :=
    List.pairwise_map.2 hpositions
  have hdistinct : devices.objects.Pairwise fun o o' => o.index ≠ o'.index :=
    List.pairwise_map.2 (hsorted.imp fun hlt => hlt.ne)
  have hvalues : (devices.objects.map some).reduceOption = devices.objects := by
    rw [List.reduceOption, List.filterMap_map]
    exact List.filterMap_some
  have hkept : b.kept = devices.objects := by
    rw [hb.kept_eq, keptObjects, hvalues, firsts_eq_self]
    exact ⟨by simp, hdistinct⟩
  have hnormalized : devices.objects.map GpuProfileObject.normalized =
      devices.profiles.map GpuProfile.vendored := by
    rw [MachineIdentity.objects, MachineIdentity.profiles, List.map_map, List.map_map, List.map_map]
    exact List.map_congr_left fun p hp => (normalized_object hlegible hp).2
  have hgpus : b.gpus = devices.profiles.map GpuProfile.vendored := by
    rw [ProfileBoundary.gpus, hkept, hnormalized]
    exact (List.pairwise_map.2 (hsorted.imp fun hlt => hlt.le)).insertionSort_eq
  simp only [ProfileBoundary.identity, hb.facts_eq, hfacts.hostname, hfacts.osName,
    hfacts.architecture, hfacts.cpuModel, hfacts.number, (number_inRange hh _).2, hgpus,
    HostIdentity.identity]

/-- A profile in any state of the readers. -/
theorem machineProfile_of_identified
    (hconstruct : ∀ p : GpuProfile, p.Normalized → construct p = .ok ())
    (hh : h.InRange) (hlegible : devices.Legible) (hcore : core.Accepts (h.identity devices))
    {hostMet : HostOperation → ℕ → Machine} {gpuMet : ℕ → backend.Met}
    (hhost : ∀ n, (hostMet .staticFacts n).IdentifiedBy storageDevice h)
    (hgpu : ∀ n, backend.Tells alnum devices (gpuMet n))
    (t : Session (LinuxState × (backend.Reader × ℕ))) (clocks : Clocks) :
    ∃ p, (t.machineProfile (LinuxHostReader.reader hostMet storageDevice).onFst
        ((backend.operations alnum construct).reader gpuMet).onSnd core clocks).1 = .ok p ∧
      p.identity = h.identity devices ∧
      core.fingerprint (h.identity devices) = .ok p.machineFingerprint := by
  obtain ⟨facts, hstatic, hfacts⟩ :=
    staticFacts_of_identified (hhost (t.state.1.calls .staticFacts)) hh
  have hinfo := staticInfo_of_tells hconstruct hlegible (hgpu t.state.2.2) t.state.2.1
  rw [Session.machineProfile_eq, observeProfile_pair]
  simp only [LinuxHostReader.reader, LinuxHostReader.pureOperation, LinuxHostReader.operation,
    GpuReaderClass.reader, outcome_ofOutcome, hstatic, hinfo]
  generalize hb : ProfileBoundary.mk _ _ _ _ _ = b
  have hwell : WellRead b facts (devices.objects.map some) := by
    subst hb
    refine ⟨rfl, ?_, fun f => ?_, ?_, by rintro items ⟨⟩, ?_⟩
    · show Except.ok _ = _
      rw [MachineIdentity.objects, List.map_map]
      rfl
    · rw [hfacts.number]
      exact (number_inRange hh f).1
    · intro o ho
      obtain ⟨p, hp, rfl⟩ := mem_objects ho
      exact (normalized_object hlegible hp).1
    · rintro items ⟨⟩
      simp
  have hidentity := identity_of_wellRead hh hlegible hfacts hwell
  have haccepts : core.AcceptsNormalized b := by
    refine ⟨?_, hidentity ▸ hcore.fingerprint, fun fp => hcore.machineProfile _ ?_⟩
    · rw [hwell.values_eq]
      intro o ho
      obtain ⟨p, hp, rfl⟩ := mem_objects ho
      rw [(normalized_object hlegible hp).2]
      exact hcore.gpuProfile _ (List.mem_map_of_mem (List.mem_map_of_mem hp))
    · rw [b.identity_profile, hidentity]
  obtain ⟨fp, hfp, hp⟩ := hwell.profiled haccepts t.collector
  exact ⟨_, hp, (b.identity_profile fp).trans hidentity, hidentity ▸ hfp⟩

/-- **The identity of the hardware.**  In any session, from any state of the readers and with
    either backend, a profile of a machine with this identity has the fingerprint of its
    names, CPUs, memory and devices, whatever its other texts say, how their lines are ordered
    and padded, and what its block devices are. -/
theorem hardware_identity (hconstruct : ∀ p : GpuProfile, p.Normalized → construct p = .ok ())
    (hh : h.InRange) (hlegible : devices.Legible) (hcore : core.Accepts (h.identity devices))
    {hostMet : HostOperation → ℕ → Machine} {gpuMet : ℕ → backend.Met}
    (hhost : ∀ n, (hostMet .staticFacts n).IdentifiedBy storageDevice h)
    (hgpu : ∀ n, backend.Tells alnum devices (gpuMet n))
    (t : Session (LinuxState × (backend.Reader × ℕ))) (calls : List CollectorCall)
    (p : Except Exn (MachineProfile F)) (reasons : Dict String)
    (hp : (p, reasons) ∈ profiles (t.run (LinuxHostReader.reader hostMet storageDevice).onFst
      ((backend.operations alnum construct).reader gpuMet).onSnd core calls)) :
    ∃ profile, p = .ok profile ∧ profile.identity = h.identity devices ∧
      core.fingerprint (h.identity devices) = .ok profile.machineFingerprint := by
  obtain ⟨u, clocks, rfl, -⟩ := exists_of_mem_profiles _ _ core hp
  exact machineProfile_of_identified hconstruct hh hlegible hcore hhost hgpu u clocks

/-! ## A machine with two threads and a card -/

/-- The machine of `smtText`. -/
def nodeIdentity : HostIdentity where
  hostname := some "node".toList
  osName := none
  architecture := none
  cpu := smtCpu
  cpus := [smtCpu]
  ramKib := 8

def nodeMachine : Machine where
  proc
    | .cpuinfo => .ok ([] ++ smtText ++ ['\n'])
    | .meminfo => .ok (unlines ["MemTotal:\t8 kB".toList, "MemFree: 1 kB".toList])
    | _ => .error ⟨"FileNotFoundError"⟩
  sys := ⟨fun _ => .error ⟨"OSError"⟩, fun _ => .error ⟨"OSError"⟩⟩
  clock := .error ⟨"OSError"⟩
  reports
    | .hostname => .ok (.str " node")
    | _ => .error ⟨"OSError"⟩

theorem identifiedBy_node : nodeMachine.IdentifiedBy (fun _ => .ok ()) nodeIdentity where
  hostname := ⟨by decide, _, rfl, rfl⟩
  osName := by rintro s ⟨⟩
  architecture := by rintro s ⟨⟩
  cpus := by
    have hfirst : FieldLine "processor" "0".toList "processor\t: 0".toList :=
      ⟨by simp [isLineBreak], "processor\t".toList, " 0".toList, rfl, by decide, rfl, rfl⟩
    have hsecond : FieldLine "processor" "1".toList "processor\t: 1".toList :=
      ⟨by simp [isLineBreak], "processor\t".toList, " 1".toList, rfl, by decide, rfl, rfl⟩
    exact ⟨_, rfl, [smtLines "processor\t: 0".toList, smtLines "processor\t: 1".toList], smtText,
      [], ['\n'], .cons (cpuLines_smt (by simp) hfirst) (.cons (cpuLines_smt (by simp) hsecond) .nil),
      .cons _ _ (by simp [isspace]) (.single _), by simp, by simp [isspace], rfl⟩
  ram := by
    refine ⟨_, rfl, [], ['\t'], ["MemFree: 1 kB".toList], by simp [isspace], ?_, ?_⟩
    · rw [splitlines_unlines (by simp [isLineBreak])]
      rfl
    · have hkey : lineKey "MemFree: 1 kB".toList ≠ "MemTotal" := by decide +kernel
      simpa using hkey
  storage := ⟨[], rfl⟩

theorem inRange_node : nodeIdentity.InRange := by
  have hlimit : 10000 ≤ doubleLimit := by decide +kernel
  exact ⟨hlimit.trans_lt' (by decide), hlimit.trans_lt' (by decide)⟩

theorem legible_commaGpu : commaGpu.Legible :=
  legible_oneGpu (inRange_small commaName) (le_trans (by decide) Csv.fieldLimit_ge)

theorem accepts_listing (identity : Identity) : listing.Accepts identity :=
  ⟨fun _ _ => rfl, ⟨_, rfl⟩, fun _ _ => rfl⟩

/-- The two backends, the second one after a snapshot. -/
theorem hardware_identity_node :
    ∃ p p' : MachineProfile Identity, p.machineFingerprint = p'.machineFingerprint ∧
      (profiles (Session.run (LinuxHostReader.reader (fun _ _ => nodeMachine) fun _ => .ok ()).onFst
        ((GpuBackend.nvidiaSmi.operations (fun _ => false) fun _ => .ok ()).reader
          fun _ => commaGpu.printing 1000000).onSnd listing
        { state := (LinuxHostReader.fresh none, GpuBackend.nvidiaSmi.fresh, 0) }
        [.machineProfile silentHost.clocks]))[0]?.map Prod.fst = some (.ok p) ∧
      (profiles (Session.run (LinuxHostReader.reader (fun _ _ => nodeMachine) fun _ => .ok ()).onFst
        ((GpuBackend.pynvml.operations (fun _ => false) fun _ => .ok ()).reader
          fun _ => ⟨.ok (), commaGpu.binding⟩).onSnd listing
        { state := (LinuxHostReader.fresh none, GpuBackend.pynvml.fresh, 0) }
        [.snapshot silentHost.clocks, .machineProfile silentHost.clocks]))[0]?.map Prod.fst =
          some (.ok p') := by
  have hprints : GpuBackend.nvidiaSmi.Tells (fun _ => false) commaGpu (commaGpu.printing 1000000) :=
    ⟨commaGpu.printsIdentity_printing _ _, commaGpu.withinLimit_printing (by decide +kernel)⟩
  have hreports : GpuBackend.pynvml.Tells (fun _ => false) commaGpu ⟨.ok (), commaGpu.binding⟩ :=
    ⟨rfl, commaGpu.identifies_binding⟩
  obtain ⟨a, ha⟩ : ∃ a, (profiles (Session.run
      (LinuxHostReader.reader (fun _ _ => nodeMachine) fun _ => .ok ()).onFst
      ((GpuBackend.nvidiaSmi.operations (fun _ => false) fun _ => .ok ()).reader
        fun _ => commaGpu.printing 1000000).onSnd listing
      { state := (LinuxHostReader.fresh none, GpuBackend.nvidiaSmi.fresh, 0) }
      [.machineProfile silentHost.clocks]))[0]? = some a := ⟨_, rfl⟩
  obtain ⟨b, hb⟩ : ∃ b, (profiles (Session.run
      (LinuxHostReader.reader (fun _ _ => nodeMachine) fun _ => .ok ()).onFst
      ((GpuBackend.pynvml.operations (fun _ => false) fun _ => .ok ()).reader
        fun _ => ⟨.ok (), commaGpu.binding⟩).onSnd listing
      { state := (LinuxHostReader.fresh none, GpuBackend.pynvml.fresh, 0) }
      [.snapshot silentHost.clocks, .machineProfile silentHost.clocks]))[0]? = some b := ⟨_, rfl⟩
  obtain ⟨p, hp, -, hfp⟩ := hardware_identity (fun _ _ => rfl) inRange_node legible_commaGpu
    (accepts_listing _) (fun _ => identifiedBy_node) (fun _ => hprints) _ _ a.1 a.2
    (List.mem_of_getElem? ha)
  obtain ⟨p', hp', -, hfp'⟩ := hardware_identity (fun _ _ => rfl) inRange_node legible_commaGpu
    (accepts_listing _) (fun _ => identifiedBy_node) (fun _ => hreports) _ _ b.1 b.2
    (List.mem_of_getElem? hb)
  refine ⟨p, p', Except.ok.inj (hfp.symm.trans hfp'), ?_, ?_⟩
  · rw [ha, ← hp]
    rfl
  · rw [hb, ← hp']
    rfl

end SweatMeter
