/-
  The two NVIDIA backends on the identity of the same machine: both return the
  profiles of its devices (`backends_agree_on_identity`).

  Neither reads everything that may be printed or reported.  `NvidiaSmiReader`
  keeps to a limit of its output and of a cell, and takes a size of memory through
  a double; `NvmlGpuReader` raises where an integer is too large to be printed or
  to fit a double.
-/
import SweatMeter.Backends
import SweatMeter.SmiIdentity

namespace SweatMeter

open Py

/-! ## What NVML reports, read -/

theorem nvmlText_of_isLabel {l : Label} {o : NvmlObject} (h : IsLabel l o) :
    nvmlText o.obj = some (String.ofList l.value) := nvmlText_of_isText h l.value_ne_nil

theorem toString_eq_intNumeral (n : ℤ) : toString n = String.ofList (intNumeral n) := by
  cases n with
  | ofNat n => rfl
  | negSucc n => exact (@String.ofList_append ['-'] (numeral (n + 1))).symm

theorem intText_numeral {n : ℤ} (h : Printable n) : intText n = .ok (String.ofList (intNumeral n)) := by
  rw [intText, if_neg (not_le.2 h), toString_eq_intNumeral]

theorem versionText_ok {version : ℤ × ℤ} (h : Printable version.1 ∧ Printable version.2) :
    versionText version.1 version.2 = .ok (String.ofList (dotted version)) := by
  have htext : String.ofList (dotted version) = String.ofList (intNumeral version.1) ++ "." ++
      String.ofList (intNumeral version.2) := by
    rw [← String.toList_inj]
    simp [dotted]
  rw [versionText, intText_numeral h.1, intText_numeral h.2, htext]
  rfl

theorem capabilityOf_of_isPair {version : ℤ × ℤ} {o : NvmlObject} (ho : IsPair version o)
    (h : Printable version.1 ∧ Printable version.2) :
    capabilityOf o = .ok (some (String.ofList (dotted version))) := by
  have hpair : capabilityOf o = some <$> versionText version.1 version.2 := by
    rw [capabilityOf, ho]
    rfl
  rw [hpair, versionText_ok h]
  rfl

namespace NvmlBinding

variable {B : NvmlBinding}

theorem AnswersFor.device {f : NvmlFunction} {i : ℕ} {holds : NvmlObject → Prop}
    (h : B.AnswersFor f i holds) : holds (B.device f i) := by
  obtain ⟨o, ho, hholds⟩ := h
  rwa [NvmlBinding.device, ho]

theorem cudaVersion_of_answers {version : ℕ × ℕ} (hlt : version.2 < 100)
    (hpos : 0 < version.1 * 1000 + version.2 * 10) (hmajor : Printable version.1)
    (h : B.AnswersWith .nvmlSystemGetCudaDriverVersion
      (IsNumber (version.1 * 1000 + version.2 * 10 : ℕ))) :
    (cudaVersion B).outcome = .ok (some (String.ofList (dotted (version.1, version.2)))) := by
  obtain ⟨o, ho, hn⟩ := h.lookup
  have hminor : Printable (version.2 : ℤ) := printable_of_lt (by omega)
  have hvalid : validVersion o.obj = some ((version.1 * 1000 + version.2 * 10 : ℕ) : ℤ) := by
    rw [hn, validVersion, if_neg (by omega)]
  have hparts : ((version.1 * 1000 + version.2 * 10 : ℕ) : ℤ) / 1000 = version.1 ∧
      ((version.1 * 1000 + version.2 * 10 : ℕ) : ℤ) % 1000 / 10 = version.2 := by omega
  unfold cudaVersion
  refine (Logged.bind_of_ok ho).2 ?_
  refine (Logged.bind_of_ok (attempt_outcome _ _)).2 ?_
  simp only [guarded, hvalid, hparts.1, hparts.2]
  rw [Logged.outcome_lift, @versionText_ok (version.1, version.2) ⟨hmajor, hminor⟩]
  rfl

theorem measurement_of_hasMemory {i n : ℕ}
    (h : B.AnswersFor .nvmlDeviceGetMemoryInfo i (HasMemory n)) :
    Returns (B.measurement i .vramUsedBytes) ∧
      (n < doubleLimit → B.measurement i .vramTotalBytes = .ok (some (.int n))) := by
  obtain ⟨htotal, used, hused, hfits⟩ := h.device
  refine ⟨returns_nvml_measurement.2 ⟨used, hused, hfits⟩, ?_⟩
  intro hn
  have hfinite : (Number.int n).isfinite = .ok true := if_neg (by simpa using hn)
  have hvalue : B.fieldValue i .vramTotalBytes = .ok (.num (.int n)) := congrArg Attribute.get htotal
  have hscale : GpuField.vramTotalBytes.nvmlScale = 1 := rfl
  have hlow : (Number.int n).ltRat GpuField.vramTotalBytes.nvmlMinimum = false := by
    rw [Number.ltRat_eq rfl]
    exact decide_eq_false (not_lt.2 (Nat.cast_nonneg n))
  rw [NvmlBinding.measurement, hvalue, ok_bind, nvmlNumber_eq hfinite, hscale]
  simp only [↓reduceIte, hlow]
  rfl

end NvmlBinding

/-- The profile of a device is what its answers make. -/
theorem profileOf_profile {B : NvmlBinding} {m : MachineIdentity} {p : DeviceIdentity × ℕ}
    (hB : B.IdentifiesDevice p) (hvram : p.1.vramMib * 2 ^ 20 < doubleLimit)
    (hcapability : Printable p.1.capability.1 ∧ Printable p.1.capability.2) :
    ProfileOf B (some (String.ofList m.driver.value)) (some (String.ofList (dotted m.cuda))) p.2
      (m.profile p) := by
  obtain ⟨hused, htotal⟩ := NvmlBinding.measurement_of_hasMemory hB.memory
  exact {
    index := rfl
    name := (nvmlText_of_isLabel hB.name.device).symm
    uuid := (nvmlText_of_isLabel hB.uuid.device).symm
    used := hused
    total := htotal hvram
    driverVersion := rfl
    cudaVersion := rfl
    capability := capabilityOf_of_isPair hB.capability.device hcapability }

/-- **What NVML reports of a machine is read as its profiles.** -/
theorem staticInfo_identifies {construct : GpuProfile → Except Exn Unit}
    (haccepts : ∀ p : GpuProfile, p.Normalized → construct p = .ok ()) {B : NvmlBinding}
    {m : MachineIdentity} (hB : B.Identifies m) (hm : m.InRange) (r : NvmlGpuReader) :
    (r.staticInfo ⟨.ok (), B⟩ construct).1 = .ok m.profiles := by
  obtain ⟨o, hlookup, hdriver⟩ := hB.driver.lookup
  have hcuda := @NvmlBinding.cudaVersion_of_answers B (m.cudaMajor, m.cudaMinor) m.minor_lt
    m.positive hm.cuda hB.cuda
  have hcount := NvmlBinding.count_of_answers hB.count
  have hrange := range_eq_positions m.devices
  have hprintable : ∀ i ∈ List.range m.devices.length, Printable i :=
    printable_range.2 hm.count
  have haddressable : ∀ i ∈ List.range m.devices.length, B.Addressable i := by
    rw [hrange, List.forall_mem_map]
    exact fun p hp => (hB.devices p hp).handle
  have hprofiles : (overDevices B (profileDevice construct B (some (String.ofList m.driver.value))
      (some (String.ofList (dotted m.cuda)))) (List.range m.devices.length)).outcome =
        .ok m.profiles := by
    refine overProfiles_ok.2 ((NvmlBinding.over_iff haddressable).2 ⟨hprintable, ?_⟩)
    rw [hrange, MachineIdentity.profiles, List.forall₂_map_left_iff, List.forall₂_map_right_iff,
      List.forall₂_same]
    intro p hp
    have hd := List.fst_mem_of_mem_zipIdx hp
    exact ⟨profileOf_profile (hB.devices p hp) (vram_lt (hm.vram _ hd)) (hm.capability _ hd),
      haccepts _ (m.normalized_profile p)⟩
  rw [NvmlGpuReader.staticInfo, operate_eq hB.init]
  unfold profileAll
  refine (Logged.bind_of_ok hlookup).2 ?_
  refine (Logged.bind_of_ok (attempt_outcome _ _)).2 ?_
  refine (Logged.bind_of_ok hcuda).2 ?_
  refine Logged.bind_ok.2 ⟨B.count, deviceCount_ok.2 ⟨hB.count.present, rfl⟩, ?_⟩
  rw [hcount]
  refine Logged.bind_ok.2 ⟨m.profiles, ?_, rfl⟩
  have htext : nvmlText (guarded (some (.ok o))).obj = some (String.ofList m.driver.value) :=
    nvmlText_of_isLabel hdriver
  rw [htext]
  exact hprofiles

/-! ## Agreement -/

/-- **The backends agree on the identity** of a machine whose texts and numbers
    both can read, whatever the order of the lines. -/
theorem backends_agree_on_identity {alnum : Char → Bool} {construct : GpuProfile → Except Exn Unit}
    (haccepts : ∀ p : GpuProfile, p.Normalized → construct p = .ok ()) {c : SmiCall}
    {B : NvmlBinding} {m : MachineIdentity} (hc : c.PrintsIdentity alnum m) (hB : B.Identifies m)
    (hlimit : c.WithinLimit) (hm : m.Legible) (r : NvmlGpuReader) :
    (c.staticInfo alnum construct).outcome = .ok m.profiles ∧
      (r.staticInfo ⟨.ok (), B⟩ construct).1 = .ok m.profiles :=
  ⟨staticInfo_prints haccepts hc hlimit hm, staticInfo_identifies haccepts hB hm.toInRange r⟩

/-! ## A machine with this identity -/

namespace MachineIdentity

variable (m : MachineIdentity)

/-- A line of the static table, with every text in quotes. -/
def coreText (p : DeviceIdentity × ℕ) : Text :=
  Csv.join [numeral p.2, Csv.quoted p.1.name.text, Csv.quoted p.1.uuid.text, numeral p.1.vramMib,
    Csv.quoted m.driver.text]

theorem isLineBreak_coreText (p : DeviceIdentity × ℕ) :
    ∀ c ∈ m.coreText p, isLineBreak c = false := by
  refine Csv.isLineBreak_join ?_
  simp only [List.forall_mem_cons, List.not_mem_nil, false_imp_iff, implies_true, and_true]
  exact ⟨fun c hc => (numeric_numeral c hc).isLineBreak, Csv.isLineBreak_quoted p.1.name.line,
    Csv.isLineBreak_quoted p.1.uuid.line, fun c hc => (numeric_numeral c hc).isLineBreak,
    Csv.isLineBreak_quoted m.driver.line⟩

/-- What a command prints. -/
def output (arguments : List String) : Text :=
  if arguments = [] then cudaLabel ++ ' ' :: (dotted m.cuda ++ [])
  else if arguments = queryArguments staticFields then unlines (m.devices.zipIdx.map m.coreText)
  else unlines (m.devices.zipIdx.map fun p => Csv.join [numeral p.2, dotted p.1.capability])

theorem output_core : m.output (queryArguments staticFields) =
    unlines (m.devices.zipIdx.map m.coreText) := by
  have hnil : queryArguments staticFields ≠ [] := List.cons_ne_nil _ _
  rw [output, if_neg hnil, if_pos rfl]

theorem output_compute : m.output (queryArguments computeFields) =
    unlines (m.devices.zipIdx.map fun p => Csv.join [numeral p.2, dotted p.1.capability]) := by
  have hnil : queryArguments computeFields ≠ [] := List.cons_ne_nil _ _
  have hne : queryArguments computeFields ≠ queryArguments staticFields := by decide +kernel
  rw [output, if_neg hnil, if_neg hne]

/-- `nvidia-smi` for this machine. -/
def printing (maxOutputBytes : ℕ) : SmiCall where
  maxOutputBytes := maxOutputBytes
  command arguments := {
    resolver := .executable (some "/usr/bin/nvidia-smi")
    runner := .completed 0 (m.output arguments) }

theorem printsText_printing (n : ℕ) (arguments : List String) :
    ((m.printing n).command arguments).PrintsText (m.output arguments) :=
  ⟨⟨_, rfl, by simp⟩, rfl⟩

theorem printsIdentity_printing (alnum : Char → Bool) (n : ℕ) :
    (m.printing n).PrintsIdentity alnum m where
  core := by
    refine ⟨m.devices.zipIdx.map m.coreText, _, .refl _, ?_, ?_⟩
    · rw [List.forall₂_map_right_iff, List.forall₂_same]
      exact fun p _ => ⟨_, _, _, .quoted, .quoted, .quoted, rfl⟩
    · exact m.output_core ▸ m.printsText_printing n _
  compute := by
    refine ⟨m.devices.zipIdx.map _, _, .refl _, ?_, m.output_compute ▸ m.printsText_printing n _⟩
    rw [List.forall₂_map_right_iff, List.forall₂_same]
    exact fun p _ => rfl
  banner := by
    refine ⟨_, ⟨[], [], rfl, ?_, rfl, rfl, ?_⟩, m.printsText_printing n []⟩
    · intro h
      exact absurd (List.infix_nil.1 h) (by decide)
    · rintro c rest ⟨⟩

theorem withinLimit_printing {n : ℕ}
    (h : ∀ arguments ∈ [queryArguments staticFields, queryArguments computeFields, []],
      utf8Length (m.output arguments) ≤ n) : (m.printing n).WithinLimit := by
  rintro arguments harguments text ⟨-, htext⟩
  cases htext
  exact h arguments harguments

end MachineIdentity

/-- A call on a device. -/
def DeviceIdentity.call (d : DeviceIdentity) : NvmlFunction → Except Exn NvmlObject
  | .nvmlDeviceGetName => .ok { obj := .str (String.ofList d.name.text) }
  | .nvmlDeviceGetUUID => .ok { obj := .bytes (String.ofList d.uuid.text) }
  | .nvmlDeviceGetMemoryInfo => .ok (twoNumbers "used" "total" 0 (d.vramMib * 2 ^ 20 : ℕ))
  | .nvmlDeviceGetCudaComputeCapability => .ok {
      obj := .other
      sequence := some
        ⟨.ok 2, .ok [.num (.int d.capability.1), .num (.int d.capability.2)]⟩ }
  | _ => .error ⟨"NVMLError_NotSupported"⟩

/-- NVML for this machine. -/
def MachineIdentity.binding (m : MachineIdentity) : NvmlBinding where
  function
    | .nvmlInit | .nvmlShutdown => .callable fun _ => .ok .none
    | .nvmlSystemGetDriverVersion => .callable fun _ => .ok { obj := .str (String.ofList m.driver.text) }
    | .nvmlSystemGetCudaDriverVersion => .callable fun _ =>
      .ok (oneNumber (m.cudaMajor * 1000 + m.cudaMinor * 10 : ℕ))
    | .nvmlDeviceGetCount => .callable fun _ => .ok (oneNumber m.devices.length)
    | .nvmlDeviceGetHandleByIndex => .callable fun _ => .ok { obj := .other }
    | f => .callable fun args => match args.device.bind (m.devices[·]?) with
      | none => .error ⟨"NVMLError_InvalidArgument"⟩
      | some d => d.call f
  constant _ := none

theorem MachineIdentity.identifies_binding (m : MachineIdentity) : m.binding.Identifies m where
  init := ⟨fun _ => .ok .none, .none, rfl, rfl⟩
  driver := ⟨_, _, rfl, rfl, .inl rfl⟩
  cuda := ⟨_, _, rfl, rfl, rfl⟩
  count := ⟨_, _, rfl, rfl, rfl⟩
  devices := by
    rintro ⟨d, i⟩ hp
    have hget : m.devices[i]? = some d := List.mem_zipIdx_iff_getElem?.1 hp
    have hinvoke : ∀ f ∈ [NvmlFunction.nvmlDeviceGetName, .nvmlDeviceGetUUID,
        .nvmlDeviceGetMemoryInfo, .nvmlDeviceGetCudaComputeCapability],
        m.binding.invoke f i = d.call f := by
      simp [NvmlBinding.invoke, MachineIdentity.binding, hget]
    have hzero : (0 : ℤ).natAbs < doubleLimit := by decide +kernel
    exact {
      handle := by rintro ⟨⟩
      name := ⟨_, hinvoke _ (by simp), .inl rfl⟩
      uuid := ⟨_, hinvoke _ (by simp), .inr rfl⟩
      memory := ⟨_, hinvoke _ (by simp), rfl, _, rfl, hzero⟩
      capability := ⟨_, hinvoke _ (by simp), rfl⟩ }

/-- The label of a text. -/
def labelOf (t : Text) (hline : (t.all fun c => !isLineBreak c) = true)
    (havailable : casefold (strip t) ∉ unavailableMarkers.map String.toList) : Label where
  text := t
  line c hc := by simpa using List.all_eq_true.1 hline c hc
  available := havailable

/-- A machine with one device. -/
def oneGpu (name : Label) (vramMib : ℕ) (capability : ℤ × ℤ) (cudaMajor : ℕ)
    (h : 0 < cudaMajor) : MachineIdentity where
  devices := [{
    name := name
    uuid := labelOf "GPU-0".toList rfl (by decide)
    vramMib := vramMib
    capability := capability }]
  driver := labelOf "535.129.03".toList rfl (by decide)
  cudaMajor := cudaMajor
  cudaMinor := 2
  minor_lt := by decide
  positive := by omega

/-- A name with a comma in it. -/
def commaName : Label := labelOf "RTX A6000, 48GB".toList rfl (by decide)

theorem inRange_oneGpu {name : Label} {vramMib cudaMajor : ℕ} {capability : ℤ × ℤ}
    {h : 0 < cudaMajor} (hvram : vramMib ≤ 2 ^ 53)
    (hcapability : Printable capability.1 ∧ Printable capability.2) (hcuda : Printable cudaMajor) :
    (oneGpu name vramMib capability cudaMajor h).InRange where
  count := Nat.one_le_pow _ _ (by simp)
  vram d hd := by
    cases List.mem_singleton.1 hd
    exact hvram
  capability d hd := by
    cases List.mem_singleton.1 hd
    exact hcapability
  cuda := hcuda

theorem legible_oneGpu {name : Label} {vramMib cudaMajor : ℕ} {capability : ℤ × ℤ}
    {h : 0 < cudaMajor} (hm : (oneGpu name vramMib capability cudaMajor h).InRange)
    (hname : name.text.length ≤ Csv.fieldLimit) :
    (oneGpu name vramMib capability cudaMajor h).Legible where
  toInRange := hm
  labels d hd := by
    have huuid : "GPU-0".toList.length ≤ 4303 := by simp
    cases List.mem_singleton.1 hd
    exact ⟨hname, huuid.trans Csv.fieldLimit_ge⟩
  driver := by
    have hdriver : "535.129.03".toList.length ≤ 4303 := by simp
    exact hdriver.trans Csv.fieldLimit_ge

/-- A machine that both backends can read. -/
def commaGpu : MachineIdentity := oneGpu commaName 49140 (8, 6) 12 (by decide)

theorem inRange_small (name : Label) : (oneGpu name 49140 (8, 6) 12 (by decide)).InRange :=
  inRange_oneGpu (by simp) ⟨printable_of_lt (by simp), printable_of_lt (by simp)⟩
    (printable_of_lt (by simp))

/-- The backends agree on a device whose name has a comma in it. -/
theorem backends_agree_on_comma :
    ((commaGpu.printing 1000000).staticInfo (fun _ => false) fun _ => .ok ()).outcome =
        .ok commaGpu.profiles ∧
      ((NvmlGpuReader.mk false false ∅).staticInfo ⟨.ok (), commaGpu.binding⟩ fun _ => .ok ()).1 =
        .ok commaGpu.profiles := by
  refine backends_agree_on_identity (fun _ _ => rfl) (commaGpu.printsIdentity_printing _ _)
    commaGpu.identifies_binding (commaGpu.withinLimit_printing ?_) ?_ _
  · decide +kernel
  · exact legible_oneGpu (inRange_small commaName) (le_trans (by decide) Csv.fieldLimit_ge)

/-! ## Machines that are not read -/

/-- The backends return the same profiles of this machine. -/
def Agreed (m : MachineIdentity) (maxOutputBytes : ℕ) : Prop :=
  ∀ (c : SmiCall) (B : NvmlBinding), c.maxOutputBytes = maxOutputBytes →
    c.PrintsIdentity (fun _ => false) m → B.Identifies m → ∀ r : NvmlGpuReader,
      ∃ ps, (c.staticInfo (fun _ => false) fun _ => .ok ()).outcome = .ok ps ∧
        (r.staticInfo ⟨.ok (), B⟩ fun _ => .ok ()).1 = .ok ps

theorem Agreed.exists_profiles {m : MachineIdentity} {n : ℕ} (h : Agreed m n) :
    ∃ ps, ((m.printing n).staticInfo (fun _ => false) fun _ => .ok ()).outcome = .ok ps ∧
      (profileAll (fun _ => .ok ()) m.binding).outcome = .ok ps := by
  obtain ⟨ps, hsmi, hnvml⟩ := h _ _ rfl (m.printsIdentity_printing _ n) m.identifies_binding {}
  rw [NvmlGpuReader.staticInfo, operate_eq m.identifies_binding.init] at hnvml
  exact ⟨ps, hsmi, hnvml⟩

/-- Without rows there are no profiles. -/
theorem not_agreed_of_no_rows {m : MachineIdentity} {n : ℕ} (hm : m.InRange)
    (hne : m.devices ≠ []) (h : (query (m.printing n) staticFields "gpu").outcome = .ok []) :
    ¬ Agreed m n := by
  intro hagreed
  obtain ⟨ps, hsmi, hnvml⟩ := hagreed.exists_profiles
  have hnone : ((m.printing n).staticInfo (fun _ => false) fun _ => .ok ()).outcome = .ok [] := by
    unfold SmiCall.staticInfo
    exact (Logged.bind_of_ok h).2 rfl
  have hall := staticInfo_identifies (fun _ _ => rfl) m.identifies_binding hm {}
  rw [NvmlGpuReader.staticInfo, operate_eq m.identifies_binding.init, hnvml] at hall
  have hnil : m.profiles = [] := by
    rw [← Except.ok.inj hall]
    exact Except.ok.inj (hsmi.symm.trans hnone)
  exact hne (List.zipIdx_eq_nil_iff.1 (List.map_eq_nil_iff.1 hnil))

/-- Where NVML's numbers are too large, `NvmlGpuReader` raises. -/
theorem Agreed.reported {m : MachineIdentity} {n : ℕ} (h : Agreed m n) :
    Printable m.cudaMajor ∧ ∀ p ∈ m.devices.zipIdx, p.1.vramMib * 2 ^ 20 < doubleLimit ∧
      Printable p.1.capability.1 ∧ Printable p.1.capability.2 := by
  obtain ⟨ps, -, hps⟩ := h.exists_profiles
  have hB := m.identifies_binding
  obtain ⟨-, hcuda, -, hdevices⟩ := (profileAll_returns fun _ _ => rfl).1 ⟨ps, hps⟩
  rw [NvmlBinding.count_of_answers hB.count] at hdevices
  constructor
  · have hvalid : validVersion (m.binding.system .nvmlSystemGetCudaDriverVersion).obj =
        some ((m.cudaMajor * 1000 + m.cudaMinor * 10 : ℕ) : ℤ) :=
      if_neg (by have := m.positive; omega)
    have hmajor : ((m.cudaMajor * 1000 + m.cudaMinor * 10 : ℕ) : ℤ) / 1000 = m.cudaMajor := by
      have := m.minor_lt
      omega
    exact hmajor ▸ (cudaVersion_returns.1 hcuda).2 _ hvalid
  · intro p hp
    obtain ⟨-, htotal, hcapability⟩ :=
      (hdevices p.2 (List.mem_zipIdx' hp).1).2 (hB.devices p hp).handle
    constructor
    · obtain ⟨v, hv, hfits⟩ := returns_nvml_measurement.1 htotal
      have hvalue : m.binding.fieldValue p.2 .vramTotalBytes =
          .ok (.num (.int (p.1.vramMib * 2 ^ 20 : ℕ))) :=
        congrArg Attribute.get (hB.devices p hp).memory.device.1
      cases hvalue.symm.trans hv
      exact hfits
    · obtain ⟨n, hn, hpair⟩ := hcapability _ (hB.devices p hp).capability.device
      cases hn
      obtain ⟨pair, hitems, hprintable⟩ := hpair rfl
      cases hitems
      exact hprintable _ _ rfl

/-- A name that is too long for a cell. -/
def longName : Label where
  text := List.replicate (Csv.fieldLimit + 1) 'x'
  line c hc := by
    rw [List.eq_of_mem_replicate hc]
    rfl
  available := by
    have hlength : ∀ m ∈ unavailableMarkers, m.toList.length ≤ 17 := by decide
    have hlimit := Csv.fieldLimit_ge
    rw [strip_eq_self fun c hc => by rw [List.eq_of_mem_replicate hc]; rfl,
      casefold_eq_self fun c hc => by rw [List.eq_of_mem_replicate hc]; rfl]
    intro hmem
    obtain ⟨m, hm, htext⟩ := List.mem_map.1 hmem
    have hle := hlength m hm
    rw [htext, List.length_replicate] at hle
    omega

/-- Lines that are not read are lost. -/
theorem parseLines_unread {columns : List String} {lines : List Text}
    (h : ∀ line ∈ lines, ∃ e, Csv.readLine line = .error e) : (parseLines columns lines).1 = [] := by
  induction lines with
  | nil => rfl
  | cons line lines ih =>
    obtain ⟨⟨e, he⟩, hlines⟩ := List.forall_mem_cons.1 h
    have hrest := ih hlines
    rw [parseLines, he]
    dsimp only
    split_ifs
    · exact hrest
    · exact hrest

theorem not_agreed_longName : ¬ Agreed (oneGpu longName 49140 (8, 6) 12 (by decide)) 1000000 := by
  refine not_agreed_of_no_rows (inRange_small longName) (List.cons_ne_nil _ _) ?_
  rw [query_outcome (invoke_text (MachineIdentity.printsText_printing _ _ _))]
  split
  · rfl
  · refine congrArg Except.ok ?_
    rw [MachineIdentity.output_core, answered, parseNvidiaCsv, splitlines_unlines]
    · refine parseLines_unread (List.forall_mem_map.2 fun p hp => ⟨⟨"_csv.Error"⟩, ?_⟩)
      cases List.mem_singleton.1 hp
      refine Csv.readLine_long (printed_index (Nat.pow_pos (by simp))).rendered ?_ _
      exact (List.length_replicate).symm ▸ Nat.lt_succ_self _
    · exact List.forall_mem_map.2 fun p _ => MachineIdentity.isLineBreak_coreText _ p

/-- The backends disagree where the output or a name is too long, and where the
    memory, a compute capability or the CUDA version is too large. -/
theorem backends_disagree_on_identity :
    ¬ Agreed commaGpu 40 ∧
      ¬ Agreed (oneGpu longName 49140 (8, 6) 12 (by decide)) 1000000 ∧
      ¬ Agreed (oneGpu commaName doubleLimit (8, 6) 12 (by decide)) 1000000 ∧
      ¬ Agreed (oneGpu commaName 49140 (10 ^ maxStrDigits, 0) 12 (by decide)) 1000000 ∧
      ¬ Agreed (oneGpu commaName 49140 (8, 6) (10 ^ maxStrDigits)
        (Nat.pow_pos (by decide))) 1000000 := by
  refine ⟨?_, not_agreed_longName, ?_, ?_, ?_⟩
  · refine not_agreed_of_no_rows (inRange_small commaName) (List.cons_ne_nil _ _) ?_
    have hsize : 40 < utf8Length (commaGpu.output (queryArguments staticFields)) := by decide +kernel
    have hlimit : (commaGpu.printing 40).maxOutputBytes <
      utf8Length (commaGpu.output (queryArguments staticFields)) := hsize
    rw [query_outcome (invoke_text (commaGpu.printsText_printing _ _)), if_pos hlimit]
    rfl
  · intro h
    have hvram : doubleLimit * 2 ^ 20 < doubleLimit := (h.reported.2 _ List.mem_cons_self).1
    omega
  · intro h
    have hmajor : (10 ^ maxStrDigits : ℤ).natAbs < 10 ^ maxStrDigits :=
      (h.reported.2 _ List.mem_cons_self).2.1
    rw [Int.natAbs_pow] at hmajor
    exact lt_irrefl _ hmajor
  · intro h
    have hmajor : ((10 ^ maxStrDigits : ℕ) : ℤ).natAbs < 10 ^ maxStrDigits := h.reported.1
    rw [Int.natAbs_natCast] at hmajor
    exact lt_irrefl _ hmajor

end SweatMeter
