/-
  Faults of an NVML binding stay local.

  Every operation of the reader returns exactly if the names it looks up outside
  the guard are there and the values it converts and prints are not too large
  (`Readable`).  Another outcome of one sensor call on one device then changes
  the fields fed by that call only.
-/
import SweatMeter.NvmlSample

namespace SweatMeter

open Py

/-! ## Static identity -/

/-- What a device function yields once guarded. -/
def NvmlBinding.device (B : NvmlBinding) (f : NvmlFunction) (d : ℕ) : NvmlObject :=
  guarded (some (B.invoke f d))

/-- The compute capability in an answer. -/
def capabilityOf (raw : NvmlObject) : Except Exn (Option String) :=
  match raw.sequence with
  | none => .ok none
  | some s => do
    let len ← s.len
    if len ≠ 2 then .ok none else do
      let pair ← s.items >>= unpackPair
      match intParts pair with
      | none => .ok none
      | some (major, minor) => some <$> versionText major minor

theorem computeCapability_outcome (B : NvmlBinding) (d : ℕ) (name : String) :
    (computeCapability B d name).outcome =
      capabilityOf (B.device .nvmlDeviceGetCudaComputeCapability d) := by
  unfold computeCapability capabilityOf NvmlBinding.device
  rw [Logged.outcome_bind, attempt_outcome, ok_bind]
  generalize guarded _ = raw
  cases raw.sequence with
  | none => rfl
  | some s =>
    dsimp only
    rw [Logged.outcome_bind, Logged.outcome_lift]
    cases s.len with
    | error e => rfl
    | ok n =>
      rw [ok_bind, ok_bind]
      split
      · rfl
      · rw [Logged.outcome_bind, Logged.outcome_lift]
        cases s.items >>= unpackPair with
        | error e => rfl
        | ok pair =>
          rw [ok_bind, ok_bind]
          cases intParts pair <;> rfl

/-- The compute capability can be unpacked, and printed if it is a pair of integers. -/
def CapabilityReadable (raw : NvmlObject) : Prop :=
  ∀ s, raw.sequence = some s → ∃ n, s.len = .ok n ∧ (n = 2 → ∃ pair,
    s.items >>= unpackPair = .ok pair ∧ ∀ major minor, intParts pair = some (major, minor) →
      Printable major ∧ Printable minor)

theorem returns_versionText {major minor : ℤ} :
    Returns (versionText major minor) ↔ Printable major ∧ Printable minor := by
  simp only [versionText, returns_bind, ← returns_intText]
  constructor
  · rintro ⟨a, ha, b, hb, -⟩; exact ⟨⟨a, ha⟩, b, hb⟩
  · rintro ⟨⟨a, ha⟩, b, hb⟩; exact ⟨a, ha, b, hb, returns_pure _⟩

theorem returns_map {T S : Type} {x : Except Exn T} {f : T → S} : Returns (f <$> x) ↔ Returns x := by
  cases x with
  | error e => exact iff_of_false (not_returns_error e) (not_returns_error e)
  | ok a => exact iff_of_true ⟨f a, rfl⟩ (returns_ok a)

theorem returns_capabilityOf {raw : NvmlObject} :
    Returns (capabilityOf raw) ↔ CapabilityReadable raw := by
  unfold capabilityOf CapabilityReadable
  cases raw.sequence with
  | none => exact iff_of_true (returns_ok _) (by rintro s ⟨⟩)
  | some s =>
    simp only [Option.some.injEq, forall_eq', returns_bind]
    refine exists_congr fun n => and_congr_right fun _ => ?_
    by_cases hn : n = 2
    · simp only [hn, ne_eq, not_true_eq_false, ↓reduceIte, forall_const, returns_bind]
      refine exists_congr fun pair => and_congr_right fun _ => ?_
      cases intParts pair with
      | none => exact iff_of_true (returns_ok _) (by rintro _ _ ⟨⟩)
      | some p =>
        rw [returns_map, returns_versionText]
        simp [Prod.ext_iff]
    · simp [hn, returns_ok]

theorem cudaVersion_returns {B : NvmlBinding} :
    Returns (cudaVersion B).outcome ↔ B.function .nvmlSystemGetCudaDriverVersion ≠ .absent ∧
      ∀ n, validVersion (B.system .nvmlSystemGetCudaDriverVersion).obj = some n →
        Printable (n / 1000) := by
  have hminor (n : ℤ) : Printable (n % 1000 / 10) := printable_of_lt (by omega)
  rw [← returns_lookup]
  unfold cudaVersion NvmlBinding.system
  cases B.lookup .nvmlSystemGetCudaDriverVersion with
  | error e =>
    exact iff_of_false (not_returns_error e) fun h => not_returns_error e h.1
  | ok operation =>
    rw [Logged.outcome_bind, Logged.outcome_lift, ok_bind, Logged.outcome_bind, attempt_outcome,
      ok_bind]
    cases hv : validVersion (guarded operation).obj with
    | none => exact iff_of_true ⟨_, rfl⟩ ⟨returns_ok _, by rintro _ ⟨⟩⟩
    | some n =>
      rw [Logged.outcome_lift, returns_map, returns_versionText]
      simp [returns_ok, hminor]

/-- The profile that a device's answers make. -/
structure ProfileOf (B : NvmlBinding) (driver cuda : Option String) (d : ℕ) (p : GpuProfile) :
    Prop where
  index : p.index = d
  name : p.name = nvmlText (B.device .nvmlDeviceGetName d).obj
  uuid : p.uuid = nvmlText (B.device .nvmlDeviceGetUUID d).obj
  used : Returns (B.measurement d .vramUsedBytes)
  total : B.measurement d .vramTotalBytes = .ok p.vramTotalBytes
  driverVersion : p.driverVersion = driver
  cudaVersion : p.cudaVersion = cuda
  capability : capabilityOf (B.device .nvmlDeviceGetCudaComputeCapability d) = .ok p.computeCapability

theorem profileDevice_ok {construct : GpuProfile → Except Exn Unit} {B : NvmlBinding}
    {driver cuda : Option String} {d : ℕ} {name : String} {p : GpuProfile} :
    (profileDevice construct B driver cuda d name).outcome = .ok p ↔
      ProfileOf B driver cuda d p ∧ construct p = .ok () := by
  unfold profileDevice
  constructor
  · intro h
    have h := (Logged.bind_of_ok (attempt_outcome _ _)).1 h
    have h := (Logged.bind_of_ok (attempt_outcome _ _)).1 h
    obtain ⟨vram, hvram, h⟩ := Logged.bind_ok.1 h
    obtain ⟨capability, hcap, h⟩ := Logged.bind_ok.1 h
    obtain ⟨⟨⟩, hcon, h⟩ := Logged.bind_ok.1 h
    cases h
    rw [computeCapability_outcome] at hcap
    obtain ⟨hused, htotal⟩ := memory_ok.1 hvram
    exact ⟨⟨rfl, rfl, rfl, ⟨_, hused⟩, htotal, rfl, rfl, hcap⟩, hcon⟩
  · intro h
    obtain ⟨i, n, u, m, dv, cv, cc⟩ := p
    obtain ⟨⟨rfl, rfl, rfl, ⟨used, hused⟩, htotal, rfl, rfl, hcap⟩, hcon⟩ := h
    refine (Logged.bind_of_ok (attempt_outcome _ _)).2 ?_
    refine (Logged.bind_of_ok (attempt_outcome _ _)).2 ?_
    refine Logged.bind_ok.2 ⟨(used, m), memory_ok.2 ⟨hused, htotal⟩, ?_⟩
    refine Logged.bind_ok.2 ⟨cc, (computeCapability_outcome ..).trans hcap, ?_⟩
    exact Logged.bind_ok.2 ⟨(), hcon, rfl⟩

/-- The loop of `static_info`. -/
theorem overProfiles_ok {construct : GpuProfile → Except Exn Unit} {B : NvmlBinding}
    {driver cuda : Option String} {ds : List ℕ} {ps : List GpuProfile} :
    (overDevices B (profileDevice construct B driver cuda) ds).outcome = .ok ps ↔
      B.Over (fun d p => ProfileOf B driver cuda d p ∧ construct p = .ok ()) ds ps := by
  refine overDevices_ok (P := fun d p => ProfileOf B driver cuda d p ∧ construct p = .ok ()) ?_
  intro d name p
  exact profileDevice_ok

/-- What `GpuProfile` accepts: a device index, texts that are not empty and a
    number of bytes. -/
structure GpuProfile.Normalized (p : GpuProfile) : Prop where
  index : 0 ≤ p.index
  texts : ∀ t ∈ [p.name, p.uuid, p.driverVersion, p.cudaVersion, p.computeCapability], t ≠ some ""
  vram : ∀ x, p.vramTotalBytes = some x → ∃ q, x.toRat = some q ∧ 0 ≤ q

theorem nvmlText_ne_empty (o : Obj) : nvmlText o ≠ some "" := by
  intro h
  unfold nvmlText at h
  split at h
  · split_ifs at h with hs
    simp [hs] at h
  · split_ifs at h with hs
    simp [hs] at h
  · cases h

theorem versionText_ne_empty {major minor : ℤ} {t : Option String}
    (h : some <$> versionText major minor = .ok t) : t ≠ some "" := by
  cases hv : versionText major minor with
  | error e => rw [hv] at h; cases h
  | ok text =>
    rw [hv] at h
    cases h
    simp only [versionText, bind_eq_ok, pure_eq_ok] at hv
    obtain ⟨a, -, b, -, rfl⟩ := hv
    intro he
    have := congrArg String.length (Option.some.inj he)
    simp only [String.length_append, String.length_empty] at this
    have hdot : (toString ".").length = 1 := rfl
    omega

theorem capabilityOf_ne_empty {raw : NvmlObject} {t : Option String}
    (h : capabilityOf raw = .ok t) : t ≠ some "" := by
  unfold capabilityOf at h
  split at h
  · cases h; simp
  · obtain ⟨n, -, h⟩ := bind_eq_ok.1 h
    split_ifs at h
    · cases h; simp
    · obtain ⟨pair, -, h⟩ := bind_eq_ok.1 h
      split at h
      · cases h; simp
      · exact versionText_ne_empty h

theorem cudaVersion_ne_empty {B : NvmlBinding} {t : Option String}
    (h : (cudaVersion B).outcome = .ok t) : t ≠ some "" := by
  unfold cudaVersion at h
  obtain ⟨operation, -, h⟩ := Logged.bind_ok.1 h
  have h := (Logged.bind_of_ok (attempt_outcome _ _)).1 h
  split at h
  · cases h; simp
  · exact versionText_ne_empty h

/-- What `_number` guarantees. -/
theorem nvmlNumber_nonneg {v : Obj} {x : Number} (h : nvmlNumber v = .ok (some x)) :
    ∃ q, x.toRat = some q ∧ 0 ≤ q := by
  cases v with
  | num y =>
    cases hy : y.isfinite with
    | error e => simp [nvmlNumber, hy] at h
    | ok fin => cases fin with
      | false => rw [nvmlNumber_of_not_finite hy] at h; cases h
      | true =>
        obtain ⟨q, hq⟩ := Number.toRat_of_isfinite hy
        rw [nvmlNumber_eq hy] at h
        simp only [↓reduceIte, Option.any_none, Bool.false_eq_true, or_false, Except.ok.injEq] at h
        split_ifs at h with hlo
        cases h
        refine ⟨q, hq, ?_⟩
        rw [Number.ltRat_eq hq] at hlo
        simpa using hlo
  | _ => cases h

theorem ProfileOf.normalized {B : NvmlBinding} {driver cuda : Option String}
    (hd : driver ≠ some "") (hc : cuda ≠ some "") {d : ℕ} {p : GpuProfile}
    (h : ProfileOf B driver cuda d p) : p.Normalized where
  index := by rw [h.index]; omega
  texts := by
    simp only [List.forall_mem_cons, List.not_mem_nil, false_imp_iff, implies_true, and_true]
    refine ⟨?_, ?_, ?_, ?_, capabilityOf_ne_empty h.capability⟩
    · rw [h.name]; exact nvmlText_ne_empty _
    · rw [h.uuid]; exact nvmlText_ne_empty _
    · rwa [h.driverVersion]
    · rwa [h.cudaVersion]
  vram := by
    intro x hx
    have htotal := h.total
    rw [hx] at htotal
    obtain ⟨v, -, hv⟩ := bind_eq_ok.1 htotal
    exact nvmlNumber_nonneg hv

section Construct

/-! The constructor of `GpuProfile` accepts what is normalized. -/

variable {construct : GpuProfile → Except Exn Unit}
  (haccepts : ∀ p : GpuProfile, p.Normalized → construct p = .ok ())

include haccepts in
theorem exists_profileOf {B : NvmlBinding} {driver cuda : Option String} (hd : driver ≠ some "")
    (hc : cuda ≠ some "") {d : ℕ} :
    (∃ p, ProfileOf B driver cuda d p ∧ construct p = .ok ()) ↔
      Returns (B.measurement d .vramUsedBytes) ∧ Returns (B.measurement d .vramTotalBytes) ∧
        CapabilityReadable (B.device .nvmlDeviceGetCudaComputeCapability d) := by
  rw [← returns_capabilityOf]
  constructor
  · rintro ⟨p, h, -⟩
    exact ⟨h.used, ⟨_, h.total⟩, _, h.capability⟩
  · rintro ⟨hused, ⟨total, htotal⟩, capability, hcap⟩
    have h : ProfileOf B driver cuda d ⟨d, nvmlText (B.device .nvmlDeviceGetName d).obj,
        nvmlText (B.device .nvmlDeviceGetUUID d).obj, total, driver, cuda, capability⟩ :=
      ⟨rfl, rfl, rfl, hused, htotal, rfl, rfl, hcap⟩
    exact ⟨_, h, haccepts _ (h.normalized hd hc)⟩

/-- The device can be profiled. -/
structure DeviceProfilable (B : NvmlBinding) (d : ℕ) : Prop where
  used : Returns (B.measurement d .vramUsedBytes)
  total : Returns (B.measurement d .vramTotalBytes)
  capability : CapabilityReadable (B.device .nvmlDeviceGetCudaComputeCapability d)

include haccepts in
/-- When `static_info` returns. -/
theorem profileAll_returns {B : NvmlBinding} :
    Returns (profileAll construct B).outcome ↔
      B.function .nvmlSystemGetDriverVersion ≠ .absent ∧ Returns (cudaVersion B).outcome ∧
        B.function .nvmlDeviceGetCount ≠ .absent ∧ ∀ d < B.count, Printable d ∧
          (B.Addressable d → DeviceProfilable B d) := by
  have hall {driver cuda : Option String} (hd : driver ≠ some "") (hc : cuda ≠ some "") :
      (∃ ps, B.Over (fun d p => ProfileOf B driver cuda d p ∧ construct p = .ok ())
        (List.range B.count) ps) ↔ ∀ d < B.count, Printable d ∧
          (B.Addressable d → DeviceProfilable B d) := by
    rw [exists_over]
    simp only [List.mem_range, exists_profileOf haccepts hd hc]
    refine forall₂_congr fun d _ => and_congr_right fun _ => imp_congr_right fun _ => ?_
    exact ⟨fun ⟨h1, h2, h3⟩ => ⟨h1, h2, h3⟩, fun h => ⟨h.used, h.total, h.capability⟩⟩
  rw [← returns_lookup]
  unfold profileAll
  constructor
  · rintro ⟨ps, h⟩
    obtain ⟨operation, hop, h⟩ := Logged.bind_ok.1 h
    have h := (Logged.bind_of_ok (attempt_outcome _ _)).1 h
    obtain ⟨cuda, hcuda, h⟩ := Logged.bind_ok.1 h
    obtain ⟨n, hn, h⟩ := Logged.bind_ok.1 h
    obtain ⟨qs, hqs, -⟩ := Logged.bind_ok.1 h
    obtain ⟨hcount, rfl⟩ := deviceCount_ok.1 hn
    exact ⟨⟨operation, hop⟩, ⟨cuda, hcuda⟩, hcount,
      (hall (nvmlText_ne_empty _) (cudaVersion_ne_empty hcuda)).1 ⟨qs, overProfiles_ok.1 hqs⟩⟩
  · rintro ⟨⟨operation, hop⟩, ⟨cuda, hcuda⟩, hcount, hdev⟩
    have hne := nvmlText_ne_empty (guarded operation).obj
    obtain ⟨ps, hps⟩ := (hall hne (cudaVersion_ne_empty hcuda)).2 hdev
    refine ⟨ps, Logged.bind_ok.2 ⟨operation, hop, ?_⟩⟩
    refine (Logged.bind_of_ok (attempt_outcome _ _)).2 ?_
    refine Logged.bind_ok.2 ⟨cuda, hcuda, ?_⟩
    refine Logged.bind_ok.2 ⟨B.count, deviceCount_ok.2 ⟨hcount, rfl⟩, ?_⟩
    exact Logged.bind_ok.2 ⟨ps, overProfiles_ok.2 hps, rfl⟩

/-! ## The operations of a reader -/

/-- The reader of this binding after any operations. -/
inductive NvmlGpuReader.Reachable (construct : GpuProfile → Except Exn Unit) (B : NvmlBinding) :
    NvmlGpuReader → Prop
  | fresh : Reachable construct B { loaded := true }
  | available {r} : Reachable construct B r → Reachable construct B (r.available ⟨.ok (), B⟩).2
  | sample {r} : Reachable construct B r → Reachable construct B (r.sample ⟨.ok (), B⟩).2
  | staticInfo {r} : Reachable construct B r →
      Reachable construct B (r.staticInfo ⟨.ok (), B⟩ construct).2
  | close {r} : Reachable construct B r → Reachable construct B (r.close ⟨.ok (), B⟩).2

/-- No operation of a reader raises. -/
def NvmlBinding.NeverRaises (construct : GpuProfile → Except Exn Unit) (B : NvmlBinding) : Prop :=
  ∀ r, NvmlGpuReader.Reachable construct B r →
    Returns (r.available ⟨.ok (), B⟩).1 ∧ Returns (r.sample ⟨.ok (), B⟩).1 ∧
      Returns (r.staticInfo ⟨.ok (), B⟩ construct).1 ∧ Returns (r.close ⟨.ok (), B⟩).1

theorem returns_shutdown {B : NvmlBinding} :
    Returns (shutdown B).outcome ↔ B.function .nvmlShutdown ≠ .absent := by
  rw [← returns_lookup, shutdown, Logged.outcome_bind, Logged.outcome_lift]
  refine returns_bind_of fun operation => ⟨(), ?_⟩
  rw [Logged.bind_of_ok (attempt_outcome _ _)]; rfl

theorem returns_close {B : NvmlBinding} {r : NvmlGpuReader} :
    Returns (r.close ⟨.ok (), B⟩).1 ↔
      (r.loaded = true → r.initialized = true → B.function .nvmlShutdown ≠ .absent) := by
  obtain ⟨loaded, initialized, reasons⟩ := r
  by_cases h : loaded = true ∧ initialized = true
  · obtain ⟨rfl, rfl⟩ := h
    simp [NvmlGpuReader.close, returns_shutdown]
  · have : (loaded && initialized) = false := by simpa using h
    refine iff_of_true ?_ fun hl hi => absurd ⟨hl, hi⟩ h
    simp [NvmlGpuReader.close, this, returns_ok]

/-- Every name looked up outside the guard is there, and every value that is
    converted or printed outside it can be. -/
structure NvmlBinding.Readable (B : NvmlBinding) : Prop extends B.SampleReadable where
  shutdown : B.function .nvmlShutdown ≠ .absent
  driver : B.function .nvmlSystemGetDriverVersion ≠ .absent
  cuda : B.function .nvmlSystemGetCudaDriverVersion ≠ .absent
  version : ∀ n, validVersion (B.system .nvmlSystemGetCudaDriverVersion).obj = some n →
    Printable (n / 1000)
  capability : ∀ d < B.count, B.Addressable d →
    CapabilityReadable (B.device .nvmlDeviceGetCudaComputeCapability d)

include haccepts in
theorem neverRaises_iff {B : NvmlBinding} (hinit : B.Initializes) :
    B.NeverRaises construct ↔ B.Readable := by
  have havail (r : NvmlGpuReader) : Returns (r.available ⟨.ok (), B⟩).1 ↔
      B.function .nvmlDeviceGetCount ≠ .absent := by
    rw [NvmlGpuReader.available, operate_eq hinit, Logged.outcome_bind, returns_bind_of]
    · exact ⟨fun ⟨n, h⟩ => (deviceCount_ok.1 h).1, fun h => ⟨_, deviceCount_ok.2 ⟨h, rfl⟩⟩⟩
    · exact fun n => ⟨_, rfl⟩
  have hsample (r : NvmlGpuReader) : Returns (r.sample ⟨.ok (), B⟩).1 ↔ B.SampleReadable := by
    rw [NvmlGpuReader.sample, operate_eq hinit, returns_sampleAll]
  have hstatic (r : NvmlGpuReader) : Returns (r.staticInfo ⟨.ok (), B⟩ construct).1 ↔
      B.function .nvmlSystemGetDriverVersion ≠ .absent ∧ Returns (cudaVersion B).outcome ∧
        B.function .nvmlDeviceGetCount ≠ .absent ∧ ∀ d < B.count, Printable d ∧
          (B.Addressable d → DeviceProfilable B d) := by
    rw [NvmlGpuReader.staticInfo, operate_eq hinit]
    exact profileAll_returns haccepts
  constructor
  · intro h
    have hr : NvmlGpuReader.Reachable construct B _ := .sample .fresh
    obtain ⟨-, h1, h2, h3⟩ := h _ hr
    have h1 := (hsample _).1 h1
    obtain ⟨hdriver, hcuda, -, hdevices⟩ := (hstatic _).1 h2
    obtain ⟨hcuda, hversion⟩ := cudaVersion_returns.1 hcuda
    rw [NvmlGpuReader.sample, operate_eq hinit] at h3
    exact ⟨h1, returns_close.1 h3 rfl rfl, hdriver, hcuda, hversion,
      fun d hd ha => ((hdevices d hd).2 ha).capability⟩
  · intro h r _
    refine ⟨(havail r).2 h.count, (hsample r).2 h.toSampleReadable, (hstatic r).2 ?_,
      returns_close.2 fun _ _ => h.shutdown⟩
    refine ⟨h.driver, cudaVersion_returns.2 ⟨h.cuda, h.version⟩, h.count, ?_⟩
    intro d hd
    refine ⟨(h.devices d hd).1, ?_⟩
    intro ha
    have hfield := (h.devices d hd).2 ha
    exact ⟨returns_nvml_measurement.2 (hfield _), returns_nvml_measurement.2 (hfield _),
      h.capability d hd ha⟩

end Construct

/-! ## Another outcome of one sensor call -/

/-- The bindings behave alike but for one sensor call on one device. -/
structure NvmlBinding.SameBut (call : SensorCall) (k : ℕ) (B B' : NvmlBinding) : Prop where
  init : B.function .nvmlInit = B'.function .nvmlInit
  count : B.function .nvmlDeviceGetCount = B'.function .nvmlDeviceGetCount
  handle : ∀ d, B.invoke .nvmlDeviceGetHandleByIndex d = B'.invoke .nvmlDeviceGetHandleByIndex d
  sensor : ∀ c d, ¬ (d = k ∧ c = call) → B.sensor c d = B'.sensor c d

/-- The samples agree but for what the call feeds on device `k`. -/
structure LocalAt (call : SensorCall) (k : ℕ) (s s' : GpuSample Number) : Prop where
  index : s.index = s'.index
  measurement : ∀ f, ¬ (s.index = k ∧ f.call = some call) → s.measurement f = s'.measurement f
  uuid : ¬ (s.index = k ∧ call = .uuid) → s.uuid = s'.uuid
  throttle : ¬ (s.index = k ∧ (call = .supportedThrottleReasons ∨ call = .currentThrottleReasons)) →
    s.throttleReasons = s'.throttleReasons ∧ s.throttleReasonsAvailable = s'.throttleReasonsAvailable

/-- The outcomes of `sample` agree but for what the call feeds on device `k`. -/
def Localized (call : SensorCall) (k : ℕ) :
    Except Exn (List (GpuSample Number)) → Except Exn (List (GpuSample Number)) → Prop
  | .ok xs, .ok ys => List.Forall₂ (LocalAt call k) xs ys
  | .error _, .error _ => True
  | _, _ => False

section SameBut

variable {call : SensorCall} {k : ℕ} {B B' : NvmlBinding} (h : B.SameBut call k B')
include h

theorem NvmlBinding.SameBut.answer {c : SensorCall} {d : ℕ} (hc : ¬ (d = k ∧ c = call)) :
    B.answer c d = B'.answer c d := by
  rw [NvmlBinding.answer, h.sensor c d hc]; rfl

theorem NvmlBinding.SameBut.count_eq : B.count = B'.count := by
  simp only [NvmlBinding.count, NvmlBinding.system, NvmlBinding.lookup, h.count]

theorem NvmlBinding.SameBut.addressable (d : ℕ) : B.Addressable d ↔ B'.Addressable d := by
  rw [NvmlBinding.Addressable, h.handle d]; rfl

theorem NvmlBinding.SameBut.localAt {d : ℕ} {s s' : GpuSample Number} (hs : B.SampleOf d s)
    (hs' : B'.SampleOf d s') : LocalAt call k s s' := by
  have hd : ∀ {P : Prop}, ¬ (s.index = k ∧ P) → ¬ (d = k ∧ P) := by
    rintro P hn ⟨rfl, hP⟩
    exact hn ⟨hs.index, hP⟩
  refine ⟨hs.index.trans hs'.index.symm, ?_, ?_, ?_⟩
  · intro f hf
    have hv : B.fieldValue d f = B'.fieldValue d f := by
      unfold NvmlBinding.fieldValue
      cases hcall : f.call with
      | none => rfl
      | some c =>
        have hc : B.answer c d = B'.answer c d := by
          refine h.answer fun hkc => hd hf ⟨hkc.1, ?_⟩
          rw [hcall, hkc.2]
        cases f.attribute <;> simp only [hc]
    have := hs.measurement f
    rw [NvmlBinding.measurement, hv] at this
    exact Except.ok.inj (this.symm.trans (hs'.measurement f))
  · intro hu
    rw [hs.uuid, hs'.uuid, h.answer fun hkc => hd hu ⟨hkc.1, hkc.2.symm⟩]
  · intro ht
    have h1 := h.answer fun hkc => hd ht ⟨hkc.1, .inl hkc.2.symm⟩
    have h2 := h.answer fun hkc => hd ht ⟨hkc.1, .inr hkc.2.symm⟩
    have := hs.throttle
    rw [NvmlBinding.throttle, h1, h2] at this
    exact Prod.mk.inj (this.trans hs'.throttle.symm)

theorem NvmlBinding.SameBut.over {ds : List ℕ} {xs ys : List (GpuSample Number)}
    (hx : B.Over B.SampleOf ds xs) (hy : B'.Over B'.SampleOf ds ys) :
    List.Forall₂ (LocalAt call k) xs ys := by
  induction hx generalizing ys with
  | nil => cases hy; exact .nil
  | skip _ hno _ ih =>
    cases hy with
    | skip _ _ hrest => exact ih hrest
    | take _ hyes _ _ => exact absurd ((h.addressable _).2 hyes) hno
  | take _ hyes hs _ ih =>
    cases hy with
    | skip _ hno _ => exact absurd ((h.addressable _).1 hyes) hno
    | take _ _ hs' hrest => exact .cons (h.localAt hs hs') (ih hrest)

theorem localized_iff (r r' : NvmlGpuReader) (hinit : B.Initializes) :
    Localized call k (r.sample ⟨.ok (), B⟩).1 (r'.sample ⟨.ok (), B'⟩).1 ↔
      (B.SampleReadable ↔ B'.SampleReadable) := by
  have hinit' : B'.Initializes := by
    obtain ⟨run, v, hrun, hv⟩ := hinit
    exact ⟨run, v, h.init ▸ hrun, hv⟩
  rw [NvmlGpuReader.sample, NvmlGpuReader.sample, operate_eq hinit, operate_eq hinit',
    ← returns_sampleAll, ← returns_sampleAll]
  cases hx : (sampleAll B).outcome with
  | error e => cases hy : (sampleAll B').outcome with
    | error e' => exact iff_of_true trivial (iff_of_false (not_returns_error e) (not_returns_error e'))
    | ok ys => exact iff_of_false id fun hiff => not_returns_error e (hiff.2 (returns_ok ys))
  | ok xs => cases hy : (sampleAll B').outcome with
    | error e => exact iff_of_false id fun hiff => not_returns_error e (hiff.1 (returns_ok xs))
    | ok ys =>
      obtain ⟨-, hox⟩ := sampleAll_ok.1 hx
      obtain ⟨-, hoy⟩ := sampleAll_ok.1 hy
      rw [← h.count_eq] at hoy
      exact iff_of_true (h.over hox hoy) (iff_of_true (returns_ok xs) (returns_ok ys))

end SameBut

/-- **NVML faults stay local.**  The operations of a reader return, whatever the
    binding does, exactly if it is readable; and another outcome of one sensor
    call on one device changes nothing but the fields it feeds, exactly if
    `sample` reads both bindings or neither. -/
theorem nvml_faults_local {construct : GpuProfile → Except Exn Unit}
    (haccepts : ∀ p : GpuProfile, p.Normalized → construct p = .ok ()) {B : NvmlBinding}
    (hinit : B.Initializes) :
    (B.NeverRaises construct ↔ B.Readable) ∧
      ∀ (call : SensorCall) (k : ℕ) (B' : NvmlBinding), B.SameBut call k B' →
        ∀ r r' : NvmlGpuReader,
          (Localized call k (r.sample ⟨.ok (), B⟩).1 (r'.sample ⟨.ok (), B'⟩).1 ↔
            (B.SampleReadable ↔ B'.SampleReadable)) :=
  ⟨neverRaises_iff haccepts hinit, fun _ _ _ h r r' => localized_iff h r r' hinit⟩

/-! ## A huge power reading -/

/-- One device that supports the power sensor only. -/
def oneDevice (power : Except Exn NvmlObject) : NvmlBinding where
  function
    | .nvmlInit | .nvmlShutdown => .callable fun _ => .ok .none
    | .nvmlDeviceGetCount => .callable fun _ => .ok { obj := .num (.int 1) }
    | .nvmlDeviceGetHandleByIndex => .callable fun _ => .ok { obj := .other }
    | .nvmlDeviceGetPowerUsage => .callable fun args =>
      if args.device = some 0 then power else .error ⟨"NVMLError_NotSupported"⟩
    | _ => .callable fun _ => .error ⟨"NVMLError_NotSupported"⟩
  constant _ := some (.num (.int 0))

theorem initializes_oneDevice (power : Except Exn NvmlObject) : (oneDevice power).Initializes :=
  ⟨fun _ => .ok .none, .none, rfl, rfl⟩

theorem sameBut_oneDevice (power power' : Except Exn NvmlObject) :
    NvmlBinding.SameBut .powerUsage 0 (oneDevice power) (oneDevice power') where
  init := rfl
  count := rfl
  handle _ := rfl
  sensor c d hc := by
    cases c with
    | powerUsage =>
      have hd : d ≠ 0 := fun h => hc ⟨h, rfl⟩
      simp [NvmlBinding.sensor, NvmlBinding.invoke, SensorCall.function, SensorCall.constant,
        oneDevice, hd]
    | _ => rfl

theorem sampleReadable_oneDevice (power : Except Exn NvmlObject) :
    (oneDevice power).SampleReadable ↔ Fits (guarded (some power)).obj := by
  constructor
  · intro h
    have hd : (oneDevice power).Addressable 0 := by rintro ⟨⟩
    have hcount : 0 < (oneDevice power).count := (by simp : 0 < 1)
    obtain ⟨v, hv, hfit⟩ := (h.devices 0 hcount).2 hd .powerWatts
    cases hv
    exact hfit
  · intro h
    refine ⟨by rintro ⟨⟩, fun d hd => ⟨?_, fun _ f => ?_⟩⟩ <;>
      obtain rfl : d = 0 := Nat.lt_one_iff.1 hd
    · exact Nat.pow_pos (by simp)
    · cases f with
      | powerWatts => exact ⟨_, rfl, h⟩
      | _ => exact ⟨.none, rfl, trivial⟩

theorem readable_oneDevice {power : Except Exn NvmlObject} (h : Fits (guarded (some power)).obj) :
    (oneDevice power).Readable where
  toSampleReadable := (sampleReadable_oneDevice power).2 h
  shutdown := by rintro ⟨⟩
  driver := by rintro ⟨⟩
  cuda := by rintro ⟨⟩
  version := by rintro n ⟨⟩
  capability d _ _ := by
    rintro s hs
    cases hs

/-- A device whose power reading fails is sampled like one whose does not, but
    for its power. -/
theorem nvml_faults_local_power :
    (oneDevice (.ok { obj := .num (.int 50000) })).NeverRaises (fun _ => .ok ()) ∧
      Localized .powerUsage 0
        ((NvmlGpuReader.mk true false ∅).sample
          ⟨.ok (), oneDevice (.ok { obj := .num (.int 50000) })⟩).1
        ((NvmlGpuReader.mk true false ∅).sample
          ⟨.ok (), oneDevice (.error ⟨"NVMLError_GpuIsLost"⟩)⟩).1 := by
  have hfit : (50000 : ℤ).natAbs < doubleLimit := by decide +kernel
  have h := @nvml_faults_local (fun _ => .ok ()) (fun _ _ => rfl) _
    (initializes_oneDevice (.ok { obj := .num (.int 50000) }))
  refine ⟨h.1.2 (readable_oneDevice hfit), (h.2 _ _ _ (sameBut_oneDevice _ _) _ _).2 ?_⟩
  exact iff_of_true ((sampleReadable_oneDevice _).2 hfit) ((sampleReadable_oneDevice _).2 trivial)

/-- A power reading too large for a double takes the whole sample with it. -/
theorem nvml_fault_spreads :
    ¬ (∀ B : NvmlBinding, B.Initializes → B.NeverRaises fun _ => .ok ()) ∧
      ¬ ∀ (call : SensorCall) (k : ℕ) (B B' : NvmlBinding), B.Initializes → B.SameBut call k B' →
        ∀ r : NvmlGpuReader, Localized call k (r.sample ⟨.ok (), B⟩).1 (r.sample ⟨.ok (), B'⟩).1 := by
  have hfit : (50000 : ℤ).natAbs < doubleLimit := by decide +kernel
  have hhuge : ¬ (10 ^ 400 : ℤ).natAbs < doubleLimit := by decide +kernel
  constructor
  · intro h
    have hB := initializes_oneDevice (.ok { obj := .num (.int (10 ^ 400)) })
    have hread := (neverRaises_iff (fun _ _ => rfl) hB).1 (h _ hB)
    exact hhuge ((sampleReadable_oneDevice _).1 hread.toSampleReadable)
  · intro h
    have hB := initializes_oneDevice (.ok { obj := .num (.int 50000) })
    have hsame := sameBut_oneDevice (.ok { obj := .num (.int 50000) })
      (.ok { obj := .num (.int (10 ^ 400)) })
    have hlocal := (localized_iff hsame _ _ hB).1 (h _ _ _ _ hB hsame {})
    exact hhuge ((sampleReadable_oneDevice _).1 (hlocal.1 ((sampleReadable_oneDevice _).2 hfit)))

end SweatMeter
