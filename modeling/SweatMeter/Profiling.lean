/-
  What `assemble` computes.

  If no step raises (`Assembles`), the profile is a function of the static facts
  and of the first GPU profile of each index (`ProfileBoundary.profile`); the
  diagnostics decide nothing in it.
-/
import Mathlib.Data.List.ReduceOption
import SweatMeter.Py.Firsts
import SweatMeter.MachineProfile
import SweatMeter.Reading

namespace SweatMeter

open Py

/-! ## Normal forms -/

/-- The measurement in a value that fits. -/
def numberOf (value : Obj) : Measurement Number := (number value).toOption.join

theorem number_eq_ok {value : Obj} {m : Measurement Number} :
    number value = .ok m ↔ Fits value ∧ m = numberOf value := by
  rw [← @returns_number value 0 none, numberOf]
  cases h : number value with
  | error e => exact iff_of_false (by rintro ⟨⟩) fun hr => not_returns_error e hr.1
  | ok x =>
    constructor
    · rintro ⟨⟩; exact ⟨returns_ok _, rfl⟩
    · rintro ⟨-, rfl⟩; rfl

/-- The normal form of a `GpuProfile` object. -/
def GpuProfileObject.normalized (value : GpuProfileObject) : VendorGpuProfile where
  index := value.index
  name := profileText value.name
  uuid := profileText value.uuid
  vramTotalBytes := numberOf value.vramTotalBytes
  driverVersion := profileText value.driverVersion
  cudaVersion := profileText value.cudaVersion
  computeCapability := profileText value.computeCapability
  vendor := value.vendor.getD .unknown

@[simp] theorem GpuProfileObject.normalized_index (value : GpuProfileObject) :
    value.normalized.index = value.index := rfl

variable {F : Type} {core : BaseAiCore F}

/-- The object's memory size fits and BaseAiCore accepts its normal form. -/
structure GpuProfileObject.Acceptable (core : BaseAiCore F) (value : GpuProfileObject) : Prop where
  vram : Fits value.vramTotalBytes
  accepted : core.gpuProfile value.normalized = .ok ()

theorem normalizeGpuProfile_ok {value : GpuProfileObject} {p : VendorGpuProfile} :
    normalizeGpuProfile core value = .ok p ↔ value.Acceptable core ∧ p = value.normalized := by
  simp only [normalizeGpuProfile, bind_eq_ok, number_eq_ok]
  constructor
  · rintro ⟨m, ⟨hfit, rfl⟩, ⟨⟩, hcore, h⟩
    exact ⟨⟨hfit, hcore⟩, (pure_eq_ok.1 h).symm⟩
  · rintro ⟨⟨hfit, hcore⟩, rfl⟩
    exact ⟨_, ⟨hfit, rfl⟩, (), hcore, rfl⟩

/-! ## The loop over the GPU profiles -/

/-- The objects the loop keeps, when these indices have been seen. -/
def keptObjects (seen : List ℤ) (values : List (Option GpuProfileObject)) : List GpuProfileObject :=
  firsts GpuProfileObject.index seen values.reduceOption

theorem any_index_eq {n : List VendorGpuProfile} {i : ℤ} :
    (n.any fun p => p.index = i) = true ↔ i ∈ n.map (·.index) := by
  simp

theorem keptObjects_dropped {seen : List ℤ} {value : Option GpuProfileObject}
    (h : ∀ o, value = some o → o.index ∈ seen) (values : List (Option GpuProfileObject)) :
    keptObjects seen (value :: values) = keptObjects seen values := by
  cases value with
  | none => rw [keptObjects, List.reduceOption_cons_of_none, ← keptObjects]
  | some o =>
    rw [keptObjects, List.reduceOption_cons_of_some, firsts_cons_of_seen (h o rfl), ← keptObjects]

theorem keptObjects_kept {seen : List ℤ} {o : GpuProfileObject} (h : o.index ∉ seen)
    (values : List (Option GpuProfileObject)) :
    keptObjects seen (some o :: values) = o :: keptObjects (seen ++ [o.index]) values := by
  rw [keptObjects, List.reduceOption_cons_of_some, firsts_cons_of_new h, ← keptObjects]

/-- A turn drops the value, or keeps an object with a new index. -/
theorem normalizeProfileValue_ok {k : ℕ} {value : Option GpuProfileObject}
    {n n' : List VendorGpuProfile} {r : Dict String} :
    (∃ r', normalizeProfileValue core k value n r = .ok (n', r')) ↔
      ((∀ o, value = some o → o.index ∈ n.map (·.index)) ∧ n' = n) ∨
        ∃ o, value = some o ∧ o.index ∉ n.map (·.index) ∧ o.Acceptable core ∧
          n' = n ++ [o.normalized] := by
  cases value with
  | none =>
    simp only [normalizeProfileValue, pure_eq_ok, Prod.mk.injEq, reduceCtorEq, false_imp_iff,
      implies_true, true_and, false_and, exists_false, or_false]
    exact ⟨fun ⟨_, h, _⟩ => h.symm, fun h => ⟨_, h.symm, rfl⟩⟩
  | some o =>
    simp only [normalizeProfileValue, any_index_eq, Option.some.injEq, forall_eq', exists_eq_left']
    split_ifs with hseen
    · simp only [pure_eq_ok, Prod.mk.injEq, hseen, not_true_eq_false, false_and, or_false, true_and]
      exact ⟨fun ⟨_, h, _⟩ => h.symm, fun h => ⟨_, h.symm, rfl⟩⟩
    · simp only [bind_eq_ok, normalizeGpuProfile_ok, hseen, not_false_eq_true, false_and, false_or,
        true_and]
      constructor
      · rintro ⟨r', p, ⟨hacc, rfl⟩, h⟩
        exact ⟨hacc, (Prod.mk.inj (pure_eq_ok.1 h)).1.symm⟩
      · rintro ⟨hacc, rfl⟩
        exact ⟨r, _, ⟨hacc, rfl⟩, rfl⟩

/-- **The loop keeps the first object of each index**, and returns if these are acceptable. -/
theorem normalizeProfileValues_ok {k : ℕ} {values : List (Option GpuProfileObject)}
    {n n' : List VendorGpuProfile} {r : Dict String} :
    (∃ r', normalizeProfileValues core k values n r = .ok (n', r')) ↔
      (∀ o ∈ keptObjects (n.map (·.index)) values, o.Acceptable core) ∧
        n' = n ++ (keptObjects (n.map (·.index)) values).map GpuProfileObject.normalized := by
  induction values generalizing k n r with
  | nil =>
    simp only [normalizeProfileValues, pure_eq_ok, Prod.mk.injEq, keptObjects, List.reduceOption_nil,
      firsts, List.not_mem_nil, false_imp_iff, implies_true, true_and, List.map_nil, List.append_nil]
    constructor
    · rintro ⟨r', h, -⟩
      exact h.symm
    · rintro rfl
      exact ⟨r, rfl, rfl⟩
  | cons value values ih =>
    have hstep : (∃ r', normalizeProfileValues core k (value :: values) n r = .ok (n', r')) ↔
        ∃ n₁, (∃ r₁, normalizeProfileValue core k value n r = .ok (n₁, r₁)) ∧
          (∀ o ∈ keptObjects (n₁.map (·.index)) values, o.Acceptable core) ∧
            n' = n₁ ++ (keptObjects (n₁.map (·.index)) values).map GpuProfileObject.normalized := by
      simp only [normalizeProfileValues, bind_eq_ok]
      constructor
      · rintro ⟨r', ⟨n₁, r₁⟩, h₁, h⟩
        exact ⟨n₁, ⟨r₁, h₁⟩, ih.1 ⟨r', h⟩⟩
      · rintro ⟨n₁, ⟨r₁, h₁⟩, h⟩
        obtain ⟨r', h⟩ := (ih (k := k + 1) (r := r₁)).2 h
        exact ⟨r', _, h₁, h⟩
    rw [hstep]
    simp only [normalizeProfileValue_ok]
    constructor
    · rintro ⟨n₁, ⟨hdrop, rfl⟩ | ⟨o, rfl, hnew, hacc, rfl⟩, hall, rfl⟩
      · rw [keptObjects_dropped hdrop]
        exact ⟨hall, rfl⟩
      · rw [keptObjects_kept hnew]
        simp only [List.map_append, List.map_cons, List.map_nil, GpuProfileObject.normalized_index,
          List.append_assoc] at hall ⊢
        exact ⟨List.forall_mem_cons.2 ⟨hacc, hall⟩, rfl⟩
    · rintro ⟨hall, rfl⟩
      by_cases hdrop : ∀ o, value = some o → o.index ∈ n.map (·.index)
      · rw [keptObjects_dropped hdrop] at hall ⊢
        exact ⟨n, Or.inl ⟨hdrop, rfl⟩, hall, rfl⟩
      · push Not at hdrop
        obtain ⟨o, rfl, hnew⟩ := hdrop
        rw [keptObjects_kept hnew] at hall ⊢
        obtain ⟨hacc, hall⟩ := List.forall_mem_cons.1 hall
        refine ⟨n ++ [o.normalized], Or.inr ⟨o, rfl, hnew, hacc, rfl⟩, ?_, ?_⟩
        · simpa using hall
        · simp

/-! ## The profile -/

namespace ProfileBoundary

variable (b : ProfileBoundary)

/-- The facts the profile is made of. -/
def facts : HostFacts := (readValue b.staticFacts (some emptyFacts)).getD emptyFacts

/-- The values `_normalize_gpu_profiles` is given. -/
def values : List (Option GpuProfileObject) := readValue b.staticInfo []

/-- The first GPU profile of each index. -/
def kept : List GpuProfileObject := keptObjects [] b.values

/-- The normalized GPU profiles, by index. -/
def gpus : List VendorGpuProfile :=
  (b.kept.map GpuProfileObject.normalized).insertionSort fun p q => p.index ≤ q.index

/-- The arguments of the fingerprint. -/
def identity : Identity where
  hostname := profileText (b.facts.text .hostname)
  osName := profileText (b.facts.text .osName)
  architecture := profileText (b.facts.text .architecture)
  cpuModel := profileText (b.facts.text .cpuModel)
  physicalCores := numberOf (b.facts.number .physicalCores)
  logicalCores := numberOf (b.facts.number .logicalCores)
  ramBytes := numberOf (b.facts.number .ramBytes)
  gpus := b.gpus

/-- The profile with this fingerprint. -/
def profile {F : Type} (fingerprint : F) : MachineProfile F where
  machineFingerprint := fingerprint
  text f := profileText (b.facts.text f)
  number f := numberOf (b.facts.number f)
  gpus := b.gpus
  storage := b.facts.storage.getD []
  observedAt := (timestampOf b.clocks ∅).1

/-- The diagnostics after the readers have been read. -/
def readNotes : Dict String :=
  let r := readNote b.staticFacts factFields ∅
  let r := malformedNote (readValue b.staticFacts (some emptyFacts)) ["host_profile"] r
  readNote b.staticInfo ["gpu"] r

/-- The diagnostics once the clock is read and the missing values of the identity
    are marked. -/
def marked (r : Dict String) : Dict String :=
  let r := markMissing [("physical_cores", b.identity.physicalCores),
    ("logical_cores", b.identity.logicalCores), ("ram_bytes", b.identity.ramBytes)]
    "sensor_unsupported" (timestampOf b.clocks r).2
  markMissing [("hostname", b.identity.hostname), ("os_name", b.identity.osName),
    ("architecture", b.identity.architecture), ("cpu_model", b.identity.cpuModel)]
    "sensor_unsupported" r

/-- The readers' reasons, as far as the profile takes them. -/
def reported (hostReasons gpuReasons : List (String × String)) : List (String × String) :=
  (hostReasons.filter fun p => p.1 ∉ HostField.all.map HostField.name) ++ gpuReasons

/-- The diagnostics of the profile, after those of the GPU profiles. -/
def finish (hostReasons gpuReasons : List (String × String)) (r : Dict String) : Dict String :=
  let r := (b.marked r).update (reported hostReasons gpuReasons)
  if b.gpus = [] then r.setdefault "gpu" "no_gpus" else r

end ProfileBoundary

/-- BaseAiCore accepts the profile, with the fingerprint it computes for it. -/
def BaseAiCore.Admits (core : BaseAiCore F) (b : ProfileBoundary) (fingerprint : F) : Prop :=
  core.fingerprint b.identity = .ok fingerprint ∧
    core.machineProfile (b.profile fingerprint) = .ok ()

/-- Nothing the boundary hands back makes `assemble` raise. -/
structure Assembles (core : BaseAiCore F) (b : ProfileBoundary) : Prop where
  numbers : ∀ f, Fits (b.facts.number f)
  gpus : ∀ o ∈ b.kept, o.Acceptable core
  admits : ∃ fingerprint, core.Admits b fingerprint
  hostReasons : b.hostReasons.Unpacks
  gpuReasons : b.gpuReasons.Unpacks

/-- The time read does not depend on the diagnostics. -/
theorem timestampOf_fst (c : Clocks) (r : Dict String) :
    (timestampOf c r).1 = (timestampOf c ∅).1 := by
  unfold timestampOf
  rw [read_eq, read_eq]
  dsimp only
  split <;> rfl

/-- What the loop hands on, with the diagnostics. -/
def LoopNoted (core : BaseAiCore F) (b : ProfileBoundary) (r : Dict String) : Prop :=
  normalizeProfileValues core 0 b.values [] b.readNotes =
    .ok (b.kept.map GpuProfileObject.normalized, r)

/-- A profile with these texts and numbers, read at any diagnostics. -/
theorem ProfileBoundary.profile_eq {b : ProfileBoundary} {p : MachineProfile F}
    {r : Dict String} (htext : ∀ f, p.text f = profileText (b.facts.text f))
    (hnumber : ∀ f, p.number f = numberOf (b.facts.number f)) (hgpus : p.gpus = b.gpus)
    (hstorage : p.storage = b.facts.storage.getD [])
    (htime : p.observedAt = (timestampOf b.clocks r).1) : p = b.profile p.machineFingerprint := by
  rw [timestampOf_fst] at htime
  obtain ⟨fingerprint, text, number, gpus, storage, observedAt⟩ := p
  obtain rfl : text = fun f => profileText (b.facts.text f) := funext htext
  obtain rfl : number = fun f => numberOf (b.facts.number f) := funext hnumber
  cases hgpus; cases hstorage; cases htime
  rfl

/-- **The profile and its diagnostics.** -/
theorem assemble_ok {b : ProfileBoundary} {p : MachineProfile F} {r : Dict String} :
    assemble core b = .ok (p, r) ↔
      (∀ f, Fits (b.facts.number f)) ∧
        (∃ fingerprint, core.Admits b fingerprint ∧ p = b.profile fingerprint) ∧
          ∃ r₁ hr gr, LoopNoted core b r₁ ∧ readerReasons b.hostReasons = .ok hr ∧
            readerReasons b.gpuReasons = .ok gr ∧
              r = Dict.ofItems (b.finish hr gr r₁).sortedItems := by
  simp only [assemble, normalizeGpuProfiles, read_eq, orMalformed_eq, bind_eq_ok, number_eq_ok]
  constructor
  · rintro ⟨⟨gpus, r₁⟩, ⟨⟨n, r₂⟩, hloop, hsort⟩, _, ⟨h1, rfl⟩, _, ⟨h2, rfl⟩, _, ⟨h3, rfl⟩,
      fingerprint, hfp, ⟨⟩, hcore, hr, hhr, gr, hgr, h⟩
    obtain ⟨-, rfl⟩ := normalizeProfileValues_ok.1 ⟨r₂, hloop⟩
    obtain ⟨rfl, rfl⟩ := Prod.mk.inj (pure_eq_ok.1 hsort)
    obtain ⟨hp, rfl⟩ := Prod.mk.inj (pure_eq_ok.1 h)
    have hprofile : p = b.profile fingerprint := by
      rw [← hp]
      refine ProfileBoundary.profile_eq (r := r₂) (fun f => ?_) (fun f => ?_) rfl rfl rfl
      · cases f <;> rfl
      · cases f <;> rfl
    rw [hp, hprofile] at hcore
    refine ⟨?_, ⟨fingerprint, ⟨hfp, hcore⟩, hprofile⟩, r₂, hr, gr, hloop, hhr, hgr, ?_⟩
    · intro f
      cases f <;> assumption
    · rw [ProfileBoundary.finish, ProfileBoundary.reported, Dict.update_append]
      rfl
  · rintro ⟨hfit, ⟨fingerprint, ⟨hfp, hcore⟩, rfl⟩, r₁, hr, gr, hloop, hhr, hgr, rfl⟩
    refine ⟨(b.gpus, r₁), ⟨_, hloop, rfl⟩, _, ⟨hfit .physicalCores, rfl⟩, _,
      ⟨hfit .logicalCores, rfl⟩, _, ⟨hfit .ramBytes, rfl⟩, fingerprint, hfp, (), ?_, hr, hhr, gr, hgr,
      ?_⟩
    · rw [← hcore]
      congr 1
      refine ProfileBoundary.profile_eq (r := r₁) (fun f => ?_) (fun f => ?_) rfl rfl rfl
      · cases f <;> rfl
      · cases f <;> rfl
    · refine pure_eq_ok.2 (Prod.ext ?_ ?_)
      · refine ProfileBoundary.profile_eq (r := r₁) (fun f => ?_) (fun f => ?_) rfl rfl rfl
        · cases f <;> rfl
        · cases f <;> rfl
      · rw [ProfileBoundary.finish, ProfileBoundary.reported, Dict.update_append]
        rfl

/-- When `assemble` returns. -/
theorem returns_assemble {b : ProfileBoundary} : Returns (assemble core b) ↔ Assembles core b := by
  have hloop : (∃ r, LoopNoted core b r) ↔ ∀ o ∈ b.kept, o.Acceptable core := by
    rw [← and_iff_left (a := ∀ o ∈ b.kept, o.Acceptable core) rfl]
    exact normalizeProfileValues_ok
  constructor
  · rintro ⟨⟨p, r⟩, h⟩
    obtain ⟨hfit, ⟨fingerprint, hadmits, -⟩, r₁, hr, gr, hnoted, hhr, hgr, -⟩ := assemble_ok.1 h
    exact ⟨hfit, hloop.1 ⟨r₁, hnoted⟩, ⟨fingerprint, hadmits⟩, returns_readerReasons.1 ⟨hr, hhr⟩,
      returns_readerReasons.1 ⟨gr, hgr⟩⟩
  · rintro ⟨hfit, hgpus, ⟨fingerprint, hadmits⟩, hhost, hgpu⟩
    obtain ⟨r₁, hnoted⟩ := hloop.2 hgpus
    obtain ⟨hr, hhr⟩ := returns_readerReasons.2 hhost
    obtain ⟨gr, hgr⟩ := returns_readerReasons.2 hgpu
    exact ⟨_, assemble_ok.2
      ⟨hfit, ⟨fingerprint, hadmits, rfl⟩, r₁, hr, gr, hnoted, hhr, hgr, rfl⟩⟩

end SweatMeter
