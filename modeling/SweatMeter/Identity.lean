/-
  The identity of a machine.

  The fingerprint of a profile is computed from its texts, numbers and GPU
  profiles alone, and these depend on the static facts of the identity and on
  the set of GPU profiles, not on their order or on anything else that is read.
-/
import SweatMeter.Profiling

namespace SweatMeter

open Py

/-- The arguments of the fingerprint, in a profile. -/
def MachineProfile.identity {F : Type} (p : MachineProfile F) : Identity where
  hostname := p.text .hostname
  osName := p.text .osName
  architecture := p.text .architecture
  cpuModel := p.text .cpuModel
  physicalCores := p.number .physicalCores
  logicalCores := p.number .logicalCores
  ramBytes := p.number .ramBytes
  gpus := p.gpus

theorem ProfileBoundary.identity_profile {F : Type} (b : ProfileBoundary) (fingerprint : F) :
    (b.profile fingerprint).identity = b.identity := rfl

/-! ## One run -/

section

variable {F : Type} {core : BaseAiCore F} {b : ProfileBoundary}

/-- The readers hand back these facts and GPU profiles, with numbers that fit, and
    reasons, if any, as pairs. -/
structure WellRead (b : ProfileBoundary) (facts : HostFacts)
    (values : List (Option GpuProfileObject)) : Prop where
  staticFacts : b.staticFacts = .ok (some facts)
  staticInfo : b.staticInfo = .ok values
  numbers : ∀ f, Fits (facts.number f)
  vram : ∀ o, some o ∈ values → Fits o.vramTotalBytes
  hostReasons : b.hostReasons.Unpacks
  gpuReasons : b.gpuReasons.Unpacks

/-- BaseAiCore computes the fingerprint, and accepts the normalized values. -/
structure BaseAiCore.AcceptsNormalized (core : BaseAiCore F) (b : ProfileBoundary) : Prop where
  gpuProfile : ∀ o, some o ∈ b.values → core.gpuProfile o.normalized = .ok ()
  fingerprint : Returns (core.fingerprint b.identity)
  machineProfile : ∀ fingerprint, core.machineProfile (b.profile fingerprint) = .ok ()

variable {facts : HostFacts} {values : List (Option GpuProfileObject)}

theorem WellRead.facts_eq (h : WellRead b facts values) : b.facts = facts := by
  rw [ProfileBoundary.facts, h.staticFacts]
  rfl

theorem WellRead.values_eq (h : WellRead b facts values) : b.values = values := by
  rw [ProfileBoundary.values, h.staticInfo]
  rfl

theorem WellRead.kept_eq (h : WellRead b facts values) : b.kept = keptObjects [] values := by
  rw [ProfileBoundary.kept, h.values_eq]

theorem mem_of_mem_keptObjects {seen : List ℤ} {o : GpuProfileObject}
    (h : o ∈ keptObjects seen values) : some o ∈ values :=
  List.reduceOption_mem_iff.1 (mem_of_mem_firsts h)

theorem WellRead.assembles (h : WellRead b facts values) (haccepts : core.AcceptsNormalized b) :
    Assembles core b where
  numbers := by rw [h.facts_eq]; exact h.numbers
  gpus o ho := by
    have hmem : some o ∈ b.values := mem_of_mem_keptObjects ho
    exact ⟨h.vram o (h.values_eq ▸ hmem), haccepts.gpuProfile o hmem⟩
  admits := by
    obtain ⟨fingerprint, hfp⟩ := haccepts.fingerprint
    exact ⟨fingerprint, hfp, haccepts.machineProfile fingerprint⟩
  hostReasons := h.hostReasons
  gpuReasons := h.gpuReasons

/-- `machine_profile` returns the profile of the readers' values. -/
theorem WellRead.profiled (h : WellRead b facts values) (haccepts : core.AcceptsNormalized b)
    (c : TelemetryCollector) : ∃ fingerprint, core.fingerprint b.identity = .ok fingerprint ∧
      (c.machineProfile core b).1 = .ok (b.profile fingerprint) := by
  obtain ⟨⟨p, r⟩, hok⟩ := returns_assemble.2 (h.assembles haccepts)
  obtain ⟨-, ⟨fingerprint, hadmits, rfl⟩, -⟩ := assemble_ok.1 hok
  refine ⟨fingerprint, hadmits.1, ?_⟩
  rw [TelemetryCollector.machineProfile, hok]

/-- The first GPU profile with this index. -/
def firstWithIndex (i : ℤ) (values : List (Option GpuProfileObject)) : Option GpuProfileObject :=
  values.reduceOption.find? fun o => o.index = i

theorem mem_keptObjects {o : GpuProfileObject} :
    o ∈ keptObjects [] values ↔ firstWithIndex o.index values = some o := by
  rw [keptObjects, mem_firsts, firstWithIndex]
  simp

theorem WellRead.mem_gpus (h : WellRead b facts values) {q : VendorGpuProfile} :
    q ∈ b.gpus ↔ ∃ o, firstWithIndex q.index values = some o ∧ q = o.normalized := by
  rw [ProfileBoundary.gpus, List.mem_insertionSort, h.kept_eq, List.mem_map]
  constructor
  · rintro ⟨o, ho, rfl⟩
    exact ⟨o, mem_keptObjects.1 ho, rfl⟩
  · rintro ⟨o, ho, rfl⟩
    exact ⟨o, mem_keptObjects.2 ho, rfl⟩

theorem pairwise_normalized {os : List GpuProfileObject}
    (h : os.Pairwise fun a b => a.index ≠ b.index) :
    (os.map GpuProfileObject.normalized).Pairwise fun p q => p.index ≠ q.index :=
  List.pairwise_map.2 h

theorem ProfileBoundary.pairwise_gpus (b : ProfileBoundary) :
    b.gpus.Pairwise fun p q => p.index < q.index :=
  pairwise_insertionSort_lt _ (pairwise_normalized (pairwise_firsts _ _))

end

/-! ## Two runs -/

/-- The facts of the identity are the same. -/
structure HostFacts.SameIdentity (facts facts' : HostFacts) : Prop where
  hostname : facts.text .hostname = facts'.text .hostname
  osName : facts.text .osName = facts'.text .osName
  architecture : facts.text .architecture = facts'.text .architecture
  cpuModel : facts.text .cpuModel = facts'.text .cpuModel
  numbers : ∀ f, facts.number f = facts'.number f

/-- The GPU profiles have distinct indices, and are the same in some order. -/
structure SameGpus (values values' : List (Option GpuProfileObject)) : Prop where
  perm : values.reduceOption.Perm values'.reduceOption
  distinct : values.reduceOption.Pairwise fun o p => o.index ≠ p.index

section

variable {b b' : ProfileBoundary} {facts facts' : HostFacts}
  {values values' : List (Option GpuProfileObject)}

theorem SameGpus.gpus_eq (h : WellRead b facts values) (h' : WellRead b' facts' values')
    (hgpus : SameGpus values values') : b.gpus = b'.gpus := by
  have hdistinct' : values'.reduceOption.Pairwise fun o p => o.index ≠ p.index :=
    (hgpus.perm.pairwise_iff fun h => h.symm).1 hgpus.distinct
  have hkept : b.kept = values.reduceOption := by
    rw [h.kept_eq, keptObjects, firsts_eq_self]
    exact ⟨by simp, hgpus.distinct⟩
  have hkept' : b'.kept = values'.reduceOption := by
    rw [h'.kept_eq, keptObjects, firsts_eq_self]
    exact ⟨by simp, hdistinct'⟩
  rw [ProfileBoundary.gpus, ProfileBoundary.gpus, hkept, hkept']
  exact insertionSort_eq_of_perm _ (hgpus.perm.map _) (pairwise_normalized hgpus.distinct)

theorem identity_eq (h : WellRead b facts values) (h' : WellRead b' facts' values')
    (hfacts : facts.SameIdentity facts') (hgpus : SameGpus values values') :
    b.identity = b'.identity := by
  simp only [ProfileBoundary.identity, h.facts_eq, h'.facts_eq, hfacts.hostname, hfacts.osName,
    hfacts.architecture, hfacts.cpuModel, hfacts.numbers, hgpus.gpus_eq h h']

/-- **Machine identity is stable.**  The profile holds the first GPU profile of
    each index, by index; and two runs with the same identity facts and the same
    GPU profiles, in whatever order and with whatever else, pass the same
    arguments to the fingerprint. -/
theorem machine_identity_stable {F : Type} {core : BaseAiCore F}
    (h : WellRead b facts values) (h' : WellRead b' facts' values')
    (haccepts : core.AcceptsNormalized b) (haccepts' : core.AcceptsNormalized b')
    (c c' : TelemetryCollector) :
    ∃ p p' : MachineProfile F,
      ((c.machineProfile core b).1 = .ok p ∧ (c'.machineProfile core b').1 = .ok p') ∧
      (core.fingerprint p.identity = .ok p.machineFingerprint ∧
        core.fingerprint p'.identity = .ok p'.machineFingerprint) ∧
      (p.gpus.Pairwise (fun q r => q.index < r.index) ∧
        ∀ q, q ∈ p.gpus ↔ ∃ o, firstWithIndex q.index values = some o ∧ q = o.normalized) ∧
      (facts.SameIdentity facts' → SameGpus values values' →
        p.identity = p'.identity ∧ p.machineFingerprint = p'.machineFingerprint ∧
          p.gpus = p'.gpus) := by
  obtain ⟨fingerprint, hfp, hp⟩ := h.profiled haccepts c
  obtain ⟨fingerprint', hfp', hp'⟩ := h'.profiled haccepts' c'
  refine ⟨_, _, ⟨hp, hp'⟩, ⟨hfp, hfp'⟩, ⟨b.pairwise_gpus, fun q => h.mem_gpus⟩, ?_⟩
  intro hfacts hgpus
  have hidentity := identity_eq h h' hfacts hgpus
  rw [hidentity, hfp'] at hfp
  exact ⟨hidentity, (Except.ok.inj hfp).symm, hgpus.gpus_eq h h'⟩

end

/-! ## Two cards in either order -/

/-- A fingerprint that lists its arguments. -/
def listing : BaseAiCore Identity where
  gpuProfile _ := .ok ()
  fingerprint identity := .ok identity
  machineProfile _ := .ok ()

theorem acceptsNormalized_listing (b : ProfileBoundary) : listing.AcceptsNormalized b :=
  ⟨fun _ _ => rfl, ⟨_, rfl⟩, fun _ => rfl⟩

/-- A card that reports its driver only. -/
def card (index : ℤ) : GpuProfileObject where
  index := index
  name := .str "GPU"
  uuid := .none
  vramTotalBytes := .unsupported
  driverVersion := .str "580"
  cudaVersion := .none
  computeCapability := .none
  vendor := some .nvidia

/-- The facts of a workstation with this version of its operating system. -/
def workstationFacts (osVersion : Obj) : HostFacts where
  text
    | .hostname => .str "workstation"
    | .osVersion => osVersion
    | _ => .none
  number _ := .unsupported
  storage := none

/-- A workstation with these GPU profiles. -/
def workstation (osVersion : Obj) (values : List (Option GpuProfileObject)) : ProfileBoundary where
  clocks := ⟨.ok (some fallbackInstant), .ok none, .ok none, .ok⟩
  staticFacts := .ok (some (workstationFacts osVersion))
  hostReasons := .absent
  staticInfo := .ok values
  gpuReasons := .absent

theorem wellRead_workstation {osVersion : Obj} {values : List (Option GpuProfileObject)}
    (hcards : ∀ o, some o ∈ values → ∃ i, o = card i) :
    WellRead (workstation osVersion values) (workstationFacts osVersion) values where
  staticFacts := rfl
  staticInfo := rfl
  numbers _ := trivial
  vram o ho := by
    obtain ⟨i, rfl⟩ := hcards o ho
    trivial
  hostReasons := by rintro _ ⟨⟩
  gpuReasons := by rintro _ ⟨⟩

/-- An update of the system and another order of the cards keep the identity. -/
theorem machine_identity_stable_update :
    ∃ p p' : MachineProfile Identity,
      ((TelemetryCollector.mk ∅).machineProfile listing
        (workstation (.str "1") [some (card 1), none, some (card 0)])).1 = .ok p ∧
      ((TelemetryCollector.mk ∅).machineProfile listing
        (workstation (.str "2") [some (card 0), some (card 1)])).1 = .ok p' ∧
      p.machineFingerprint = p'.machineFingerprint ∧ p.gpus = p'.gpus := by
  have hread : WellRead (workstation (.str "1") [some (card 1), none, some (card 0)])
      (workstationFacts (.str "1")) [some (card 1), none, some (card 0)] := by
    refine wellRead_workstation ?_
    intro o ho
    simp only [List.mem_cons, Option.some.injEq, reduceCtorEq, List.not_mem_nil, or_false,
      false_or] at ho
    rcases ho with rfl | rfl
    · exact ⟨1, rfl⟩
    · exact ⟨0, rfl⟩
  have hread' : WellRead (workstation (.str "2") [some (card 0), some (card 1)])
      (workstationFacts (.str "2")) [some (card 0), some (card 1)] := by
    refine wellRead_workstation ?_
    intro o ho
    simp only [List.mem_cons, Option.some.injEq, List.not_mem_nil, or_false] at ho
    rcases ho with rfl | rfl
    · exact ⟨0, rfl⟩
    · exact ⟨1, rfl⟩
  have hgpus : SameGpus [some (card 1), none, some (card 0)] [some (card 0), some (card 1)] := by
    refine ⟨List.Perm.swap _ _ _, ?_⟩
    show [card 1, card 0].Pairwise _
    simp [card]
  obtain ⟨p, p', ⟨hp, hp'⟩, -, -, hsame⟩ := machine_identity_stable hread hread'
    (acceptsNormalized_listing _) (acceptsNormalized_listing _) (TelemetryCollector.mk ∅)
    (TelemetryCollector.mk ∅)
  exact ⟨p, p', hp, hp', (hsame ⟨rfl, rfl, rfl, rfl, fun _ => rfl⟩ hgpus).2⟩

end SweatMeter
