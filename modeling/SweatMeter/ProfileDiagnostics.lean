/-
  The diagnostics of a machine profile.

  A field that is missing in a profile is noted under its name if `static_facts`
  raised, if it is part of the identity, or if a reader gives a reason for it.
  For the operating system's version, the kernel and the Python version no other
  layer does (`profile_diagnostics_iff`).
-/
import SweatMeter.Diagnostics
import SweatMeter.Profiling

namespace SweatMeter

open Py

variable {key : String}

/-! ## The keys each layer adds -/

/-- Reading the clock notes nothing, or the timestamp. -/
theorem timestampOf_notes (c : Clocks) :
    (∀ r, (timestampOf c r).2 = r) ∨
      ∀ r key, key ∈ (timestampOf c r).2 ↔ key ∈ r ∨ key = "timestamp" := by
  unfold timestampOf
  simp only [read_eq]
  generalize (readValue c.clock (some fallbackInstant)).bind _ = converted
  cases c.clock with
  | error e =>
    refine Or.inr ?_
    intro r key
    cases converted <;> simp [readNote, eq_comm, or_comm]
  | ok raw =>
    cases converted with
    | some t => exact Or.inl fun r => rfl
    | none =>
      refine Or.inr ?_
      intro r key
      rw [Dict.mem_set, or_comm, eq_comm]
      rfl

theorem timestampOf_keeps (c : Clocks) {r : Dict String} {key : String} (h : key ∈ r) :
    key ∈ (timestampOf c r).2 := by
  rcases timestampOf_notes c with hc | hc
  · rwa [hc]
  · exact (hc _ _).2 (Or.inl h)

theorem mem_markMissing {T : Type} {values : List (String × Option T)} {reason : String}
    {r : Dict String} :
    key ∈ markMissing values reason r ↔ key ∈ r ∨ (key, none) ∈ values := by
  unfold markMissing
  induction values generalizing r with
  | nil => simp
  | cons p values ih =>
    obtain ⟨name, value⟩ := p
    rw [List.foldl_cons, ih]
    cases value with
    | some x => simp
    | none =>
      simp only [Option.isNone_none, if_true, Dict.mem_setdefault, List.mem_cons, Prod.mk.injEq,
        and_true]
      rw [or_assoc, or_left_comm, eq_comm]

theorem markMissing_eq_self {T : Type} {values : List (String × Option T)} (reason : String)
    (h : ∀ p ∈ values, p.2 ≠ none) (r : Dict String) : markMissing values reason r = r := by
  unfold markMissing
  induction values with
  | nil => rfl
  | cons p values ih =>
    obtain ⟨hp, hvalues⟩ := List.forall_mem_cons.1 h
    rw [List.foldl_cons, if_neg (by simpa using hp)]
    exact ih hvalues

/-! ## The GPU profiles -/

/-- Every value is a `GpuProfile` with an index of its own. -/
def AllKept (seen : List ℤ) (values : List (Option GpuProfileObject)) : Prop :=
  none ∉ values ∧ keptObjects seen values = values.reduceOption

theorem allKept_cons {seen : List ℤ} {value : Option GpuProfileObject}
    {values : List (Option GpuProfileObject)} :
    AllKept seen (value :: values) ↔
      ∃ o, value = some o ∧ o.index ∉ seen ∧ AllKept (seen ++ [o.index]) values := by
  constructor
  · rintro ⟨hnone, hkept⟩
    obtain ⟨hvalue, hvalues⟩ := not_or.1 (List.mem_cons.not.1 hnone)
    obtain ⟨o, rfl⟩ := Option.ne_none_iff_exists'.1 (Ne.symm hvalue)
    rw [List.reduceOption_cons_of_some] at hkept
    have hmem : o ∈ keptObjects seen (some o :: values) := hkept ▸ List.mem_cons_self
    have hnew : o.index ∉ seen := (mem_firsts.1 hmem).1
    rw [keptObjects_kept hnew] at hkept
    exact ⟨o, rfl, hnew, hvalues, (List.cons.inj hkept).2⟩
  · rintro ⟨o, rfl, hnew, hnone, hkept⟩
    refine ⟨by simpa using hnone, ?_⟩
    rw [keptObjects_kept hnew, hkept, List.reduceOption_cons_of_some]

theorem isGpuKey_profile (k : ℕ) : IsGpuKey s!"gpu.profile.{k}" := by
  have hprofile : "gpu.profile." = "gpu." ++ "profile." := rfl
  show IsGpuKey ("gpu.profile." ++ toString k)
  rw [hprofile, String.append_assoc]
  exact isGpuKey_append _

theorem isGpuKey_profile_index (k : ℕ) : IsGpuKey s!"gpu.profile.{k}.index" := by
  have hprofile : "gpu.profile." = "gpu." ++ "profile." := rfl
  show IsGpuKey ("gpu.profile." ++ toString k ++ ".index")
  rw [hprofile, String.append_assoc, String.append_assoc]
  exact isGpuKey_append _

variable {F : Type} {core : BaseAiCore F}

/-- A turn keeps the value and notes nothing, or drops it and notes its position. -/
theorem normalizeProfileValue_notes {k : ℕ} {value : Option GpuProfileObject}
    {n n' : List VendorGpuProfile} {r r' : Dict String}
    (h : normalizeProfileValue core k value n r = .ok (n', r')) :
    (∃ o, value = some o ∧ o.index ∉ n.map (·.index) ∧ n' = n ++ [o.normalized] ∧ r' = r) ∨
      (∀ o, value = some o → o.index ∈ n.map (·.index)) ∧ n' = n ∧
        ∃ key reason, IsGpuKey key ∧ r' = r.set key reason := by
  cases value with
  | none =>
    obtain ⟨rfl, rfl⟩ := Prod.mk.inj (pure_eq_ok.1 h)
    exact Or.inr ⟨by rintro o ⟨⟩, rfl, _, _, isGpuKey_profile k, rfl⟩
  | some o =>
    simp only [normalizeProfileValue, any_index_eq] at h
    split_ifs at h with hseen
    · obtain ⟨rfl, rfl⟩ := Prod.mk.inj (pure_eq_ok.1 h)
      exact Or.inr ⟨by rintro o ⟨⟩; exact hseen, rfl, _, _, isGpuKey_profile_index k, rfl⟩
    · obtain ⟨p, hp, h⟩ := bind_eq_ok.1 h
      obtain ⟨rfl, rfl⟩ := Prod.mk.inj (pure_eq_ok.1 h)
      obtain ⟨-, rfl⟩ := normalizeGpuProfile_ok.1 hp
      exact Or.inl ⟨o, rfl, hseen, rfl, rfl⟩

/-- What the loop over the GPU profiles notes. -/
structure ProfileNotes (seen : List ℤ) (values : List (Option GpuProfileObject))
    (r r' : Dict String) : Prop where
  keeps : ∀ key, key ∈ r → key ∈ r'
  adds : ∀ key, key ∈ r' → key ∈ r ∨ IsGpuKey key
  clean : AllKept seen values → r' = r
  drops : ¬ AllKept seen values → ∃ key ∈ r', IsGpuKey key

theorem normalizeProfileValues_notes {k : ℕ} {values : List (Option GpuProfileObject)}
    {n n' : List VendorGpuProfile} {r r' : Dict String}
    (h : normalizeProfileValues core k values n r = .ok (n', r')) :
    ProfileNotes (n.map (·.index)) values r r' := by
  induction values generalizing k n r with
  | nil =>
    obtain ⟨rfl, rfl⟩ := Prod.mk.inj (pure_eq_ok.1 h)
    refine ⟨fun _ hk => hk, fun _ hk => Or.inl hk, fun _ => rfl, ?_⟩
    intro hdrop
    exact absurd ⟨List.not_mem_nil, rfl⟩ hdrop
  | cons value values ih =>
    obtain ⟨⟨n₁, r₁⟩, hturn, h⟩ := bind_eq_ok.1 h
    have hrest := ih h
    rcases normalizeProfileValue_notes hturn with ⟨o, rfl, hnew, rfl, rfl⟩ |
      ⟨hdrop, rfl, added, reason, hgpu, rfl⟩
    · have hiff : AllKept (n.map (·.index)) (some o :: values) ↔
          AllKept ((n ++ [o.normalized]).map (·.index)) values := by
        rw [allKept_cons, List.map_append]
        constructor
        · rintro ⟨p, hp, -, hall⟩
          cases hp
          exact hall
        · exact fun hall => ⟨o, rfl, hnew, hall⟩
      exact ⟨hrest.keeps, hrest.adds, fun hall => hrest.clean (hiff.1 hall),
        fun hall => hrest.drops (hiff.not.1 hall)⟩
    · have hadded : added ∈ r' := hrest.keeps added ((Dict.mem_set _ _ _).2 (Or.inl rfl))
      refine ⟨fun key hk => hrest.keeps key ((Dict.mem_set _ _ _).2 (Or.inr hk)), fun key hk => ?_,
        fun hall => ?_, fun _ => ⟨added, hadded, hgpu⟩⟩
      · rcases hrest.adds key hk with hk | hk
        · rcases (Dict.mem_set _ _ _).1 hk with rfl | hk
          · exact Or.inr hgpu
          · exact Or.inl hk
        · exact Or.inr hk
      · obtain ⟨o, ho, hnew, -⟩ := allKept_cons.1 hall
        exact absurd (hdrop o ho) hnew

/-! ## The names of the facts -/

/-- The texts of the identity. -/
def TextFact.identity : List TextFact := [hostname, osName, architecture, cpuModel]

theorem TextFact.name_inj {f g : TextFact} (h : f.name = g.name) : f = g := by
  revert h
  cases f <;> cases g <;> simp [TextFact.name]

theorem TextFact.name_ne_number (f : TextFact) (g : NumberFact) : f.name ≠ g.name := by
  cases f <;> cases g <;> simp [TextFact.name, NumberFact.name]

theorem TextFact.name_mem_factFields (f : TextFact) : f.name ∈ factFields := by
  cases f <;> decide

/-- Keys of the other layers. -/
theorem TextFact.name_ne_other (f : TextFact) :
    f.name ≠ "host_profile" ∧ f.name ≠ "timestamp" ∧ ¬ IsGpuKey f.name := by
  refine ⟨?_, ?_, ?_⟩
  · cases f <;> simp [TextFact.name]
  · cases f <;> simp [TextFact.name]
  · rintro (h | h) <;> cases f <;> exact absurd h (by decide)

/-! ## The whole profile -/

namespace ProfileBoundary

variable {b : ProfileBoundary}

theorem mem_readNotes : key ∈ b.readNotes ↔
    ((∃ e, b.staticFacts = .error e) ∧ key ∈ factFields) ∨
      (b.staticFacts = .ok none ∧ key = "host_profile") ∨
        ((∃ e, b.staticInfo = .error e) ∧ key = "gpu") := by
  have hmalformed : readValue b.staticFacts (some emptyFacts) = none ↔ b.staticFacts = .ok none := by
    cases b.staticFacts with
    | ok facts => simp [readValue]
    | error e => simp [readValue]
  simp only [readNotes, mem_readNote, mem_malformedNote, hmalformed, List.mem_singleton, or_assoc]
  simp

theorem readNotes_eq_empty {facts : HostFacts} (hfacts : b.staticFacts = .ok (some facts))
    (hinfo : Returns b.staticInfo) : b.readNotes = ∅ := by
  obtain ⟨values, hvalues⟩ := hinfo
  rw [readNotes, hfacts, hvalues]
  rfl

theorem mem_numbers :
    (key, none) ∈ [("physical_cores", b.identity.physicalCores),
      ("logical_cores", b.identity.logicalCores), ("ram_bytes", b.identity.ramBytes)] ↔
      ∃ f : NumberFact, f.name = key ∧ numberOf (b.facts.number f) = none := by
  simp only [List.mem_cons, List.not_mem_nil, or_false, Prod.mk.injEq]
  constructor
  · rintro (⟨h, hnone⟩ | ⟨h, hnone⟩ | ⟨h, hnone⟩)
    · exact ⟨.physicalCores, h.symm, hnone.symm⟩
    · exact ⟨.logicalCores, h.symm, hnone.symm⟩
    · exact ⟨.ramBytes, h.symm, hnone.symm⟩
  · rintro ⟨f, rfl, hnone⟩
    cases f with
    | physicalCores => exact Or.inl ⟨rfl, hnone.symm⟩
    | logicalCores => exact Or.inr (Or.inl ⟨rfl, hnone.symm⟩)
    | ramBytes => exact Or.inr (Or.inr ⟨rfl, hnone.symm⟩)

theorem mem_texts :
    (key, none) ∈ [("hostname", b.identity.hostname), ("os_name", b.identity.osName),
      ("architecture", b.identity.architecture), ("cpu_model", b.identity.cpuModel)] ↔
      ∃ f ∈ TextFact.identity, f.name = key ∧ profileText (b.facts.text f) = none := by
  simp only [TextFact.identity, List.mem_cons, List.not_mem_nil, or_false, Prod.mk.injEq,
    exists_eq_or_imp, exists_eq_left]
  refine or_congr ?_ (or_congr ?_ (or_congr ?_ ?_)) <;>
    exact and_congr eq_comm eq_comm

theorem mem_finish {hr gr : List (String × String)} {r : Dict String} :
    key ∈ b.finish hr gr r ↔ key ∈ (timestampOf b.clocks r).2 ∨
      (∃ f : NumberFact, f.name = key ∧ numberOf (b.facts.number f) = none) ∨
      (∃ f ∈ TextFact.identity, f.name = key ∧ profileText (b.facts.text f) = none) ∨
      (∃ p ∈ reported hr gr, p.1 = key) ∨ (b.gpus = [] ∧ "gpu" = key) := by
  unfold finish marked
  by_cases hg : b.gpus = []
  · simp only [hg, if_true, Dict.mem_setdefault, Dict.mem_update, mem_markMissing, mem_numbers,
      mem_texts, true_and]
    rw [or_comm]
    simp only [or_assoc]
  · simp only [hg, if_false, Dict.mem_update, mem_markMissing, mem_numbers, mem_texts, false_and,
      or_false, or_assoc]

/-- A reader gives a reason under this key. -/
def Reported (b : ProfileBoundary) (key : String) : Prop :=
  ∃ hr gr, readerReasons b.hostReasons = .ok hr ∧ readerReasons b.gpuReasons = .ok gr ∧
    ∃ p ∈ reported hr gr, p.1 = key

/-- Each missing text that is not of the identity is noted by a failure of
    `static_facts` or by a reader. -/
def ProvenanceExplained (b : ProfileBoundary) : Prop :=
  ∀ f ∉ TextFact.identity, profileText (b.facts.text f) = none →
    (∃ e, b.staticFacts = .error e) ∨ b.Reported f.name

/-- Nothing but the readers gives a reason. -/
structure Silent (b : ProfileBoundary) : Prop where
  facts : ∃ facts, b.staticFacts = .ok (some facts)
  staticInfo : Returns b.staticInfo
  kept : AllKept [] b.values
  gpus : b.values ≠ []
  clock : (timestampOf b.clocks ∅).2 = ∅
  numbers : ∀ f, numberOf (b.facts.number f) ≠ none
  texts : ∀ f ∈ TextFact.identity, profileText (b.facts.text f) ≠ none

/-- The readers' reasons are all there is, and read as a wholly failed collection. -/
def ReportsFailure (b : ProfileBoundary) : Prop :=
  b.Silent ∧ ∃ hr gr, readerReasons b.hostReasons = .ok hr ∧ readerReasons b.gpuReasons = .ok gr ∧
    Dict.ofItems (reported hr gr) = collectorError

/-- The readers' reasons are what they are read as. -/
theorem exists_reasons_iff {hr gr : List (String × String)}
    {P : List (String × String) → List (String × String) → Prop}
    (hhr : readerReasons b.hostReasons = .ok hr) (hgr : readerReasons b.gpuReasons = .ok gr) :
    (∃ hr' gr', readerReasons b.hostReasons = .ok hr' ∧ readerReasons b.gpuReasons = .ok gr' ∧
      P hr' gr') ↔ P hr gr := by
  constructor
  · rintro ⟨hr', gr', hhr', hgr', hP⟩
    rw [hhr] at hhr'
    rw [hgr] at hgr'
    cases hhr'; cases hgr'
    exact hP
  · intro hP
    exact ⟨hr, gr, hhr, hgr, hP⟩

theorem Silent.gpus_ne_nil (h : b.Silent) : b.gpus ≠ [] := by
  obtain ⟨value, values, hvalues⟩ := List.exists_cons_of_ne_nil h.gpus
  have hkept := h.kept
  rw [hvalues, allKept_cons] at hkept
  obtain ⟨o, rfl, hnew, -⟩ := hkept
  have hmem : o.normalized ∈ b.gpus := by
    rw [ProfileBoundary.gpus, List.mem_insertionSort, ProfileBoundary.kept, hvalues,
      keptObjects_kept hnew]
    exact List.mem_cons_self
  exact List.ne_nil_of_mem hmem

theorem Silent.finish_eq (h : b.Silent) {r : Dict String}
    (hnotes : ProfileNotes [] b.values b.readNotes r) (hr gr : List (String × String)) :
    b.finish hr gr r = Dict.ofItems (reported hr gr) := by
  obtain ⟨facts, hfacts⟩ := h.facts
  obtain rfl : r = ∅ := (hnotes.clean h.kept).trans (readNotes_eq_empty hfacts h.staticInfo)
  have hmarked : b.marked ∅ = ∅ := by
    unfold marked
    rw [h.clock, markMissing_eq_self, markMissing_eq_self]
    · rintro ⟨name, value⟩ hmem rfl
      obtain ⟨f, -, hnone⟩ := mem_numbers.1 hmem
      exact h.numbers f hnone
    · rintro ⟨name, value⟩ hmem rfl
      obtain ⟨f, hf, -, hnone⟩ := mem_texts.1 hmem
      exact h.texts f hf hnone
  rw [finish, hmarked]
  exact if_neg h.gpus_ne_nil

end ProfileBoundary

/-- Every missing text and number is noted under its name. -/
def MachineProfile.Explained (p : MachineProfile F) (reasons : Dict String) : Prop :=
  (∀ f, p.text f = none → f.name ∈ reasons) ∧ ∀ f, p.number f = none → f.name ∈ reasons

section

variable {b : ProfileBoundary} {p : MachineProfile F} {r : Dict String}

/-- An assembled profile's diagnostics. -/
theorem assemble_notes (h : assemble core b = .ok (p, r)) :
    ∃ fingerprint r₁ hr gr, p = b.profile fingerprint ∧ ProfileNotes [] b.values b.readNotes r₁ ∧
      readerReasons b.hostReasons = .ok hr ∧ readerReasons b.gpuReasons = .ok gr ∧
        r = b.finish hr gr r₁ := by
  obtain ⟨-, ⟨fingerprint, -, hp⟩, r₁, hr, gr, hloop, hhr, hgr, hreasons⟩ := assemble_ok.1 h
  rw [Dict.ofItems_sortedItems] at hreasons
  exact ⟨fingerprint, r₁, hr, gr, hp, normalizeProfileValues_notes hloop, hhr, hgr, hreasons⟩

theorem explained_iff (h : assemble core b = .ok (p, r)) :
    p.Explained r ↔ b.ProvenanceExplained := by
  obtain ⟨fingerprint, r₁, hr, gr, rfl, hnotes, hhr, hgr, rfl⟩ := assemble_notes h
  have hreported (key : String) :
      b.Reported key ↔ ∃ q ∈ ProfileBoundary.reported hr gr, q.1 = key :=
    ProfileBoundary.exists_reasons_iff hhr hgr
  constructor
  · rintro ⟨htexts, -⟩ f hf hmissing
    obtain ⟨hhost, htime, hgpu⟩ := f.name_ne_other
    have hnotgpu : f.name ≠ "gpu" := fun h => hgpu (Or.inl h)
    rcases ProfileBoundary.mem_finish.1 (htexts f hmissing) with hk | ⟨g, hg, -⟩ | ⟨g, hg, hname, -⟩ |
      hk | ⟨-, hk⟩
    · have hk : f.name ∈ r₁ := by
        rcases timestampOf_notes b.clocks with hclock | hclock
        · rwa [hclock] at hk
        · exact ((hclock _ _).1 hk).resolve_right htime
      have hk := (hnotes.adds _ hk).resolve_right hgpu
      rcases ProfileBoundary.mem_readNotes.1 hk with ⟨he, -⟩ | ⟨-, hk⟩ | ⟨-, hk⟩
      · exact Or.inl he
      · exact absurd hk hhost
      · exact absurd hk hnotgpu
    · exact absurd hg.symm (f.name_ne_number g)
    · exact absurd (TextFact.name_inj hname ▸ hg) hf
    · exact Or.inr ((hreported _).2 hk)
    · exact absurd hk.symm hnotgpu
  · intro hprov
    refine ⟨?_, ?_⟩
    · intro f hf
      refine ProfileBoundary.mem_finish.2 ?_
      by_cases hid : f ∈ TextFact.identity
      · exact Or.inr (Or.inr (Or.inl ⟨f, hid, rfl, hf⟩))
      · rcases hprov f hid hf with he | hk
        · have hk : f.name ∈ r₁ := hnotes.keeps _
            (ProfileBoundary.mem_readNotes.2 (Or.inl ⟨he, f.name_mem_factFields⟩))
          exact Or.inl (timestampOf_keeps b.clocks hk)
        · exact Or.inr (Or.inr (Or.inr (Or.inl ((hreported _).1 hk))))
    · intro f hf
      exact ProfileBoundary.mem_finish.2 (Or.inr (Or.inl ⟨f, rfl, hf⟩))

theorem mem_collectorError : key ∈ collectorError ↔ key = "machine_profile" := by
  rw [collectorError, Dict.ofItems, Dict.mem_update]
  simp [eq_comm]

theorem not_isGpuKey_machineProfile : ¬ IsGpuKey "machine_profile" := by
  rintro (h | h) <;> simp at h

namespace ProfileBoundary

variable {hr gr : List (String × String)}

/-- Nothing is noted under another key than that of a failed collection. -/
def OnlyFailure (reasons : Dict String) : Prop := ∀ key ∈ reasons, key = "machine_profile"

/-- Then the identity facts were read, and the GPU profiles. -/
theorem OnlyFailure.read (h : OnlyFailure b.readNotes) :
    (∃ facts, b.staticFacts = .ok (some facts)) ∧ Returns b.staticInfo := by
  constructor
  · cases hstatic : b.staticFacts with
    | error e =>
      have := h "hostname" (mem_readNotes.2
        (Or.inl ⟨⟨e, hstatic⟩, TextFact.name_mem_factFields .hostname⟩))
      simp at this
    | ok value =>
      cases value with
      | some facts => exact ⟨facts, rfl⟩
      | none =>
        have := h "host_profile" (mem_readNotes.2 (Or.inr (Or.inl ⟨hstatic, rfl⟩)))
        simp at this
  · cases hinfo : b.staticInfo with
    | ok values => exact returns_ok values
    | error e =>
      have := h "gpu" (mem_readNotes.2 (Or.inr (Or.inr ⟨⟨e, hinfo⟩, rfl⟩)))
      simp at this

/-- And nothing else was noted, but by the readers. -/
theorem OnlyFailure.silent {r : Dict String} (hnotes : ProfileNotes [] b.values b.readNotes r)
    (h : OnlyFailure (b.finish hr gr r)) : b.Silent := by
  have hclock : OnlyFailure (timestampOf b.clocks r).2 :=
    fun key hk => h key (mem_finish.2 (Or.inl hk))
  have hrows : OnlyFailure r := fun key hk => hclock key (timestampOf_keeps b.clocks hk)
  have hread : OnlyFailure b.readNotes := fun key hk => hrows key (hnotes.keeps key hk)
  refine ⟨hread.read.1, hread.read.2, ?_, ?_, ?_, ?_, ?_⟩
  · by_contra hdrop
    obtain ⟨key, hk, hgpu⟩ := hnotes.drops hdrop
    exact not_isGpuKey_machineProfile (hrows key hk ▸ hgpu)
  · intro hvalues
    have hgpus : b.gpus = [] := by
      rw [ProfileBoundary.gpus, ProfileBoundary.kept, hvalues]
      rfl
    have := h "gpu" (mem_finish.2 (Or.inr (Or.inr (Or.inr (Or.inr ⟨hgpus, rfl⟩)))))
    simp at this
  · rcases timestampOf_notes b.clocks with hc | hc
    · exact hc ∅
    · have := hclock "timestamp" ((hc _ _).2 (Or.inr rfl))
      simp at this
  · intro f hf
    have := h f.name (mem_finish.2 (Or.inr (Or.inl ⟨f, rfl, hf⟩)))
    cases f <;> simp [NumberFact.name] at this
  · intro f hid hf
    have := h f.name (mem_finish.2 (Or.inr (Or.inr (Or.inl ⟨f, hid, rfl, hf⟩))))
    cases f <;> simp [TextFact.name] at this

end ProfileBoundary

/-- The diagnostics of an assembled profile read as a failure only if the readers say so. -/
theorem collectorError_iff (h : assemble core b = .ok (p, r)) :
    r = collectorError ↔ b.ReportsFailure := by
  obtain ⟨fingerprint, r₁, hr, gr, -, hnotes, hhr, hgr, rfl⟩ := assemble_notes h
  rw [ProfileBoundary.ReportsFailure, ProfileBoundary.exists_reasons_iff hhr hgr]
  constructor
  · intro herror
    have honly : ProfileBoundary.OnlyFailure (b.finish hr gr r₁) := by
      intro key hk
      rwa [herror, mem_collectorError] at hk
    have hsilent := honly.silent hnotes
    exact ⟨hsilent, (hsilent.finish_eq hnotes hr gr) ▸ herror⟩
  · rintro ⟨hsilent, hreasons⟩
    rw [hsilent.finish_eq hnotes, hreasons]

end

/-- **The diagnostics of a machine profile are complete** exactly if the assembly
    fails, or every missing text that is not of the identity is noted by a failure
    of `static_facts` or by a reader, or the readers' reasons read as a failure. -/
theorem profile_diagnostics_iff (core : BaseAiCore F) (c : TelemetryCollector)
    (b : ProfileBoundary) :
    ((c.machineProfile core b).2.unavailableReasons = collectorError ∨
      ∀ p, (c.machineProfile core b).1 = .ok p →
        p.Explained (c.machineProfile core b).2.unavailableReasons) ↔
      ¬ Assembles core b ∨ b.ProvenanceExplained ∨ b.ReportsFailure := by
  rw [← returns_assemble]
  unfold TelemetryCollector.machineProfile
  cases hok : assemble core b with
  | error e => exact iff_of_true (Or.inl rfl) (Or.inl (not_returns_error e))
  | ok pr =>
    obtain ⟨p, r⟩ := pr
    have hprofile : (∀ q, (.ok p : Except Exn (MachineProfile F)) = .ok q → q.Explained r) ↔
        b.ProvenanceExplained := by
      rw [← explained_iff hok]
      exact ⟨fun h => h p rfl, fun h q hq => by cases hq; exact h⟩
    simp only [returns_ok, not_true_eq_false, false_or]
    rw [or_comm]
    exact or_congr hprofile (collectorError_iff hok)

/-! ## A host that reports nothing -/

/-- BaseAiCore, as far as it accepts everything. -/
def accepting : BaseAiCore Unit := ⟨fun _ => .ok (), fun _ => .ok (), fun _ => .ok ()⟩

/-- `static_facts` returns `HostFacts()`, and there is no GPU. -/
def silentHost : ProfileBoundary where
  clocks := ⟨.ok (some fallbackInstant), .ok none, .ok none, .ok⟩
  staticFacts := .ok (some emptyFacts)
  hostReasons := .absent
  staticInfo := .ok []
  gpuReasons := .absent

theorem assembles_silentHost : Assembles accepting silentHost where
  numbers _ := trivial
  gpus o ho := by cases ho
  admits := ⟨(), rfl, rfl⟩
  hostReasons := by rintro _ ⟨⟩
  gpuReasons := by rintro _ ⟨⟩

/-- Its kernel is missing in the profile and in the diagnostics. -/
theorem profile_kernel_unexplained :
    ¬ (((TelemetryCollector.mk ∅).machineProfile accepting silentHost).2.unavailableReasons =
        collectorError ∨
      ∀ p, ((TelemetryCollector.mk ∅).machineProfile accepting silentHost).1 = .ok p →
        p.Explained
          ((TelemetryCollector.mk ∅).machineProfile accepting silentHost).2.unavailableReasons) := by
  obtain ⟨⟨p, r⟩, hok⟩ := returns_assemble.2 assembles_silentHost
  have hrun : (TelemetryCollector.mk ∅).machineProfile accepting silentHost = (.ok p, ⟨r⟩) := by
    rw [TelemetryCollector.machineProfile, hok]
  rw [hrun]
  rintro (herror | hall)
  · obtain ⟨hsilent, -⟩ := (collectorError_iff hok).1 herror
    exact hsilent.texts .hostname List.mem_cons_self rfl
  · have hkernel := (explained_iff hok).1 (hall p rfl) .kernel (by decide) rfl
    rcases hkernel with ⟨e, he⟩ | ⟨hr, gr, hhr, hgr, q, hq, -⟩
    · cases he
    · cases hhr; cases hgr
      cases hq

end SweatMeter
