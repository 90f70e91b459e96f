/-
  What the collector tells of a GPU reader that is honest about what it misses.

  A reader `Tells` its samples in order, in normal form, and under keys of its own
  what they miss.  The collector adds nothing to that and takes nothing away
  (`relays_of_collect`), and over a session the snapshots show what successive
  operations of the reader told, in their order and none of them twice
  (`relayed_session`).
-/
import SweatMeter.GpuRows
import SweatMeter.Outlives
import SweatMeter.Platform
import SweatMeter.Replay

namespace SweatMeter

open Py Py.Stateful

/-- A sample that normalizing leaves as it is. -/
structure GpuSample.Normal (s : GpuSample Number) : Prop where
  nonneg : 0 ≤ s.index
  printable : Printable s.index
  range : ∀ f x, s.measurement f = some x →
    ∃ q, x.toRat = some q ∧ f.minimum ≤ q ∧ ∀ b ∈ f.maximum, q ≤ b
  fits : ∀ f, Fits (measured (s.measurement f))
  uuid : s.uuid ≠ some ""
  throttleReasons : "" ∉ s.throttleReasons

theorem GpuSample.Normal.rowOf {s : GpuSample Number} (h : s.Normal) : RowOf s.index s.row s where
  index := rfl
  measurement f := Script.number_measured (h.range f) (h.fits f)
  printable _ _ := h.printable
  uuid := by
    show Except.ok (nonEmptyText (textOrNone s.uuid)) = _
    refine congrArg Except.ok ?_
    cases ht : s.uuid with
    | none => rfl
    | some text => exact if_pos fun heq => h.uuid (ht.trans (congrArg some heq))
  throttleReasons := by
    show Except.ok ((s.throttleReasons.map Obj.str).filterMap nonEmptyText) = _
    refine congrArg Except.ok ?_
    rw [List.filterMap_map]
    refine (List.filterMap_congr fun reason hreason => ?_).trans List.filterMap_some
    have hne : reason ≠ "" := by
      rintro rfl
      exact h.throttleReasons hreason
    exact if_pos hne
  available := by
    show Except.ok (decide (Obj.bool s.throttleReasonsAvailable = .bool true)) = _
    simp

/-- What an operation `sample` has told: its result, and the diagnostics after it. -/
structure Telling where
  out : Except Exn (List (GpuSample Number))
  reasons : Dict String

/-- The samples are in normal form and in order, and what they miss has a reason. -/
structure Telling.Honest (told : Telling) : Prop where
  entries : ∀ key reason, told.reasons[key]? = some reason → IsGpuKey key ∧ reason ≠ ""
  normal : ∀ s ∈ samplesOf told.out, s.Normal
  increasing : (samplesOf told.out).Pairwise fun s t => s.index < t.index
  missing : ∀ s ∈ samplesOf told.out, ∀ f, s.measurement f = none →
    gpuKey s.index f ∈ told.reasons
  empty : told.out = .ok [] → "gpu" ∈ told.reasons

theorem Telling.Honest.rows {told : Telling} (h : told.Honest) :
    ∀ s ∈ samplesOf told.out, RowOf s.index s.row s ∧ 0 ≤ s.index :=
  fun s hs => ⟨(h.normal s hs).rowOf, (h.normal s hs).nonneg⟩

/-- As the collector meets it. -/
def Telling.reader (told : Telling) : GpuReader where
  sample := told.out.map (List.map fun s => some s.row)
  unavailableReasons :=
    .mapping (.ok (told.reasons.sortedItems.map fun p => some (.str p.1, .str p.2)))

/-- What the collector notes of an operation that raises. -/
def Telling.fault (told : Telling) (key : String) : Option String :=
  match told.out with
  | .ok _ => none
  | .error _ => if key = "gpu" then some "reader_error" else none

/-- The snapshot shows what was told, and nothing else about GPUs. -/
structure TelemetrySnapshot.Relays (x : TelemetrySnapshot Number) (told : Telling) : Prop where
  gpus : x.gpus = samplesOf told.out
  reasons : ∀ key, IsGpuKey key →
    x.unavailableReasons[key]? = told.reasons[key]?.or (told.fault key)

/-! ## Notes of the loop -/

section

variable {key : String} {p : ℕ} {vs : List (Option GpuRow)} {n n' : List (GpuSample Number)}
  {r r' : Dict String}

/-- Off the keys of the positions, the loop notes what its rows miss. -/
theorem normalizeGpuValues_missing (h : normalizeGpuValues p vs n r = .ok (n', r'))
    (hposition : ∀ q, key ∉ positionKeys q)
    (hmissing : ∀ s ∈ n', ∀ f, s.measurement f = none → gpuKey s.index f ≠ key) :
    r'[key]? = r[key]? := by
  induction vs generalizing p n r with
  | nil =>
    cases pure_eq_ok.1 h
    rfl
  | cons v vs ih =>
    obtain ⟨⟨n₁, r₁⟩, hturn, hrest⟩ := bind_eq_ok.1 h
    have hnotes := normalizeGpuValues_notes hrest
    rw [ih hrest]
    have hturned : Outlives key r r₁ := by
      refine outlives_turn ?_ hturn
      rintro a ha rfl
      exact hposition p ha
    refine hturned.getElem?_eq fun hmem => ?_
    cases normalizeGpuValue_noted hturn with
    | @dropped a _ ha =>
      rcases (Dict.mem_set _ _ _).1 hmem with rfl | hmem
      · exact absurd ha (hposition p)
      · exact hmem
    | @kept row i s _ _ _ _ hrow hkeys =>
      rcases (hkeys key).1 hmem with hmem | ⟨f, hf, heq⟩
      · exact hmem
      · have hs : s ∈ n' := hnotes.grows s (List.mem_append_right _ List.mem_cons_self)
        exact absurd (hrow.index ▸ heq) (hmissing s hs f hf)

end

/-! ## One snapshot -/

section

variable {key : String} {b : Boundary} {told : Telling} {x : TelemetrySnapshot Number}

theorem isGpuKey_ne_name (h : IsGpuKey key) (f : HostField) : f.name ≠ key := by
  rintro rfl
  exact not_isGpuKey_name f h

theorem not_mem_of_isGpuKey (h : IsGpuKey key) {fields : List String}
    (hfields : fields ⊆ HostField.all.map HostField.name) : key ∉ fields := by
  intro hmem
  obtain ⟨f, -, hf⟩ := List.mem_map.1 (hfields hmem)
  exact isGpuKey_ne_name h f hf

/-- Before the rows, a GPU has a reason if `sample` has failed. -/
theorem getElem?_boundaryNotes_gpu (h : IsGpuKey key) (hgpu : b.gpu = told.reader) :
    (boundaryNotes b)[key]? = told.fault key := by
  have hcpu : ["cpu_percent"] ⊆ HostField.all.map HostField.name := by decide
  have hload : ["load_average_1m"] ⊆ HostField.all.map HostField.name := by decide
  have hmemory : memoryFields ⊆ HostField.all.map HostField.name := by decide
  have htemperature : ["cpu_temperature_c"] ⊆ HostField.all.map HostField.name := by decide
  have hdisk : diskFields ⊆ HostField.all.map HostField.name := by decide
  have hrss : ["process_rss_bytes"] ⊆ HostField.all.map HostField.name := by decide
  obtain ⟨r, hnotes, hr⟩ : ∃ r, boundaryNotes b = readNote b.gpu.sample ["gpu"] r ∧ key ∉ r := by
    refine ⟨_, rfl, ?_⟩
    simp only [mem_readNote, mem_malformedNote, not_mem_of_isGpuKey h hcpu,
      not_mem_of_isGpuKey h hload, not_mem_of_isGpuKey h hmemory, not_mem_of_isGpuKey h htemperature,
      not_mem_of_isGpuKey h hdisk, not_mem_of_isGpuKey h hrss, and_false, or_false]
    intro hmem
    rcases mem_timestampOf hmem with hmem | rfl
    · simp at hmem
    · rcases h with h | h <;> exact absurd h (by decide)
  have hnone : r[key]? = none := Std.ExtTreeMap.getElem?_eq_none hr
  rw [hnotes, getElem?_readNote, hgpu, Telling.reader, Telling.fault, hnone]
  cases told.out with
  | ok xs => rfl
  | error e => simp [Except.map]

theorem readerReasons_told (htold : told.Honest) :
    readerReasons told.reader.unavailableReasons = .ok told.reasons.sortedItems := by
  refine readerReasons_items fun p hp => ?_
  obtain ⟨hkey, hreason⟩ :=
    htold.entries _ _ (Std.ExtTreeMap.mem_toList_iff_getElem?_eq_some.1 hp)
  refine ⟨?_, hreason⟩
  intro hempty
  rw [hempty] at hkey
  rcases hkey with hkey | hkey <;> exact absurd hkey (by decide)

/-- The layers over the notes of the loop. -/
theorem getElem?_finishNotes (h : IsGpuKey key) (htold : told.Honest)
    (live : HostField → Measurement Number) (hr : List (String × String)) {r : Dict String}
    (hnotes : told.reasons[key]? = none → r[key]? = told.fault key) :
    (finishNotes live (samplesOf told.out) hr told.reasons.sortedItems r)[key]? =
      told.reasons[key]?.or (told.fault key) := by
  have hmarked : (markUnsupported live "sensor_unsupported" r)[key]? = r[key]? := by
    refine (outlives_markUnsupported live _ r).getElem?_eq fun hmem => ?_
    rcases mem_markUnsupported.1 hmem with hmem | ⟨f, -, hf⟩
    · exact hmem
    · exact absurd hf (isGpuKey_ne_name h f)
  have hhost (d : Dict String) :
      (d.update (hr.filter fun p => p.1 ∈ HostField.all.map HostField.name))[key]? = d[key]? := by
    refine Dict.getElem?_update_of_ne d ?_
    rintro p hp rfl
    exact not_mem_of_isGpuKey h (List.Subset.refl _) (of_decide_eq_true (List.mem_filter.1 hp).2)
  have hvalue : (((markUnsupported live "sensor_unsupported" r).update
      (hr.filter fun p => p.1 ∈ HostField.all.map HostField.name)).update
        told.reasons.sortedItems)[key]? = told.reasons[key]?.or (told.fault key) := by
    rw [Dict.getElem?_update_sortedItems, hhost, hmarked]
    cases hreason : told.reasons[key]? with
    | some reason => rfl
    | none => exact hnotes hreason
  rw [finishNotes]
  split_ifs with hgpus
  · by_cases hgpu : "gpu" = key
    · subst hgpu
      obtain ⟨reason, hreason⟩ : ∃ reason, told.reasons["gpu"]?.or (told.fault "gpu") =
          some reason := by
        cases hout : told.out with
        | ok xs =>
          rw [hout] at hgpus
          obtain rfl : xs = [] := hgpus
          have hmem := htold.empty hout
          rw [Std.ExtTreeMap.mem_iff_isSome_getElem?, Option.isSome_iff_exists] at hmem
          obtain ⟨reason, hreason⟩ := hmem
          exact ⟨reason, by rw [hreason]; rfl⟩
        | error e =>
          have hfault : told.fault "gpu" = some "reader_error" := by
            rw [Telling.fault, hout]
            rfl
          rw [hfault]
          cases told.reasons["gpu"]? <;> exact ⟨_, rfl⟩
      rw [hreason] at hvalue ⊢
      exact Dict.getElem?_setdefault_of_some _ _ _ hvalue
    · rw [Dict.getElem?_setdefault_of_ne _ _ hgpu, hvalue]
  · exact hvalue

/-- **The collector relays what an honest reader tells.** -/
theorem relays_of_collect (htold : told.Honest) (hgpu : b.gpu = told.reader)
    (h : collect b = .ok x) : x.Relays told := by
  obtain ⟨hcollected, n, r, hr, gr, hloop, hmem, -, hgr, hreasons⟩ := collect_spec h
  rw [hgpu, readerReasons_told htold] at hgr
  cases hgr
  have hrows : b.gpu.rows = (samplesOf told.out).map fun s => some s.row := by
    rw [hgpu, GpuReader.rows, Telling.reader]
    cases told.out <;> rfl
  obtain ⟨r', hsamples, hpositions⟩ :=
    normalizeGpuSamples_rows htold.rows htold.increasing (boundaryNotes b)
  have hgpus : x.gpus = samplesOf told.out := by
    obtain ⟨q, hq⟩ := (normalizeGpuSamples_ok (r := boundaryNotes b)).2 hcollected.gpus
    rw [hrows, hsamples] at hq
    exact (Prod.mk.inj (Except.ok.inj hq)).1.symm
  refine ⟨hgpus, fun key hkey => ?_⟩
  rw [TelemetrySnapshot.unavailableReasons, hreasons, Dict.ofItems_sortedItems, hgpus]
  refine getElem?_finishNotes hkey htold x.host hr fun hnone => ?_
  rw [← getElem?_boundaryNotes_gpu hkey hgpu]
  by_cases hposition : ∃ q, key ∈ positionKeys q
  · obtain ⟨q, hq⟩ := hposition
    rw [normalizeGpuSamples, ← hrows, hloop] at hsamples
    obtain ⟨-, rfl⟩ := Prod.mk.inj (Except.ok.inj hsamples)
    exact hpositions q key hq
  · refine normalizeGpuValues_missing hloop (fun q hq => hposition ⟨q, hq⟩) ?_
    rintro s hs f hf rfl
    have hs' : s ∈ samplesOf told.out := hgpus ▸ (hmem s).2 hs
    have hreason := htold.missing s hs' f hf
    rw [Std.ExtTreeMap.mem_iff_isSome_getElem?, hnone] at hreason
    cases hreason

/-- A reader that tells honestly makes no snapshot fail, and its reasons are about GPUs. -/
theorem Telling.Honest.rowsNormalizable (htold : told.Honest) :
    RowsNormalizable told.reader.rows := by
  have hrows : told.reader.rows = (samplesOf told.out).map fun s => some s.row := by
    rw [GpuReader.rows, Telling.reader]
    cases told.out <;> rfl
  obtain ⟨r', hsamples, -⟩ := normalizeGpuSamples_rows htold.rows htold.increasing ∅
  rw [hrows]
  obtain ⟨n, hn, -⟩ := normalizeGpuSamples_ok.1 ⟨r', hsamples⟩
  exact exists_loop.1 ⟨n, hn⟩

end

/-! ## Readers -/

/-- The operations of a class of GPU readers, on the reader and on what the call meets. -/
structure GpuReaderClass (ρ γ : Type) where
  sample : ρ → γ → Except Exn (List (GpuSample Number)) × ρ
  staticInfo : ρ → γ → Except Exn (List GpuProfile) × ρ
  reasons : ρ → Dict String

/-- A `GpuProfile` as an object. -/
def GpuProfile.object (p : GpuProfile) : GpuProfileObject where
  index := p.index
  name := textOrNone p.name
  uuid := textOrNone p.uuid
  vramTotalBytes := measured p.vramTotalBytes
  driverVersion := textOrNone p.driverVersion
  cudaVersion := textOrNone p.cudaVersion
  computeCapability := textOrNone p.computeCapability
  vendor := some .nvidia

/-- An operation of a GPU reader. -/
inductive GpuOperation where
  | sample
  | staticInfo
  deriving DecidableEq

namespace GpuReaderClass

variable {ρ γ : Type} (C : GpuReaderClass ρ γ)

/-- What a sample of the reader `r` tells. -/
def telling (r : ρ) (c : γ) : Telling := ⟨(C.sample r c).1, C.reasons (C.sample r c).2⟩

/-- Whatever the reader has been through, and whatever it meets. -/
def Honest : Prop := ∀ r c, (C.telling r c).Honest

/-- The reader, and the number of its operations so far: the `k`-th one meets `met k`. -/
def reader (met : ℕ → γ) : GpuReaderObject (ρ × ℕ) where
  sample := ofOutcome fun s =>
    ((C.sample s.1 (met s.2)).1.map (List.map fun s => some s.row),
      (C.sample s.1 (met s.2)).2, s.2 + 1)
  staticInfo := ofOutcome fun s =>
    ((C.staticInfo s.1 (met s.2)).1.map (List.map fun p => some p.object),
      (C.staticInfo s.1 (met s.2)).2, s.2 + 1)
  unavailableReasons s :=
    .mapping (.ok ((C.reasons s.1).sortedItems.map fun p => some (.str p.1, .str p.2)))

/-- The reader after an operation. -/
def step (met : ℕ → γ) (s : ρ × ℕ) : GpuOperation → ρ × ℕ
  | .sample => ((C.sample s.1 (met s.2)).2, s.2 + 1)
  | .staticInfo => ((C.staticInfo s.1 (met s.2)).2, s.2 + 1)

/-- What the samples among these operations tell, one after the other. -/
def tellings (met : ℕ → γ) (s : ρ × ℕ) : List GpuOperation → List Telling
  | [] => []
  | .sample :: ops => C.telling s.1 (met s.2) :: tellings met (C.step met s .sample) ops
  | .staticInfo :: ops => tellings met (C.step met s .staticInfo) ops

end GpuReaderClass

/-! ## Sessions -/

/-- Nothing of the host makes `collect` raise. -/
structure HostReader.Tolerable (host : HostReader) : Prop where
  values : ∀ f, ∃ v, host.value f = .ok v ∧ Fits v
  reasons : host.unavailableReasons.Unpacks

/-- The operation of the GPU reader that a call begins or ends with. -/
def CollectorCall.operation : CollectorCall → GpuOperation
  | snapshot _ => .sample
  | machineProfile _ => .staticInfo

/-- The snapshots show what was told, one after the other, but for those that the host
    reader has spoilt. -/
inductive Relayed {σ : Type} (host : HostReaderObject σ) :
    List (TelemetrySnapshot Number) → List Telling → Prop
  | nil : Relayed host [] []
  | shown {x told xs ts} : x.Relays told → Relayed host xs ts → Relayed host (x :: xs) (told :: ts)
  /-- abandoned before `sample` -/
  | abandoned {clocks s xs ts} : ¬ (host.observe s).1.Tolerable → Relayed host xs ts →
      Relayed host (emergencySnapshot clocks :: xs) ts
  /-- abandoned after it -/
  | spoilt {clocks s told xs ts} : ¬ (host.observe s).1.Tolerable → Relayed host xs ts →
      Relayed host (emergencySnapshot clocks :: xs) (told :: ts)

section

variable {ρ γ σ F : Type} {C : GpuReaderClass ρ γ} (met : ℕ → γ) (host : HostReaderObject σ)

theorem observe_reader (s : ρ × ℕ) : (C.reader met).observe s =
    ((C.telling s.1 (met s.2)).reader, C.step met s .sample) := by
  simp only [GpuReaderObject.observe, GpuReaderClass.reader, outcome_ofOutcome]
  rfl

/-- One snapshot, and the reader after it. -/
theorem relayed_snapshot (hC : C.Honest) (t : Session (σ × (ρ × ℕ))) (clocks : Clocks) :
    let x := t.snapshot host.onFst (C.reader met).onSnd clocks
    (x.1.Relays (C.telling t.state.2.1 (met t.state.2.2)) ∧
        x.2.state.2 = C.step met t.state.2 .sample) ∨
      (x.1 = emergencySnapshot clocks ∧ ¬ (host.observe t.state.1).1.Tolerable ∧
        (x.2.state.2 = t.state.2 ∨ x.2.state.2 = C.step met t.state.2 .sample)) := by
  have htold := hC t.state.2.1 (met t.state.2.2)
  have hpair := observe_pair host (C.reader met) clocks t.state
  rw [observe_reader] at hpair
  cases hcollect : collect (observe host.onFst (C.reader met).onSnd clocks t.state).1 with
  | ok x =>
    refine .inl ⟨?_, ?_⟩
    · rw [Session.snapshot_fst, TelemetryCollector.snapshot, hcollect]
      rw [hpair] at hcollect
      exact relays_of_collect htold rfl hcollect
    · rw [Session.snapshot_state _ _ _ hcollect, hpair]
  | error e =>
    refine .inr ⟨?_, ?_, ?_⟩
    · rw [Session.snapshot_fst, TelemetryCollector.snapshot, hcollect, hpair]
    · intro htolerable
      rw [hpair] at hcollect
      have htolerated : Tolerated ⟨clocks, (host.observe t.state.1).1,
          (C.telling t.state.2.1 (met t.state.2.2)).reader⟩ :=
        ⟨htolerable.values, htold.rowsNormalizable, htolerable.reasons,
          returns_readerReasons.1 ⟨_, readerReasons_told htold⟩⟩
      obtain ⟨x, hx⟩ := returns_collect.2 htolerated
      rw [hcollect] at hx
      cases hx
    · rw [Session.snapshot_state_eq]
      have hmoves := snapshotBody_snd host (C.reader met) clocks t.state
      rwa [observe_reader] at hmoves

/-- **What an honest reader tells is relayed.**  Over any session, next to any host reader,
    the snapshots show what the successive samples of the reader told, each once and in
    order, and nothing else about GPUs, but for snapshots that the host reader has spoilt. -/
theorem relayed_session (hC : C.Honest) (core : BaseAiCore F) (t : Session (σ × (ρ × ℕ)))
    (calls : List CollectorCall) :
    ∃ ops : List GpuOperation, ops.Sublist (calls.map CollectorCall.operation) ∧
      Relayed host (snapshots (t.run host.onFst (C.reader met).onSnd core calls))
        (C.tellings met t.state.2 ops) := by
  induction calls generalizing t with
  | nil => exact ⟨[], .refl _, .nil⟩
  | cons call calls ih =>
    cases call with
    | snapshot clocks =>
      obtain ⟨ops, hops, hrelayed⟩ := ih (t.snapshot host.onFst (C.reader met).onSnd clocks).2
      rcases relayed_snapshot met host hC t clocks with ⟨hx, hstate⟩ | ⟨hx, hhost, hstate⟩
      · rw [hstate] at hrelayed
        exact ⟨.sample :: ops, hops.cons_cons _, .shown hx hrelayed⟩
      · have hemergency : snapshots (t.run host.onFst (C.reader met).onSnd core
            (.snapshot clocks :: calls)) = emergencySnapshot clocks :: snapshots
              ((t.snapshot host.onFst (C.reader met).onSnd clocks).2.run host.onFst
                (C.reader met).onSnd core calls) := congrArg (· :: _) hx
        rw [hemergency]
        rcases hstate with hstate | hstate
        · rw [hstate] at hrelayed
          exact ⟨ops, hops.cons _, .abandoned hhost hrelayed⟩
        · rw [hstate] at hrelayed
          exact ⟨.sample :: ops, hops.cons_cons _, .spoilt hhost hrelayed⟩
    | machineProfile clocks =>
      obtain ⟨ops, hops, hrelayed⟩ :=
        ih (t.machineProfile host.onFst (C.reader met).onSnd core clocks).2
      have hstate : (t.machineProfile host.onFst (C.reader met).onSnd core clocks).2.state.2 =
          C.step met t.state.2 .staticInfo := by
        rw [Session.machineProfile_eq, observeProfile_pair]
        simp only [GpuReaderClass.reader, outcome_ofOutcome]
        rfl
      rw [hstate] at hrelayed
      exact ⟨.staticInfo :: ops, hops.cons_cons _, hrelayed⟩

end

end SweatMeter
