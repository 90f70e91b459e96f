/-
  Two sessions that differ in the GPU backend only.

  Next to the same host reader the two bodies stay in step, so where the readers agree on
  what they tell, so do the snapshots (`sameSnapshots_session`).  A window reads of a device
  its timestamps and what `TelemetrySnapshot.view` keeps, and both backends show the same of
  devices on which they agree: no aggregate of a window depends on the backend
  (`backends_interchangeable`).
-/
import SweatMeter.Metering
import SweatMeter.Throttling

namespace SweatMeter

open Py Py.Stateful

/-! ## Two sessions -/

/-- The same host at the same time, and corresponding devices. -/
structure SameSnapshot (R : GpuSample Number → GpuSample Number → Prop)
    (x y : TelemetrySnapshot Number) : Prop where
  timestamp : x.timestamp = y.timestamp
  host : x.host = y.host
  gpus : List.Forall₂ R x.gpus y.gpus

section

variable {R : GpuSample Number → GpuSample Number → Prop} {told told' : Telling}

theorem Agree.samplesOf {x y : Except Exn (List (GpuSample Number))} (h : Agree R x y) :
    List.Forall₂ R (samplesOf x) (samplesOf y) := by
  obtain ⟨xs, ys, rfl, rfl, hR⟩ := h
  exact hR

/-- An honest telling makes no snapshot fail that another GPU reader lets succeed. -/
theorem returns_collect_told (htold : told.Honest) {clocks : Clocks} {host : HostReader}
    {gpu : GpuReader} (h : Returns (collect ⟨clocks, host, gpu⟩)) :
    Returns (collect ⟨clocks, host, told.reader⟩) := by
  have htolerated := returns_collect.1 h
  exact returns_collect.2 ⟨htolerated.host, htold.rowsNormalizable, htolerated.hostReasons,
    returns_readerReasons.1 ⟨_, readerReasons_told htold⟩⟩

theorem sameSnapshot_told (htold : told.Honest) (htold' : told'.Honest)
    (hagree : Agree R told.out told'.out) (c c' : TelemetryCollector) (clocks : Clocks)
    (host : HostReader) :
    SameSnapshot R (c.snapshot ⟨clocks, host, told.reader⟩).1
      (c'.snapshot ⟨clocks, host, told'.reader⟩).1 := by
  rw [TelemetryCollector.snapshot, TelemetryCollector.snapshot]
  cases hx : collect ⟨clocks, host, told.reader⟩ with
  | ok x =>
    obtain ⟨y, hy⟩ := returns_collect_told htold' ⟨x, hx⟩
    rw [hy]
    have hcollected := collect_ok hx
    have hcollected' := collect_ok hy
    refine ⟨hcollected.timestamp.trans hcollected'.timestamp.symm, funext fun f => ?_, ?_⟩
    · exact Except.ok.inj ((hcollected.host f).symm.trans (hcollected'.host f))
    · show List.Forall₂ R x.gpus y.gpus
      rw [(relays_of_collect htold rfl hx).gpus, (relays_of_collect htold' rfl hy).gpus]
      exact hagree.samplesOf
  | error e =>
    cases hy : collect ⟨clocks, host, told'.reader⟩ with
    | ok y =>
      obtain ⟨x, hx'⟩ := returns_collect_told htold ⟨y, hy⟩
      rw [hx] at hx'
      cases hx'
    | error e' => exact ⟨rfl, rfl, .nil⟩

end

section

variable {ρ ρ' γ γ' σ F : Type} {C : GpuReaderClass ρ γ} {C' : GpuReaderClass ρ' γ'}
  {R : GpuSample Number → GpuSample Number → Prop} (hC : C.Honest) (hC' : C'.Honest)
  {met : ℕ → γ} {met' : ℕ → γ'} (host : HostReaderObject σ) (core : BaseAiCore F)

include hC hC'

/-- **Where the readers agree, so do the snapshots.** -/
theorem sameSnapshots_session
    (hagree : ∀ r r' k, Agree R (C.telling r (met k)).out (C'.telling r' (met' k)).out)
    (t : Session (σ × (ρ × ℕ))) (t' : Session (σ × (ρ' × ℕ)))
    (hstate : SameHost (fun u u' => u.2 = u'.2) t.state t'.state) (calls : List CollectorCall) :
    List.Forall₂ (SameSnapshot R)
      (snapshots (t.run host.onFst (C.reader met).onSnd core calls))
      (snapshots (t'.run host.onFst (C'.reader met').onSnd core calls)) := by
  induction calls generalizing t t' with
  | nil => exact .nil
  | cons call calls ih =>
    obtain ⟨hhost, hcount⟩ := id hstate
    cases call with
    | snapshot clocks =>
      have hfirst : SameSnapshot R (t.snapshot host.onFst (C.reader met).onSnd clocks).1
          (t'.snapshot host.onFst (C'.reader met').onSnd clocks).1 := by
        rw [Session.snapshot_fst, Session.snapshot_fst, observe_pair, observe_pair, observe_reader,
          observe_reader, hhost, hcount]
        exact sameSnapshot_told (hC _ _) (hC' _ _) (hagree _ _ _) _ _ clocks _
      have hnext : SameHost (fun u u' => u.2 = u'.2)
          (t.snapshot host.onFst (C.reader met).onSnd clocks).2.state
          (t'.snapshot host.onFst (C'.reader met').onSnd clocks).2.state := by
        rw [Session.snapshot_state_eq, Session.snapshot_state_eq]
        refine lockstep_snapshotBody host _ _ (fun u u' h => ?_) clocks _ _ hstate
        rw [observe_reader, observe_reader]
        exact congrArg (· + 1) h
      exact .cons hfirst (ih _ _ hnext)
    | machineProfile clocks =>
      have hmoved {ρ γ : Type} {C : GpuReaderClass ρ γ} {met : ℕ → γ}
          (t : Session (σ × (ρ × ℕ))) :
          (t.machineProfile host.onFst (C.reader met).onSnd core clocks).2.state =
            ((outcome host.staticFacts t.state.1).2, C.step met t.state.2 .staticInfo) := by
        rw [Session.machineProfile_eq, observeProfile_pair]
        simp only [GpuReaderClass.reader, outcome_ofOutcome]
        rfl
      have hnext : SameHost (fun u u' => u.2 = u'.2)
          (t.machineProfile host.onFst (C.reader met).onSnd core clocks).2.state
          (t'.machineProfile host.onFst (C'.reader met').onSnd core clocks).2.state := by
        rw [hmoved, hmoved]
        exact ⟨congrArg (fun s => (outcome host.staticFacts s).2) hhost, congrArg (· + 1) hcount⟩
      exact ih _ _ hnext

end

/-! ## What a window reads of a device -/

/-- A row as the aggregates of device `g` read it. -/
def GpuSample.view (g : ℕ) (r : GpuSample ℚ) : GpuSample ℚ where
  index := g
  measurement f := if f = .memoryTemperatureC then none else r.measurement f
  throttleReasons := r.throttleReasons
  throttleReasonsAvailable := r.throttleReasonsAvailable

/-- The instant of a snapshot, and its row of device `g`. -/
def TelemetrySnapshot.view (g : ℕ) (x : TelemetrySnapshot ℚ) : TelemetrySnapshot ℚ where
  timestamp := x.timestamp
  gpus := ((x.gpu g).map (GpuSample.view g)).toList

section

variable {g : ℕ} {rows : List (GpuSample ℚ)}

theorem gpu_view (x : TelemetrySnapshot ℚ) : (x.view g).gpu g = (x.gpu g).map (GpuSample.view g) := by
  rw [TelemetrySnapshot.gpu, TelemetrySnapshot.view]
  cases x.gpu g with
  | none => rfl
  | some row => simp [GpuSample.view]

theorem measurement_view {f : GpuField} (hf : f ≠ .memoryTemperatureC) (r : GpuSample ℚ) :
    (r.view g).measurement f = r.measurement f := if_neg hf

/-! ### The verdict -/

theorem clockDropFrom_view (m : Option ℚ) :
    clockDropFrom m (rows.map (GpuSample.view g)) =
      (clockDropFrom m rows).map (GpuSample.view g) := by
  induction rows generalizing m with
  | nil => rfl
  | cons r rows ih =>
    have hview := measurement_view (f := .coreClockMhz) (g := g) (by decide) r
    cases hclock : r.measurement .coreClockMhz with
    | none =>
      simp only [List.map_cons, clockDropFrom, hview, hclock]
      exact ih m
    | some clock =>
      cases m with
      | none =>
        simp only [List.map_cons, clockDropFrom, hview, hclock]
        exact ih _
      | some m =>
        simp only [List.map_cons, clockDropFrom, hview, hclock]
        split_ifs
        · rfl
        · exact ih _

theorem reportedRows_view :
    reportedRows (rows.map (GpuSample.view g)) = (reportedRows rows).map (GpuSample.view g) :=
  List.filter_map

theorem activeReasons_view :
    activeReasons (rows.map (GpuSample.view g)) = activeReasons rows := by
  rw [activeReasons, activeReasons, List.flatMap_map]
  rfl

theorem clockVerdict_view (reported : List (GpuSample ℚ)) :
    clockVerdict g (rows.map (GpuSample.view g)) (reported.map (GpuSample.view g)) =
      clockVerdict g rows reported := by
  have hcount : ((rows.map (GpuSample.view g)).filter fun r =>
      (r.measurement .coreClockMhz).isSome).length =
        (rows.filter fun r => (r.measurement .coreClockMhz).isSome).length := by
    rw [List.filter_map, List.length_map]
    rfl
  have hdrop : substantialClockDrop (rows.map (GpuSample.view g)) =
      (substantialClockDrop rows).map (GpuSample.view g) := clockDropFrom_view none
  simp only [clockVerdict, hcount, hdrop, List.length_map, ne_eq, List.map_eq_nil_iff]
  cases substantialClockDrop rows <;> rfl

theorem throttleVerdict_view :
    throttleVerdict g (rows.map (GpuSample.view g)) = throttleVerdict g rows := by
  rw [throttleVerdict, throttleVerdict, reportedRows_view, activeReasons_view, clockVerdict_view,
    List.length_map]

end

/-! ### A window -/

section

variable {Z : Zones} (S : Sorter Z.lt) {g : ℕ} {xs ys : List (TelemetrySnapshot ℚ)}

theorem samples_view : (TelemetryWindow.make S (xs.map (TelemetrySnapshot.view g))).samples =
    (TelemetryWindow.make S xs).samples.map (TelemetrySnapshot.view g) := by
  simp only [TelemetryWindow.make, Sorter.sorted, List.map_map, List.map_filterMap,
    List.getElem?_map]
  rfl

theorem gpuSamples_view : (TelemetryWindow.make S (xs.map (TelemetrySnapshot.view g))).gpuSamples g =
    ((TelemetryWindow.make S xs).gpuSamples g).map (GpuSample.view g) := by
  rw [TelemetryWindow.gpuSamples, TelemetryWindow.gpuSamples, samples_view, List.filterMap_map,
    List.map_filterMap]
  exact List.filterMap_congr fun x _ => gpu_view x

theorem measurements_view {f : GpuField} (hf : f ≠ .memoryTemperatureC) :
    (TelemetryWindow.make S (xs.map (TelemetrySnapshot.view g))).measurements g f =
      (TelemetryWindow.make S xs).measurements g f := by
  rw [TelemetryWindow.measurements, TelemetryWindow.measurements, gpuSamples_view,
    List.filterMap_map]
  exact List.filterMap_congr fun r _ => measurement_view hf r

theorem energyTerms_view :
    (TelemetryWindow.make S (xs.map (TelemetrySnapshot.view g))).energyTerms Z g =
      (TelemetryWindow.make S xs).energyTerms Z g := by
  rw [TelemetryWindow.energyTerms, TelemetryWindow.energyTerms, samples_view, pairwise, pairwise,
    ← List.map_tail, List.zip_map, List.filterMap_map]
  refine List.filterMap_congr fun p _ => ?_
  have hpower : ((p.1.view g).gpu g).bind (fun r => r.measurement .powerWatts) =
      (p.1.gpu g).bind fun r => r.measurement .powerWatts := by
    rw [gpu_view]
    cases p.1.gpu g <;> rfl
  show TelemetryWindow.energyTerm Z g (p.1.view g, p.2.view g) = _
  simp only [TelemetryWindow.energyTerm, hpower]
  rfl

/-- **Series of one view of a device give it the same results.** -/
theorem sameResults_of_view
    (h : xs.map (TelemetrySnapshot.view g) = ys.map (TelemetrySnapshot.view g)) :
    SameResultsFor Z g (TelemetryWindow.make S xs) (TelemetryWindow.make S ys) := by
  have hvalues {f : GpuField} (hf : f ≠ .memoryTemperatureC) :
      (TelemetryWindow.make S xs).measurements g f =
        (TelemetryWindow.make S ys).measurements g f := by
    rw [← measurements_view S hf, h, measurements_view S hf]
  have hterms : (TelemetryWindow.make S xs).energyTerms Z g =
      (TelemetryWindow.make S ys).energyTerms Z g := by
    rw [← energyTerms_view, h, energyTerms_view]
  have hverdict : (TelemetryWindow.make S xs).suspectedThrottling g =
      (TelemetryWindow.make S ys).suspectedThrottling g := by
    rw [TelemetryWindow.suspectedThrottling, TelemetryWindow.suspectedThrottling,
      ← throttleVerdict_view, ← gpuSamples_view, h, gpuSamples_view, throttleVerdict_view]
  have hvram := hvalues (f := .vramUsedBytes) (by decide)
  have hpower := hvalues (f := .powerWatts) (by decide)
  have htemperature := hvalues (f := .temperatureC) (by decide)
  constructor
  case peakVramBytes => simp only [TelemetryWindow.peakVramBytes, hvram]
  case meanPowerWatts => simp only [TelemetryWindow.meanPowerWatts, hpower]
  case energyJoules => simp only [TelemetryWindow.energyJoules, hterms]
  case maxTemperatureC => simp only [TelemetryWindow.maxTemperatureC, htemperature]
  case suspectedThrottling => exact hverdict
  case supportedSampleCount =>
    intro metric
    cases metric <;>
      simp only [TelemetryWindow.supportedSampleCount, hvram, hpower, htemperature, hterms, hverdict]

end

/-! ## The two backends -/

/-- The same device in every respect but the temperature of its memory. -/
def SameSample (s t : GpuSample Number) : Prop := SameReadings s t ∧ SameThrottle s t

/-- Devices that both backends can read, and read alike. -/
structure ReadAlike (c : SmiCall) (ds : List GpuDevice) : Prop where
  readable : Readable c ds
  warm : ∀ d ∈ ds, d.Warm
  throttling : ∀ d ∈ ds, d.SameThrottling c ds

theorem ReadAlike.agree {c : SmiCall} {ds : List GpuDevice} {B : NvmlBinding} (h : ReadAlike c ds)
    (hc : c.Prints ds) (hB : B.Reports ds) (r : NvmlGpuReader) :
    Agree SameSample c.sample.outcome (r.sample ⟨.ok (), B⟩).1 :=
  (agree_iff hc hB r fun i d _ hget hin hs =>
    and_congr (sameReadings_iff (hB.devices i d hget) hin hs)
      (sameThrottle_iff (hB.devices i d hget) hs)).2
    ⟨h.readable, fun d hd => ⟨h.warm d hd, h.throttling d hd⟩⟩

section

variable {g : ℕ} {x y : TelemetrySnapshot Number} {s t : GpuSample Number}

theorem SameSample.view (h : SameSample s t) : s.exact.view g = t.exact.view g := by
  obtain ⟨⟨-, -, hvalues⟩, -, hreasons, havailable⟩ := h
  have hmeasurement : (s.exact.view g).measurement = (t.exact.view g).measurement := by
    funext f
    by_cases hf : f = .memoryTemperatureC
    · rw [hf]
      rfl
    · rw [measurement_view hf, measurement_view hf]
      have hjoin (m : Measurement Number) : (exactValue m).join = m.bind Number.toRat := by
        cases m <;> rfl
      have hvalue := congrArg Option.join (hvalues f hf)
      rwa [hjoin, hjoin] at hvalue
  simp only [GpuSample.view, GpuSample.exact] at hmeasurement ⊢
  rw [hmeasurement, hreasons, havailable]

/-- The first rows of a device correspond. -/
theorem gpu_exact_view (h : List.Forall₂ SameSample x.gpus y.gpus) :
    (x.exact.gpu g).map (GpuSample.view g) = (y.exact.gpu g).map (GpuSample.view g) := by
  unfold TelemetrySnapshot.gpu TelemetrySnapshot.exact
  generalize x.gpus = ss, y.gpus = ts at h
  induction h with
  | nil => rfl
  | @cons s t ss ts hst _ ih =>
    have hindex : s.exact.index = t.exact.index := hst.1.index
    rw [List.map_cons, List.map_cons, List.find?_cons, List.find?_cons, hindex]
    split
    · exact congrArg some hst.view
    · exact ih

theorem SameSnapshot.view (h : SameSnapshot SameSample x y) : x.exact.view g = y.exact.view g := by
  have hgpu := gpu_exact_view (g := g) h.gpus
  have htimestamp : x.exact.timestamp = y.exact.timestamp := h.timestamp
  rw [TelemetrySnapshot.view, TelemetrySnapshot.view, hgpu, htimestamp]

end

/-- The elements at these positions correspond. -/
theorem forall₂_positions {α β : Type} {R : α → β → Prop} {xs : List α} {ys : List β}
    (h : List.Forall₂ R xs ys) (positions : List ℕ) :
    List.Forall₂ R (positions.filterMap (xs[·]?)) (positions.filterMap (ys[·]?)) := by
  refine List.rel_filterMap (R := Eq) ?_ (List.forall₂_same.2 fun _ _ => rfl)
  rintro i _ rfl
  show Option.Rel R xs[i]? ys[i]?
  induction h generalizing i with
  | nil => exact .none
  | cons hxy _ ih =>
    cases i with
    | zero => exact .some hxy
    | succ i => exact @ih i

/-- **The backends are interchangeable.**  Two collectors with the same host reader and clocks,
    one with either backend, are called alike, and at each operation meet devices that both
    backends can read, at no temperature below zero and with throttle reasons in one order.
    Their snapshots tell the same but for the temperature of the memory, and all results of
    all windows over them are the same. -/
theorem backends_interchangeable {σ F : Type} (alnum : Char → Bool)
    (construct : GpuProfile → Except Exn Unit) (host : HostReaderObject σ) (core : BaseAiCore F)
    {smi : ℕ → SmiCall} {nvml : ℕ → NvmlBinding} {ds : ℕ → List GpuDevice}
    (hprints : ∀ k, (smi k).Prints (ds k)) (hreports : ∀ k, (nvml k).Reports (ds k))
    (halike : ∀ k, ReadAlike (smi k) (ds k)) (s : σ) (r : NvidiaSmiReader) (r' : NvmlGpuReader) (k : ℕ)
    (calls : List CollectorCall) :
    let xs := snapshots (Session.run host.onFst
      ((GpuBackend.nvidiaSmi.operations alnum construct).reader smi).onSnd core
      { state := (s, r, k) } calls)
    let ys := snapshots (Session.run host.onFst
      ((GpuBackend.pynvml.operations alnum construct).reader fun k => ⟨.ok (), nvml k⟩).onSnd core
      { state := (s, r', k) } calls)
    List.Forall₂ (SameSnapshot SameSample) xs ys ∧
      ∀ (Z : Zones) (S : Sorter Z.lt) (positions : List ℕ) (g : ℕ),
        SameResultsFor Z g
          (TelemetryWindow.make S ((positions.filterMap (xs[·]?)).map TelemetrySnapshot.exact))
          (TelemetryWindow.make S ((positions.filterMap (ys[·]?)).map TelemetrySnapshot.exact)) := by
  intro xs ys
  have hsame : List.Forall₂ (SameSnapshot SameSample) xs ys :=
    sameSnapshots_session (NvidiaSmiReader.honest alnum construct)
      (NvmlGpuReader.honest construct) host core
      (fun _ r' k => (halike k).agree (hprints k) (hreports k) r') _ _ ⟨rfl, rfl⟩ calls
  refine ⟨hsame, fun Z S positions g => sameResults_of_view S ?_⟩
  have hpositions := forall₂_positions hsame positions
  rw [List.map_map, List.map_map, ← List.forall₂_eq_eq_eq, List.forall₂_map_left_iff,
    List.forall₂_map_right_iff]
  exact hpositions.imp fun _ _ h => h.view

/-- A device at 41 degrees, in two snapshots around a profile. -/
theorem backends_interchangeable_at_41 :
    let ds := [thermometer 41 (by decide)]
    let calls : List CollectorCall := [.snapshot silentHost.clocks,
      .machineProfile silentHost.clocks, .snapshot silentHost.clocks]
    List.Forall₂ (SameSnapshot SameSample)
      (snapshots (Session.run stubHostReader.onFst
        ((GpuBackend.nvidiaSmi.operations (fun _ => false) fun _ => .ok ()).reader
          fun _ => printing ds).onSnd listing { state := ((), {}, 0) } calls))
      (snapshots (Session.run stubHostReader.onFst
        ((GpuBackend.pynvml.operations (fun _ => false) fun _ => .ok ()).reader
          fun _ => ⟨.ok (), reporting ds⟩).onSnd listing { state := ((), {}, 0) } calls)) := by
  have hwarm : ∀ d ∈ [thermometer 41 (by decide)], d.Warm := by
    intro d hd t ht
    cases List.mem_singleton.1 hd
    cases ht
    decide
  have hthrottling : ∀ d ∈ [thermometer 41 (by decide)],
      d.SameThrottling (printing [thermometer 41 (by decide)]) [thermometer 41 (by decide)] := by
    intro d hd
    cases List.mem_singleton.1 hd
    exact .inl rfl
  exact (backends_interchangeable _ _ stubHostReader listing (fun _ => prints_printing _)
    (fun _ => reports_reporting _) (fun _ => ⟨readable_thermometer, hwarm, hthrottling⟩) () {} {} 0
    _).1

end SweatMeter
