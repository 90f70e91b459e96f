/-
  The collector over readers that keep a state.

  `collect` is told what every operation does in one call.  Here an operation is
  a computation on the readers' state, and `snapshotBody` and `profileBody` are
  the bodies of `snapshot` and `machine_profile` as the sequences of their calls:
  a call that raises still leaves a state, and a body that is abandoned makes no
  further calls.  A body that is not abandoned is `collect`, or `assemble`, on
  what the operations did in their turn (`snapshotBody_ok`, `profileBody_ok`).

  Two readers with a state each do not notice each other (`observe_pair`).
-/
import SweatMeter.Py.Stateful
import SweatMeter.Profiling

namespace SweatMeter

open Py Py.Stateful

/-- A host reader: what its operations do to the state. -/
structure HostReaderObject (σ : Type) where
  cpuPercent : EStateM Exn σ Obj
  loadAverage1m : EStateM Exn σ Obj
  memory : EStateM Exn σ (Option (MemoryReading (Except Exn Obj)))
  cpuTemperature : EStateM Exn σ Obj
  diskThroughput : EStateM Exn σ (Option (DiskThroughput (Except Exn Obj)))
  processRssBytes : EStateM Exn σ Obj
  staticFacts : EStateM Exn σ (Option HostFacts)
  unavailableReasons : σ → ReasonSurface

/-- A GPU reader: what its operations do to the state. -/
structure GpuReaderObject (σ : Type) where
  sample : EStateM Exn σ (List (Option GpuRow))
  staticInfo : EStateM Exn σ (List (Option GpuProfileObject))
  unavailableReasons : σ → ReasonSurface

variable {σ T : Type}

/-- `_read`, of an operation with a state. -/
def readCall (fn : EStateM Exn σ T) (default : T) (reasonFields : List String)
    (reasons : Dict String) : EStateM Exn σ (T × Dict String) := do
  let value ← safeCall fn
  return read value default reasonFields reasons

theorem readCall_bind {α : Type} (fn : EStateM Exn σ T) (default : T) (fields : List String)
    (reasons : Dict String) (f : T × Dict String → EStateM Exn σ α) (s : σ) :
    (readCall fn default fields reasons >>= f) s =
      f (read (outcome fn s).1 default fields reasons) (outcome fn s).2 := rfl

theorem preserves_readCall {γ : Type} {f : σ → γ} {fn : EStateM Exn σ T} (h : Preserves f fn)
    (default : T) (fields : List String) (reasons : Dict String) :
    Preserves f (readCall fn default fields reasons) :=
  Preserves.bind (Preserves.safeCall h) fun _ => Preserves.pure _

/-! ## The bodies -/

section

variable (host : HostReaderObject σ) (gpu : GpuReaderObject σ)

/-- `_snapshot`. -/
def snapshotBody (clocks : Clocks) : EStateM Exn σ (TelemetrySnapshot Number) := do
  let (timestamp, reasons) := timestampOf clocks ∅
  let (cpu, reasons) ← readCall host.cpuPercent .unsupported ["cpu_percent"] reasons
  let cpu ← lift (number cpu 0 (some 100))
  let (load, reasons) ← readCall host.loadAverage1m .unsupported ["load_average_1m"] reasons
  let load ← lift (number load)
  let (memory, reasons) ← readCall host.memory (some emptyMemory) memoryFields reasons
  let (memory, reasons) := orMalformed memory emptyMemory memoryFields reasons
  let (temperature, reasons) ←
    readCall host.cpuTemperature .unsupported ["cpu_temperature_c"] reasons
  let temperature ← lift (number temperature (-27315 / 100))
  let (disk, reasons) ← readCall host.diskThroughput (some emptyDisk) diskFields reasons
  let (disk, reasons) := orMalformed disk emptyDisk diskFields reasons
  let (rss, reasons) ← readCall host.processRssBytes .unsupported ["process_rss_bytes"] reasons
  let rss ← lift (number rss)
  let (gpuValues, reasons) ← readCall gpu.sample [] ["gpu"] reasons
  let (gpus, reasons) ← lift (normalizeGpuSamples gpuValues reasons)
  let used ← lift memory.usedBytes
  let used ← lift (number used)
  let available ← lift memory.availableBytes
  let available ← lift (number available)
  let total ← lift memory.totalBytes
  let total ← lift (number total)
  let diskRead ← lift disk.readBytesPerSec
  let diskRead ← lift (number diskRead)
  let diskWrite ← lift disk.writeBytesPerSec
  let diskWrite ← lift (number diskWrite)
  let live : HostField → Measurement Number
    | .cpuPercent => cpu
    | .loadAverage1m => load
    | .ramUsedBytes => used
    | .ramAvailableBytes => available
    | .ramTotalBytes => total
    | .cpuTemperatureC => temperature
    | .diskReadBytesPerSec => diskRead
    | .diskWriteBytesPerSec => diskWrite
    | .processRssBytes => rss
  let reasons := markUnsupported live "sensor_unsupported" reasons
  let state ← get
  let hostReasons ← lift (readerReasons (host.unavailableReasons state))
  let reasons := reasons.update (hostReasons.filter fun p => p.1 ∈ HostField.all.map HostField.name)
  let gpuReasons ← lift (readerReasons (gpu.unavailableReasons state))
  let reasons := reasons.update gpuReasons
  let reasons := if gpus = [] then reasons.setdefault "gpu" "no_gpus" else reasons
  return { timestamp := timestamp, host := live, gpus := gpus, reasons := reasons.sortedItems }

/-- What the operations do when `_snapshot` calls them one after the other from
    this state, and the state they leave. -/
def observe (clocks : Clocks) (s : σ) : Boundary × σ :=
  let (cpu, s) := outcome host.cpuPercent s
  let (load, s) := outcome host.loadAverage1m s
  let (memory, s) := outcome host.memory s
  let (temperature, s) := outcome host.cpuTemperature s
  let (disk, s) := outcome host.diskThroughput s
  let (rss, s) := outcome host.processRssBytes s
  let (sample, s) := outcome gpu.sample s
  ({ clocks := clocks
     host := {
       cpuPercent := cpu
       loadAverage1m := load
       memory := memory
       cpuTemperature := temperature
       diskThroughput := disk
       processRssBytes := rss
       unavailableReasons := host.unavailableReasons s }
     gpu := { sample := sample, unavailableReasons := gpu.unavailableReasons s } }, s)

/-- **A completed body is `collect` on what the operations did in their turn.** -/
theorem snapshotBody_ok {clocks : Clocks} {s s' : σ} {x : TelemetrySnapshot Number} :
    snapshotBody host gpu clocks s = .ok x s' ↔
      collect (observe host gpu clocks s).1 = .ok x ∧ (observe host gpu clocks s).2 = s' := by
  constructor <;> intro h
  all_goals
    simp only [snapshotBody, readCall_bind, lift_bind_eq_ok, get_bind, Stateful.pure_eq_ok, read_eq,
      orMalformed_eq, collect, observe, Py.bind_eq_ok, Py.pure_eq_ok, ← exists_and_right,
      and_assoc] at h ⊢
    exact h

variable {F : Type} (core : BaseAiCore F)

/-- `_machine_profile`: after the two reads it asks the readers for nothing but
    their reasons. -/
def profileBody (clocks : Clocks) : EStateM Exn σ (MachineProfile F × Dict String) := do
  let staticFacts ← safeCall host.staticFacts
  let staticInfo ← safeCall gpu.staticInfo
  let state ← get
  lift (assemble core {
    clocks := clocks
    staticFacts := staticFacts
    hostReasons := host.unavailableReasons state
    staticInfo := staticInfo
    gpuReasons := gpu.unavailableReasons state })

/-- What the operations do when `_machine_profile` calls them from this state,
    and the state they leave. -/
def observeProfile (clocks : Clocks) (s : σ) : ProfileBoundary × σ :=
  let (staticFacts, s) := outcome host.staticFacts s
  let (staticInfo, s) := outcome gpu.staticInfo s
  ({ clocks := clocks
     staticFacts := staticFacts
     hostReasons := host.unavailableReasons s
     staticInfo := staticInfo
     gpuReasons := gpu.unavailableReasons s }, s)

/-- The body is `assemble` on what the operations did in their turn. -/
theorem outcome_profileBody (clocks : Clocks) (s : σ) :
    outcome (profileBody host gpu core clocks) s =
      (assemble core (observeProfile host gpu clocks s).1,
        (observeProfile host gpu clocks s).2) := by
  rw [profileBody, outcome_safeCall_bind, outcome_safeCall_bind, outcome_get_bind, outcome_lift]
  rfl

/-! ## One collector -/

/-- A collector and the state of its readers. -/
structure Session (σ : Type) where
  collector : TelemetryCollector := ⟨∅⟩
  state : σ

/-- A call of the collector, with the clocks it meets. -/
inductive CollectorCall where
  | snapshot (clocks : Clocks)
  | machineProfile (clocks : Clocks)

/-- What a call returns. -/
inductive Answer (F : Type) where
  | snapshot (x : TelemetrySnapshot Number)
  | machineProfile (p : Except Exn (MachineProfile F))

/-- `snapshot`. -/
def Session.snapshot (t : Session σ) (clocks : Clocks) : TelemetrySnapshot Number × Session σ :=
  let (x, s) := match snapshotBody host gpu clocks t.state with
    | .ok x s => (x, s)
    | .error _ s => (emergencySnapshot clocks, s)
  (x, ⟨⟨x.unavailableReasons⟩, s⟩)

/-- `machine_profile`. -/
def Session.machineProfile (t : Session σ) (clocks : Clocks) :
    Except Exn (MachineProfile F) × Session σ :=
  match profileBody host gpu core clocks t.state with
  | .ok (profile, reasons) s => (.ok profile, ⟨⟨reasons⟩, s⟩)
  | .error _ s => (emergencyProfile core clocks, ⟨⟨collectorError⟩, s⟩)

/-- One call: its answer and the session afterwards. -/
def Session.call (t : Session σ) : CollectorCall → Answer F × Session σ
  | .snapshot clocks =>
    let (x, t) := t.snapshot host gpu clocks
    (.snapshot x, t)
  | .machineProfile clocks =>
    let (p, t) := t.machineProfile host gpu core clocks
    (.machineProfile p, t)

/-- The answers to a sequence of calls, each with the `unavailable_reasons` of
    the collector after it. -/
def Session.run (t : Session σ) : List CollectorCall → List (Answer F × Dict String)
  | [] => []
  | c :: cs =>
    let (a, t) := t.call host gpu core c
    (a, t.collector.unavailableReasons) :: t.run cs

/-- The snapshots among the answers, in order. -/
def snapshots (answers : List (Answer F × Dict String)) : List (TelemetrySnapshot Number) :=
  answers.filterMap fun a => match a.1 with
    | .snapshot x => some x
    | .machineProfile _ => none

/-- The profiles among the answers, each with the diagnostics after it. -/
def profiles (answers : List (Answer F × Dict String)) :
    List (Except Exn (MachineProfile F) × Dict String) :=
  answers.filterMap fun a => match a.1 with
    | .snapshot _ => none
    | .machineProfile p => some (p, a.2)

/-- The clocks the calls of `machine_profile` meet. -/
def profileClocks (calls : List CollectorCall) : List Clocks :=
  calls.filterMap fun
    | .snapshot _ => none
    | .machineProfile clocks => some clocks

/-- The snapshot is the one the collector makes of what the operations did. -/
theorem Session.snapshot_fst (t : Session σ) (clocks : Clocks) :
    (t.snapshot host gpu clocks).1 =
      (t.collector.snapshot (observe host gpu clocks t.state).1).1 := by
  unfold Session.snapshot TelemetryCollector.snapshot
  cases hbody : snapshotBody host gpu clocks t.state with
  | ok x s =>
    obtain ⟨hx, -⟩ := (snapshotBody_ok host gpu).1 hbody
    rw [hx]
  | error e s =>
    cases hx : collect (observe host gpu clocks t.state).1 with
    | ok x =>
      have := (snapshotBody_ok host gpu).2 ⟨hx, rfl⟩
      rw [hbody] at this
      cases this
    | error e => rfl

/-- A snapshot that `collect` completes leaves the state its calls leave. -/
theorem Session.snapshot_state (t : Session σ) {clocks : Clocks} {x : TelemetrySnapshot Number}
    (h : collect (observe host gpu clocks t.state).1 = .ok x) :
    (t.snapshot host gpu clocks).2.state = (observe host gpu clocks t.state).2 := by
  rw [Session.snapshot, (snapshotBody_ok host gpu).2 ⟨h, rfl⟩]

/-- The state a snapshot leaves, collected or not. -/
theorem Session.snapshot_state_eq (t : Session σ) (clocks : Clocks) :
    (t.snapshot host gpu clocks).2.state = (outcome (snapshotBody host gpu clocks) t.state).2 := by
  unfold Session.snapshot outcome
  cases snapshotBody host gpu clocks t.state <;> rfl

/-- The profile is the one the collector makes of what the operations did. -/
theorem Session.machineProfile_eq (t : Session σ) (clocks : Clocks) :
    t.machineProfile host gpu core clocks =
      (let b := observeProfile host gpu clocks t.state
       let p := t.collector.machineProfile core b.1
       (p.1, ⟨p.2, b.2⟩)) := by
  have houtcome := outcome_profileBody host gpu core clocks t.state
  unfold Session.machineProfile TelemetryCollector.machineProfile
  unfold outcome at houtcome
  cases hbody : profileBody host gpu core clocks t.state with
  | ok a s =>
    rw [hbody] at houtcome
    obtain ⟨h1, h2⟩ := Prod.mk.inj houtcome
    simp only [← h1, ← h2]
  | error e s =>
    rw [hbody] at houtcome
    obtain ⟨h1, h2⟩ := Prod.mk.inj houtcome
    simp only [← h1, ← h2]
    rfl

/-- Each call of `snapshot` has its answer. -/
theorem length_snapshots (t : Session σ) (calls : List CollectorCall) :
    (snapshots (t.run host gpu core calls)).length = calls.countP fun
      | .snapshot _ => true
      | .machineProfile _ => false := by
  induction calls generalizing t with
  | nil => rfl
  | cons call calls ih =>
    cases call with
    | snapshot clocks =>
      show (snapshots _).length + 1 = _
      rw [ih, List.countP_cons_of_pos rfl]
    | machineProfile clocks =>
      rw [List.countP_cons_of_neg (by simp), ← ih (t.machineProfile host gpu core clocks).2]
      rfl

/-- A snapshot among the answers is the one of some call. -/
theorem exists_of_mem_snapshots {t : Session σ} {calls : List CollectorCall}
    {x : TelemetrySnapshot Number} (h : x ∈ snapshots (t.run host gpu core calls)) :
    ∃ (u : Session σ) (clocks : Clocks), x = (u.snapshot host gpu clocks).1 := by
  induction calls generalizing t with
  | nil => cases h
  | cons call calls ih =>
    cases call with
    | snapshot clocks =>
      rcases List.mem_cons.1 (show x ∈ _ :: snapshots _ from h) with rfl | h
      · exact ⟨t, clocks, rfl⟩
      · exact ih h
    | machineProfile clocks => exact ih (show x ∈ snapshots _ from h)

/-- A profile among the answers is the one of some call. -/
theorem exists_of_mem_profiles {t : Session σ} {calls : List CollectorCall}
    {p : Except Exn (MachineProfile F)} {reasons : Dict String}
    (h : (p, reasons) ∈ profiles (t.run host gpu core calls)) :
    ∃ (u : Session σ) (clocks : Clocks), p = (u.machineProfile host gpu core clocks).1 ∧
      reasons = (u.machineProfile host gpu core clocks).2.collector.unavailableReasons := by
  induction calls generalizing t with
  | nil => cases h
  | cons call calls ih =>
    cases call with
    | snapshot clocks => exact ih (show _ ∈ profiles _ from h)
    | machineProfile clocks =>
      rcases List.mem_cons.1 (show _ ∈ _ :: profiles _ from h) with heq | h
      · cases heq
        exact ⟨t, clocks, rfl, rfl⟩
      · exact ih h

end

/-! ## Readers with a state of their own -/

section

variable {τ : Type}

/-- The host reader on the first of two states. -/
def HostReaderObject.onFst (host : HostReaderObject σ) : HostReaderObject (σ × τ) where
  cpuPercent := Stateful.onFst host.cpuPercent
  loadAverage1m := Stateful.onFst host.loadAverage1m
  memory := Stateful.onFst host.memory
  cpuTemperature := Stateful.onFst host.cpuTemperature
  diskThroughput := Stateful.onFst host.diskThroughput
  processRssBytes := Stateful.onFst host.processRssBytes
  staticFacts := Stateful.onFst host.staticFacts
  unavailableReasons s := host.unavailableReasons s.1

/-- The GPU reader on the second of two states. -/
def GpuReaderObject.onSnd (gpu : GpuReaderObject τ) : GpuReaderObject (σ × τ) where
  sample := Stateful.onSnd gpu.sample
  staticInfo := Stateful.onSnd gpu.staticInfo
  unavailableReasons s := gpu.unavailableReasons s.2

/-- What the operations of the host reader do when `_snapshot` calls them, and the
    state they leave. -/
def HostReaderObject.observe (host : HostReaderObject σ) (s : σ) : HostReader × σ :=
  let (cpu, s) := outcome host.cpuPercent s
  let (load, s) := outcome host.loadAverage1m s
  let (memory, s) := outcome host.memory s
  let (temperature, s) := outcome host.cpuTemperature s
  let (disk, s) := outcome host.diskThroughput s
  let (rss, s) := outcome host.processRssBytes s
  ({ cpuPercent := cpu
     loadAverage1m := load
     memory := memory
     cpuTemperature := temperature
     diskThroughput := disk
     processRssBytes := rss
     unavailableReasons := host.unavailableReasons s }, s)

/-- What `sample` does, and the state it leaves. -/
def GpuReaderObject.observe (gpu : GpuReaderObject τ) (t : τ) : GpuReader × τ :=
  let (sample, t) := outcome gpu.sample t
  ({ sample := sample, unavailableReasons := gpu.unavailableReasons t }, t)

variable (host : HostReaderObject σ) (gpu : GpuReaderObject τ)

/-- **Side by side, each reader does what it does alone.** -/
theorem observe_pair (clocks : Clocks) (s : σ × τ) :
    SweatMeter.observe host.onFst gpu.onSnd clocks s =
      (⟨clocks, (host.observe s.1).1, (gpu.observe s.2).1⟩,
        (host.observe s.1).2, (gpu.observe s.2).2) := by
  simp only [SweatMeter.observe, HostReaderObject.onFst, GpuReaderObject.onSnd, outcome_onFst,
    outcome_onSnd]
  rfl

theorem observeProfile_pair (clocks : Clocks) (s : σ × τ) :
    observeProfile host.onFst gpu.onSnd clocks s =
      ({ clocks := clocks
         staticFacts := (outcome host.staticFacts s.1).1
         hostReasons := host.unavailableReasons (outcome host.staticFacts s.1).2
         staticInfo := (outcome gpu.staticInfo s.2).1
         gpuReasons := gpu.unavailableReasons (outcome gpu.staticInfo s.2).2 },
        (outcome host.staticFacts s.1).2, (outcome gpu.staticInfo s.2).2) := by
  simp only [observeProfile, HostReaderObject.onFst, GpuReaderObject.onSnd, outcome_onFst,
    outcome_onSnd]

/-- A read on the first state, in front of other calls. -/
theorem outcome_readCall_onFst {α T : Type} (fn : EStateM Exn σ T) (default : T)
    (fields : List String) (reasons : Dict String) (f : T × Dict String → EStateM Exn (σ × τ) α)
    (s : σ × τ) :
    outcome (readCall (Stateful.onFst fn) default fields reasons >>= f) s =
      outcome (f (readValue (outcome fn s.1).1 default, readNote (outcome fn s.1).1 fields reasons))
        ((outcome fn s.1).2, s.2) := by
  rw [outcome, readCall_bind, outcome_onFst, read_eq]
  rfl

theorem preserves_fst_onSnd {T : Type} (fn : EStateM Exn τ T) :
    Preserves Prod.fst (Stateful.onSnd fn : EStateM Exn (σ × τ) T) := by
  intro s
  rw [outcome_onSnd]

/-- A body that gets as far as the last operation of the host reader leaves it in the
    state that its operations leave, whatever follows. -/
theorem snapshotBody_fst (clocks : Clocks) (s : σ × τ)
    (hcpu : Fits (readValue (host.observe s.1).1.cpuPercent .unsupported))
    (hload : Fits (readValue (host.observe s.1).1.loadAverage1m .unsupported))
    (htemperature : Fits (readValue (host.observe s.1).1.cpuTemperature .unsupported)) :
    (outcome (snapshotBody host.onFst gpu.onSnd clocks) s).2.1 = (host.observe s.1).2 := by
  obtain ⟨cpu, hcpu⟩ := (@returns_number _ 0 (some 100)).2 hcpu
  obtain ⟨load, hload⟩ := (@returns_number _ 0 none).2 hload
  obtain ⟨temperature, htemperature⟩ := (@returns_number _ (-27315 / 100) none).2 htemperature
  simp only [HostReaderObject.observe] at hcpu hload htemperature ⊢
  simp only [snapshotBody, HostReaderObject.onFst, outcome_readCall_onFst]
  rw [outcome_lift_bind_of_ok hcpu, outcome_readCall_onFst, outcome_lift_bind_of_ok hload,
    outcome_readCall_onFst, outcome_readCall_onFst, outcome_lift_bind_of_ok htemperature,
    outcome_readCall_onFst, outcome_readCall_onFst]
  -- the calls that are left do not use the host reader
  have hrest : ∀ {α : Type} {body : EStateM Exn (σ × τ) α}, Preserves Prod.fst body →
      ∀ u, (outcome body u).2.1 = u.1 := fun h u => h u
  refine hrest ?_ _
  refine (Preserves.lift _).bind fun _ => ?_
  refine (preserves_readCall (preserves_fst_onSnd _) _ _ _).bind ?_
  rintro ⟨_, _⟩
  refine (Preserves.lift _).bind ?_
  rintro ⟨_, _⟩
  iterate 10 refine (Preserves.lift _).bind fun _ => ?_
  refine Preserves.get.bind fun _ => ?_
  iterate 2 refine (Preserves.lift _).bind fun _ => ?_
  exact Preserves.pure _

theorem preserves_snd_onFst {T : Type} (fn : EStateM Exn σ T) :
    Preserves Prod.snd (Stateful.onFst fn : EStateM Exn (σ × τ) T) := by
  intro s
  rw [outcome_onFst]

/-- A body has sampled once, or has been abandoned before. -/
theorem snapshotBody_snd (clocks : Clocks) (s : σ × τ) :
    (outcome (snapshotBody host.onFst gpu.onSnd clocks) s).2.2 = s.2 ∨
      (outcome (snapshotBody host.onFst gpu.onSnd clocks) s).2.2 = (gpu.observe s.2).2 := by
  have hmoves : Moves Prod.snd (fun t t' => t' = t ∨ t' = (gpu.observe t).2)
      (snapshotBody host.onFst gpu.onSnd clocks) := by
    have hrefl : ∀ t, t = t ∨ t = (gpu.observe t).2 := fun t => .inl rfl
    have hhost {T : Type} (fn : EStateM Exn σ T) (default : T) (fields : List String)
        (reasons : Dict String) :
        Preserves Prod.snd (readCall (Stateful.onFst fn : EStateM Exn (σ × τ) T) default fields
          reasons) := preserves_readCall (preserves_snd_onFst fn) _ _ _
    refine (hhost _ _ _ _).bind_moves hrefl ?_
    rintro ⟨_, _⟩
    refine (Preserves.lift _).bind_moves hrefl fun _ => (hhost _ _ _ _).bind_moves hrefl ?_
    rintro ⟨_, _⟩
    refine (Preserves.lift _).bind_moves hrefl fun _ => (hhost _ _ _ _).bind_moves hrefl ?_
    rintro ⟨_, _⟩
    refine (hhost _ _ _ _).bind_moves hrefl ?_
    rintro ⟨_, _⟩
    refine (Preserves.lift _).bind_moves hrefl fun _ => (hhost _ _ _ _).bind_moves hrefl ?_
    rintro ⟨_, _⟩
    refine (hhost _ _ _ _).bind_moves hrefl ?_
    rintro ⟨_, _⟩
    refine (Preserves.lift _).bind_moves hrefl fun _ => ?_
    -- the sample, and what does not use the readers any more
    refine Moves.bind_preserves ?_ ?_
    · intro u
      refine .inr ?_
      show (outcome (Stateful.onSnd gpu.sample) u).2.2 = _
      rw [outcome_onSnd]
      rfl
    rintro ⟨_, _⟩
    refine (Preserves.lift _).bind ?_
    rintro ⟨_, _⟩
    iterate 10 refine (Preserves.lift _).bind fun _ => ?_
    refine Preserves.get.bind fun _ => ?_
    iterate 2 refine (Preserves.lift _).bind fun _ => ?_
    exact Preserves.pure _
  exact hmoves s

/-! ### Next to another GPU reader -/

section

variable {τ' : Type} (gpu' : GpuReaderObject τ') {P : τ → τ' → Prop}

/-- The host reader in the same state, and the GPU readers in related ones. -/
def SameHost (P : τ → τ' → Prop) (s : σ × τ) (t : σ × τ') : Prop := s.1 = t.1 ∧ P s.2 t.2

theorem alike_onFst {T : Type} (fn : EStateM Exn σ T) :
    Alike (SameHost P) (Stateful.onFst fn) (Stateful.onFst fn) := by
  rintro ⟨s, t⟩ ⟨_, t'⟩ ⟨rfl, hP⟩
  rw [outcome_onFst, outcome_onFst]
  exact ⟨rfl, rfl, hP⟩

theorem alike_readCall {Q : σ → τ → Prop} {T : Type} {fn : EStateM Exn σ T} {fn' : EStateM Exn τ T}
    (h : Alike Q fn fn') (default : T) (fields : List String) (reasons : Dict String) :
    Alike Q (readCall fn default fields reasons) (readCall fn' default fields reasons) := by
  intro s t hst
  obtain ⟨hsame, hnext⟩ := h s t hst
  refine ⟨?_, hnext⟩
  show Except.ok (read (outcome fn s).1 default fields reasons) = _
  rw [hsame]
  rfl

/-- **Two bodies with the same host reader stay in step**, whatever the GPU readers do. -/
theorem lockstep_snapshotBody (hP : ∀ t t', P t t' → P (gpu.observe t).2 (gpu'.observe t').2)
    (clocks : Clocks) :
    Lockstep (SameHost P) (snapshotBody host.onFst gpu.onSnd clocks)
      (snapshotBody host.onFst gpu'.onSnd clocks) := by
  have hhost {T : Type} (fn : EStateM Exn σ T) (default : T) (fields : List String)
      (reasons : Dict String) := alike_readCall (alike_onFst (P := P) fn) default fields reasons
  refine (hhost _ _ _ _).bind ?_
  rintro ⟨_, _⟩
  refine (Alike.lift _).bind fun _ => (hhost _ _ _ _).bind ?_
  rintro ⟨_, _⟩
  refine (Alike.lift _).bind fun _ => (hhost _ _ _ _).bind ?_
  rintro ⟨_, _⟩
  refine (hhost _ _ _ _).bind ?_
  rintro ⟨_, _⟩
  refine (Alike.lift _).bind fun _ => (hhost _ _ _ _).bind ?_
  rintro ⟨_, _⟩
  refine (hhost _ _ _ _).bind ?_
  rintro ⟨_, _⟩
  refine (Alike.lift _).bind fun _ => ?_
  -- the samples, and what does not change the readers any more
  refine Lockstep.bind_preserves ?_ ?_ ?_
  · rintro ⟨s, t⟩ ⟨_, t'⟩ ⟨rfl, hstates⟩
    refine ⟨?_, ?_⟩
    · show (outcome (Stateful.onSnd gpu.sample) (s, t)).2.1 =
        (outcome (Stateful.onSnd gpu'.sample) (s, t')).2.1
      rw [outcome_onSnd, outcome_onSnd]
    · show P (outcome (Stateful.onSnd gpu.sample) (s, t)).2.2
        (outcome (Stateful.onSnd gpu'.sample) (s, t')).2.2
      rw [outcome_onSnd, outcome_onSnd]
      exact hP t t' hstates
  all_goals
    rintro ⟨_, _⟩
    refine (Preserves.lift _).bind ?_
    rintro ⟨_, _⟩
    iterate 10 refine (Preserves.lift _).bind fun _ => ?_
    refine Preserves.get.bind fun _ => ?_
    iterate 2 refine (Preserves.lift _).bind fun _ => ?_
    exact Preserves.pure _

end

end

end SweatMeter
