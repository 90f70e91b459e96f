/-
  Fault isolation of `snapshot`, as a statement about two runs.

  The runs differ at one place: a host operation, `gpu.sample()` or one of its
  rows.  The rest of the two snapshots agrees when both runs hand back values
  that normalization tolerates (`Tolerated`), or neither does; normalization runs
  outside the guard of the single reads, so that one intolerable value discards
  the whole snapshot (`snapshot_isolated_iff`).
-/
import SweatMeter.WellFormed

namespace SweatMeter

open Py

/-- The operations of a host reader that `snapshot` calls. -/
inductive HostOp where
  | cpuPercent
  | loadAverage1m
  | memory
  | cpuTemperature
  | diskThroughput
  | processRssBytes
  deriving DecidableEq

/-- The operation that feeds a live field. -/
def HostField.op : HostField → HostOp
  | cpuPercent => .cpuPercent
  | loadAverage1m => .loadAverage1m
  | ramUsedBytes | ramAvailableBytes | ramTotalBytes => .memory
  | cpuTemperatureC => .cpuTemperature
  | diskReadBytesPerSec | diskWriteBytesPerSec => .diskThroughput
  | processRssBytes => .processRssBytes

/-- The readers behave alike in this operation. -/
def HostReader.SameOp (h h' : HostReader) : HostOp → Prop
  | .cpuPercent => h.cpuPercent = h'.cpuPercent
  | .loadAverage1m => h.loadAverage1m = h'.loadAverage1m
  | .memory => h.memory = h'.memory
  | .cpuTemperature => h.cpuTemperature = h'.cpuTemperature
  | .diskThroughput => h.diskThroughput = h'.diskThroughput
  | .processRssBytes => h.processRssBytes = h'.processRssBytes

/-- Where two runs may differ. -/
inductive Place where
  | host (op : HostOp)
  | sample
  | row (position : ℕ)
  deriving DecidableEq

/-- The runs behave alike except at this place. -/
structure DifferAt (p : Place) (b b' : Boundary) : Prop where
  clocks : b.clocks = b'.clocks
  host : ∀ op, p ≠ .host op → b.host.SameOp b'.host op
  hostReasons : b.host.unavailableReasons = b'.host.unavailableReasons
  sample : ∀ op, p = .host op → b.gpu.sample = b'.gpu.sample
  row : ∀ k, p = .row k → ∃ before v v' after, before.length = k ∧
    b.gpu.sample = .ok (before ++ v :: after) ∧ b'.gpu.sample = .ok (before ++ v' :: after)
  gpuReasons : b.gpu.unavailableReasons = b'.gpu.unavailableReasons

/-- The indices of the changed rows. -/
def Changed (p : Place) (b b' : Boundary) (i : ℤ) : Prop :=
  match p with
  | .host _ => False
  | .sample => True
  | .row k => b.gpu.rows[k]?.bind rowIndex = some i ∨ b'.gpu.rows[k]?.bind rowIndex = some i

/-- The snapshots agree on everything but what `p` feeds. -/
structure Isolated (p : Place) (changed : ℤ → Prop) (x x' : TelemetrySnapshot Number) : Prop where
  timestamp : x.timestamp = x'.timestamp
  host : ∀ f, p ≠ .host f.op → x.host f = x'.host f
  gpus : ∀ s, ¬ changed s.index → (s ∈ x.gpus ↔ s ∈ x'.gpus)

/-- There is nothing to report but what `p` feeds, at the emergency timestamp. -/
structure NothingElse (p : Place) (changed : ℤ → Prop) (b : Boundary) : Prop where
  timestamp :
    (timestampOf b.clocks ∅).1 = fallbackTimestamp b.clocks.localToUtc b.clocks.utcNowEmergency
  host : ∀ f, p ≠ .host f.op → b.host.measurement f = .ok none
  gpus : ∀ v ∈ b.gpu.rows, ∀ i, rowIndex v = some i → changed i

/-! ## What a run returns -/

theorem collected_of_tolerated (c : TelemetryCollector) {b : Boundary} (h : Tolerated b) :
    Collected b (c.snapshot b).1 := by
  obtain ⟨x, hx⟩ := returns_collect.2 h
  have : (c.snapshot b).1 = x := by simp [TelemetryCollector.snapshot, hx]
  rw [this]; exact collect_ok hx

theorem emergency_of_not_tolerated (c : TelemetryCollector) {b : Boundary} (h : ¬ Tolerated b) :
    (c.snapshot b).1 = emergencySnapshot b.clocks := by
  cases hx : collect b with
  | ok x => exact absurd (returns_collect.1 ⟨x, hx⟩) h
  | error e => simp [TelemetryCollector.snapshot, hx]

/-- The rows of a snapshot. -/
theorem Collected.mem_gpus {b : Boundary} {x : TelemetrySnapshot Number} (h : Collected b x)
    (s : GpuSample Number) :
    s ∈ x.gpus ↔ ∃ row, owner s.index b.gpu.rows = some row ∧ RowOf s.index row s := by
  obtain ⟨n, hn, hgpus⟩ := h.gpus
  rw [hgpus, List.mem_insertionSort, hn.mem s]
  simp

/-! ## Two tolerated runs -/

theorem HostReader.value_congr {h h' : HostReader} {f : HostField} (hop : h.SameOp h' f.op) :
    h.value f = h'.value f := by
  cases f <;> simp only [HostField.op, SameOp] at hop <;> simp only [value, hop]

theorem owner_append (i : ℤ) (vs ws : List (Option GpuRow)) :
    owner i (vs ++ ws) = (owner i vs).or (owner i ws) := by
  simp [owner, List.findSome?_append]

theorem owner_congr {p : Place} {b b' : Boundary} (h : DifferAt p b b') {i : ℤ}
    (hi : ¬ Changed p b b' i) : owner i b.gpu.rows = owner i b'.gpu.rows := by
  cases p with
  | host op => rw [GpuReader.rows, GpuReader.rows, h.sample op rfl]
  | sample => exact absurd trivial hi
  | row k =>
    obtain ⟨before, v, v', after, rfl, hb, hb'⟩ := h.row k rfl
    simp only [Changed, GpuReader.rows, hb, hb', readValue] at hi ⊢
    simp only [List.getElem?_append_right le_rfl, Nat.sub_self, List.getElem?_cons_zero,
      Option.bind_some, not_or] at hi
    rw [owner_append, owner_append, owner_cons_of_ne hi.1, owner_cons_of_ne hi.2]

theorem DifferAt.isolated {p : Place} {b b' : Boundary} (h : DifferAt p b b')
    {x x' : TelemetrySnapshot Number} (hx : Collected b x) (hx' : Collected b' x') :
    Isolated p (Changed p b b') x x' where
  timestamp := by rw [hx.timestamp, hx'.timestamp, h.clocks]
  host f hf := by
    have hv : b.host.measurement f = b'.host.measurement f := by
      rw [HostReader.measurement, HostReader.value_congr (h.host f.op hf)]; rfl
    exact Except.ok.inj ((hx.host f).symm.trans (hv.trans (hx'.host f)))
  gpus s hs := by rw [hx.mem_gpus, hx'.mem_gpus, owner_congr h hs]

/-! ## One tolerated run -/

theorem owner_isSome {i : ℤ} {vs : List (Option GpuRow)} {v : Option GpuRow} (hv : v ∈ vs)
    (hi : rowIndex v = some i) : ∃ row, owner i vs = some row := by
  obtain ⟨row, rfl, -⟩ := Option.bind_eq_some_iff.1 hi
  exact Option.isSome_iff_exists.1 (List.findSome?_isSome_iff.2 ⟨_, hv, by rw [if_pos hi]; rfl⟩)

theorem isolated_emergency_iff {p : Place} {changed : ℤ → Prop} {b : Boundary}
    (hb : Tolerated b) {x : TelemetrySnapshot Number} (hx : Collected b x) :
    Isolated p changed x (emergencySnapshot b.clocks) ↔ NothingElse p changed b := by
  constructor
  · intro h
    refine ⟨hx.timestamp.symm.trans h.timestamp, ?_, ?_⟩
    · intro f hf
      rw [hx.host f, h.host f hf]; rfl
    · intro v hv i hi
      by_contra hc
      obtain ⟨row, hrow⟩ := owner_isSome hv hi
      obtain ⟨s, hs⟩ := exists_rowOf.2 (hb.gpus.owner i row hrow)
      have hsi := hs.index
      subst hsi
      exact List.not_mem_nil ((h.gpus s hc).1 ((hx.mem_gpus s).2 ⟨row, hrow, hs⟩))
  · intro h
    refine ⟨hx.timestamp.trans h.timestamp, ?_, fun s hs => ⟨?_, ?_⟩⟩
    · intro f hf
      exact Except.ok.inj ((hx.host f).symm.trans (h.host f hf))
    · intro hmem
      obtain ⟨row, hrow, -⟩ := (hx.mem_gpus s).1 hmem
      obtain ⟨hv, hi⟩ := owner_eq_some hrow
      exact absurd (h.gpus _ hv _ hi) hs
    · intro hmem
      cases hmem

theorem Isolated.symm {p : Place} {changed : ℤ → Prop} {x x' : TelemetrySnapshot Number}
    (h : Isolated p changed x x') : Isolated p changed x' x :=
  ⟨h.timestamp.symm, fun f hf => (h.host f hf).symm, fun s hs => (h.gpus s hs).symm⟩

/-- **Field-level fault isolation.**  A change at one place leaves the rest of the
    snapshot alone exactly if normalization tolerates both runs or neither, or
    the run it tolerates has nothing else to report. -/
theorem snapshot_isolated_iff (c c' : TelemetryCollector) {p : Place} {b b' : Boundary}
    (h : DifferAt p b b') :
    Isolated p (Changed p b b') (c.snapshot b).1 (c'.snapshot b').1 ↔
      (Tolerated b ↔ Tolerated b') ∨
        Tolerated b ∧ NothingElse p (Changed p b b') b ∨
          Tolerated b' ∧ NothingElse p (Changed p b b') b' := by
  by_cases hb : Tolerated b <;> by_cases hb' : Tolerated b'
  · have := h.isolated (collected_of_tolerated c hb) (collected_of_tolerated c' hb')
    simp [hb, hb', this]
  · rw [emergency_of_not_tolerated c' hb', ← h.clocks,
      isolated_emergency_iff hb (collected_of_tolerated c hb)]
    simp [hb, hb']
  · have : Isolated p (Changed p b b') _ _ ↔ _ :=
      isolated_emergency_iff hb' (collected_of_tolerated c' hb')
    rw [emergency_of_not_tolerated c hb, h.clocks]
    simp only [hb, hb', false_and, false_or, true_and, iff_true]
    exact ⟨fun h => this.1 h.symm, fun h => (this.2 h).symm⟩
  · rw [emergency_of_not_tolerated c hb, emergency_of_not_tolerated c' hb', h.clocks]
    have : Isolated p (Changed p b b') (emergencySnapshot b'.clocks) (emergencySnapshot b'.clocks) :=
      ⟨rfl, fun _ _ => rfl, fun _ _ => Iff.rfl⟩
    simp [hb, hb', this]

/-! ## A huge processor reading -/

/-- A boundary with this processor reading, a load average of one and no GPU. -/
def cpuBoundary (cpu : Except Exn Obj) : Boundary where
  clocks := {
    clock := .ok (some fallbackInstant)
    utcNow := .ok (some fallbackInstant)
    utcNowEmergency := .ok (some fallbackInstant)
    localToUtc := .ok }
  host := {
    cpuPercent := cpu
    loadAverage1m := .ok (.num (.int 1))
    memory := .ok (some emptyMemory)
    cpuTemperature := .ok .unsupported
    diskThroughput := .ok (some emptyDisk)
    processRssBytes := .ok .unsupported
    unavailableReasons := .absent }
  gpu := { sample := .ok [], unavailableReasons := .absent }

theorem differAt_cpuBoundary (cpu cpu' : Except Exn Obj) :
    DifferAt (.host .cpuPercent) (cpuBoundary cpu) (cpuBoundary cpu') where
  clocks := rfl
  host op hop := by cases op <;> first | exact absurd rfl hop | rfl
  hostReasons := rfl
  sample _ _ := rfl
  row k hk := by cases hk
  gpuReasons := rfl

theorem tolerated_cpuBoundary (cpu : Except Exn Obj) :
    Tolerated (cpuBoundary cpu) ↔ Fits (readValue cpu .unsupported) := by
  constructor
  · intro h
    obtain ⟨v, hv, hfit⟩ := h.host .cpuPercent
    cases hv; exact hfit
  · intro h
    refine ⟨?_, ⟨fun _ hmem => (by cases hmem), fun i row ho => (by cases ho)⟩, ?_, ?_⟩
    · intro f
      cases f
      · exact ⟨_, rfl, h⟩
      · exact ⟨_, rfl, (by decide +kernel : (1 : ℤ).natAbs < doubleLimit)⟩
      all_goals exact ⟨_, rfl, trivial⟩
    · rintro _ ⟨⟩
    · rintro _ ⟨⟩

/-- A raising processor reading leaves the other fields alone. -/
theorem snapshot_isolated_cpu :
    Isolated (.host .cpuPercent)
      (Changed (.host .cpuPercent) (cpuBoundary (.ok (.num (.int 50))))
        (cpuBoundary (.error ⟨"OSError"⟩)))
      ((TelemetryCollector.mk ∅).snapshot (cpuBoundary (.ok (.num (.int 50))))).1
      ((TelemetryCollector.mk ∅).snapshot (cpuBoundary (.error ⟨"OSError"⟩))).1 := by
  refine (snapshot_isolated_iff _ _ (differAt_cpuBoundary _ _)).2 (.inl (iff_of_true ?_ ?_))
  · exact (tolerated_cpuBoundary _).2 (by decide +kernel : (50 : ℤ).natAbs < doubleLimit)
  · exact (tolerated_cpuBoundary _).2 trivial

/-- A processor reading too large for a double discards the load average. -/
theorem snapshot_discarded :
    ¬ ∀ (c c' : TelemetryCollector) (p : Place) (b b' : Boundary), DifferAt p b b' →
      Isolated p (Changed p b b') (c.snapshot b).1 (c'.snapshot b').1 := by
  intro h
  have hb : Tolerated (cpuBoundary (.ok (.num (.int 50)))) :=
    (tolerated_cpuBoundary _).2 (by decide +kernel : (50 : ℤ).natAbs < doubleLimit)
  have hb' : ¬ Tolerated (cpuBoundary (.ok (.num (.int (10 ^ 400))))) := fun h' =>
    (by decide +kernel : ¬ (10 ^ 400 : ℤ).natAbs < doubleLimit) ((tolerated_cpuBoundary _).1 h')
  have hdiff := differAt_cpuBoundary (.ok (.num (.int 50))) (.ok (.num (.int (10 ^ 400))))
  have hload := (h ⟨∅⟩ ⟨∅⟩ _ _ _ hdiff).host .loadAverage1m (by decide)
  rw [emergency_of_not_tolerated _ hb'] at hload
  have hone : (cpuBoundary (.ok (.num (.int 50)))).host.measurement .loadAverage1m =
      .ok (some (.int 1)) := by decide +kernel
  rw [(collected_of_tolerated ⟨∅⟩ hb).host .loadAverage1m, hload] at hone
  cases hone

end SweatMeter
