/-
  A collector on a Linux machine, over any sequence of its calls.

  The n-th snapshot shows what the files said at the n-th call of each operation: the
  current figures as they are, and the rates against the last counters that could be
  read, whatever calls, of profiles or of the GPUs, there were in between.  Every
  figure of the reader is within the range that the collector checks, so none of them
  is dropped or altered; one that is too large for a double costs the whole snapshot
  (`linux_session`).
-/
import SweatMeter.LinuxReader
import SweatMeter.Platform
import SweatMeter.Replay

namespace SweatMeter

open Py Py.Stateful

namespace LinuxHostReader

variable (met : HostOperation → ℕ → Machine) (devices : Option (List Text))

/-! ## The figures -/

/-- The figure of a field in the n-th snapshot. -/
def value (n : ℕ) : HostField → Measurement Number
  | .cpuPercent => ofFloat (cpuAt met n).toOption.join
  | .loadAverage1m => ofFloat (met .loadAverage1m n).loadAverage1m
  | .ramUsedBytes => (met .memory n).memory.usedBytes
  | .ramAvailableBytes => (met .memory n).memory.availableBytes
  | .ramTotalBytes => (met .memory n).memory.totalBytes
  | .cpuTemperatureC => ofFloat (temperatureAt met n)
  | .diskReadBytesPerSec => (diskAt met devices n).toOption.bind (·.readBytesPerSec)
  | .diskWriteBytesPerSec => (diskAt met devices n).toOption.bind (·.writeBytesPerSec)
  | .processRssBytes => ofInt (met .processRssBytes n).processRssBytes

/-- The operation of a field raises, because a difference does not fit a double. -/
def raises (n : ℕ) : HostField → Bool
  | .cpuPercent => !(cpuAt met n).isOk
  | .diskReadBytesPerSec | .diskWriteBytesPerSec => !(diskAt met devices n).isOk
  | _ => false

/-- The reason under a field in the n-th snapshot. -/
def reason (n : ℕ) (f : HostField) : Option String :=
  if raises met devices n f then some "reader_error"
  else if value met devices n f = none then some "sensor_unsupported"
  else none

/-- The n-th snapshot: the figures as the reader has them, and exact reasons. -/
structure Shows (n : ℕ) (x : TelemetrySnapshot Number) : Prop where
  value : ∀ f, x.host f = value met devices n f
  reason : ∀ f, x.unavailableReasons[f.name]? = reason met devices n f

variable {met devices} {n : ℕ}

theorem ofFloat_eq_some {x : Measurement ℚ} {v : Number} :
    ofFloat x = some v ↔ ∃ q, x = some q ∧ v = .float (.finite q) := by
  simp [ofFloat, eq_comm]

theorem ofInt_eq_some {x : Measurement ℤ} {v : Number} :
    ofInt x = some v ↔ ∃ k, x = some k ∧ v = .int k := by
  simp [ofInt, eq_comm]

theorem fits_ofFloat (x : Measurement ℚ) : Fits (measured (ofFloat x)) := by
  cases x <;> trivial

theorem toOption_eq_some {T : Type} {x : Except Exn T} {v : T} :
    x.toOption = some v ↔ x = .ok v := by
  cases x <;> simp [Except.toOption]

/-! ## Ranges -/

theorem cpuAt_bounds {q : ℚ} (h : cpuAt met n = .ok (some q)) : 0 ≤ q ∧ q ≤ 100 := by
  unfold cpuAt cpuPercent at h
  split at h
  · cases h
  · unfold cpuResult at h
    split at h
    · simp only [cpuDelta] at h
      split_ifs at h
      · cases h
      · cases h
        exact ⟨le_min (by norm_num) (le_max_left _ _), min_le_left _ _⟩
    · cases h

theorem parseLoadavg_nonneg {text : Text} {q : ℚ} (h : parseLoadavg text = some q) : 0 ≤ q := by
  unfold parseLoadavg at h
  split at h
  · cases h
  · split at h
    · split_ifs at h with hload
      cases h
      exact hload
    · cases h

theorem parseRss_nonneg {text : Text} {k : ℤ} (h : parseRss text = some k) : 0 ≤ k := by
  obtain ⟨line, -, hline⟩ := List.exists_of_findSome?_eq_some (Option.join_eq_some_iff.1 h)
  unfold rssLine at hline
  split at hline
  · cases hline
  · split_ifs at hline
    split at hline
    · split_ifs at hline
      · cases hline
      · split at hline
        · cases hline
        · split_ifs at hline with hrss
          · cases hline
            omega
          · cases hline
    · cases hline

theorem memory_nonneg (m : Machine) : (∀ k ∈ m.memoryFigures.totalBytes, 0 ≤ k) ∧
    (∀ k ∈ m.memoryFigures.availableBytes, 0 ≤ k) ∧ ∀ k ∈ m.memoryFigures.usedBytes, 0 ≤ k := by
  unfold Machine.memoryFigures parsedOr
  cases m.proc .meminfo with
  | error e => simp
  | ok text =>
    have hfigures : Consistent (parseMeminfo text) := consistent_memoryOf fun _ _ => wholeKib_values
    exact ⟨fun k hk => (hfigures.total k hk).1, fun k hk => (hfigures.available k hk).1,
      fun k hk => (hfigures.used k hk).1⟩

theorem diskRate_nonneg {previous current : ℕ} {elapsed : ℚ} {x : Number} (helapsed : 0 < elapsed)
    (h : diskRate previous current elapsed = .ok (some x)) : ∃ q, x = .float (.finite q) ∧ 0 ≤ q := by
  unfold diskRate at h
  split_ifs at h
  · cases h
  · cases h
    exact ⟨_, rfl, div_nonneg (Nat.cast_nonneg _) helapsed.le⟩

theorem diskRates_nonneg {baseline : Option (ℚ × (Direction → ℕ))} {now : ℚ}
    {parsed : Direction → ℕ} {d : DiskThroughput (Measurement Number)}
    (h : diskRates baseline now parsed = .ok d) :
    (∀ x, d.readBytesPerSec = some x → ∃ q, x = .float (.finite q) ∧ 0 ≤ q) ∧
      ∀ x, d.writeBytesPerSec = some x → ∃ q, x = .float (.finite q) ∧ 0 ≤ q := by
  unfold diskRates at h
  split at h
  · cases h
    simp [unsupportedThroughput]
  · split_ifs at h with helapsed
    · cases h
      simp [unsupportedThroughput]
    · obtain ⟨readRate, hread, h⟩ := bind_eq_ok.1 h
      obtain ⟨writeRate, hwrite, h⟩ := bind_eq_ok.1 h
      cases pure_eq_ok.1 h
      rw [not_le] at helapsed
      constructor
      · rintro x rfl
        exact diskRate_nonneg helapsed hread
      · rintro x rfl
        exact diskRate_nonneg helapsed hwrite

theorem diskAt_nonneg {d : DiskThroughput (Measurement Number)} (h : diskAt met devices n = .ok d) :
    (∀ x, d.readBytesPerSec = some x → ∃ q, x = .float (.finite q) ∧ 0 ≤ q) ∧
      ∀ x, d.writeBytesPerSec = some x → ∃ q, x = .float (.finite q) ∧ 0 ≤ q := by
  unfold diskAt LinuxHostReader.diskThroughput at h
  split at h
  · split at h
    · cases h
    · exact diskRates_nonneg h
    · cases h
      simp [unsupportedThroughput]
  · cases h
    simp [unsupportedThroughput]

/-- **The reader stays within the range of each field.** -/
theorem value_within {f : HostField} {x : Number} (h : value met devices n f = some x) :
    ∃ q, x.toRat = some q ∧ f.minimum ≤ q ∧ ∀ m ∈ f.maximum, q ≤ m := by
  have hint {k : ℤ} (hk : 0 ≤ k) : ((.int k : Number)).toRat = some (k : ℚ) ∧ (0 : ℚ) ≤ k :=
    ⟨rfl, by exact_mod_cast hk⟩
  obtain ⟨htotal, havailable, hused⟩ := memory_nonneg (met .memory n)
  cases f with
  | cpuPercent =>
    obtain ⟨q, hq, rfl⟩ := ofFloat_eq_some.1 h
    have hok : cpuAt met n = .ok (some q) := by
      cases hcpu : cpuAt met n with
      | error e => rw [hcpu] at hq; cases hq
      | ok m => rw [hcpu] at hq; exact congrArg _ hq
    obtain ⟨hlo, hhi⟩ := cpuAt_bounds hok
    exact ⟨q, rfl, hlo, fun m hm => by cases hm; exact hhi⟩
  | loadAverage1m =>
    obtain ⟨q, hq, rfl⟩ := ofFloat_eq_some.1 h
    unfold Machine.loadAverage1m parsedOr at hq
    split at hq
    · exact ⟨q, rfl, parseLoadavg_nonneg hq, by rintro m ⟨⟩⟩
    · cases hq
  | ramUsedBytes =>
    obtain ⟨k, hk, rfl⟩ := ofInt_eq_some.1 h
    exact ⟨k, rfl, (hint (hused k hk)).2, by rintro m ⟨⟩⟩
  | ramAvailableBytes =>
    obtain ⟨k, hk, rfl⟩ := ofInt_eq_some.1 h
    exact ⟨k, rfl, (hint (havailable k hk)).2, by rintro m ⟨⟩⟩
  | ramTotalBytes =>
    obtain ⟨k, hk, rfl⟩ := ofInt_eq_some.1 h
    exact ⟨k, rfl, (hint (htotal k hk)).2, by rintro m ⟨⟩⟩
  | cpuTemperatureC =>
    obtain ⟨q, hq, rfl⟩ := ofFloat_eq_some.1 h
    obtain ⟨path, -, hvalid, -⟩ := SysFiles.cpuTemperature_fst_eq_some hq
    exact ⟨q, rfl, (SysFiles.millidegrees_bounds hvalid).1, by rintro m ⟨⟩⟩
  | diskReadBytesPerSec =>
    obtain ⟨d, hd, hx⟩ := Option.bind_eq_some_iff.1 h
    obtain ⟨q, rfl, hq⟩ := (diskAt_nonneg (toOption_eq_some.1 hd)).1 x hx
    exact ⟨q, rfl, hq, by rintro m ⟨⟩⟩
  | diskWriteBytesPerSec =>
    obtain ⟨d, hd, hx⟩ := Option.bind_eq_some_iff.1 h
    obtain ⟨q, rfl, hq⟩ := (diskAt_nonneg (toOption_eq_some.1 hd)).2 x hx
    exact ⟨q, rfl, hq, by rintro m ⟨⟩⟩
  | processRssBytes =>
    obtain ⟨k, hk, rfl⟩ := ofInt_eq_some.1 h
    unfold Machine.processRssBytes parsedOr at hk
    split at hk
    · exact ⟨k, rfl, (hint (parseRss_nonneg hk)).2, by rintro m ⟨⟩⟩
    · cases hk

/-! ## One snapshot -/

theorem value_hostAt (f : HostField) :
    (hostAt met devices n).value f = .ok (measured (value met devices n f)) := by
  cases f with
  | cpuPercent =>
    simp only [HostReader.value, hostAt, value]
    cases cpuAt met n <;> rfl
  | diskReadBytesPerSec =>
    simp only [HostReader.value, hostAt, value]
    cases diskAt met devices n <;> rfl
  | diskWriteBytesPerSec =>
    simp only [HostReader.value, hostAt, value]
    cases diskAt met devices n <;> rfl
  | _ => rfl

/-- The reads of a snapshot note the operations that raise. -/
theorem note_hostAt (clocks : Clocks) (gpu : GpuReader) (f : HostField) :
    (boundaryNotes ⟨clocks, hostAt met devices n, gpu⟩)[f.name]? =
      if raises met devices n f then some "reader_error" else none := by
  have hclock : (timestampOf clocks ∅).2[f.name]? = none := by
    refine Std.ExtTreeMap.getElem?_eq_none ?_
    intro hmem
    rcases mem_timestampOf hmem with hmem | hmem
    · simp at hmem
    · cases f <;> exact absurd hmem (by decide)
  have hread {T : Type} (x : Except Exn T) (fields : List String) (r : Dict String) :
      (readNote x fields r)[f.name]? =
        if x.isOk = false ∧ f.name ∈ fields then some "reader_error" else r[f.name]? := by
    rw [getElem?_readNote]
    cases x <;> simp [Except.isOk, Except.toBool]
  have hdisk (x : Except Exn (DiskThroughput (Measurement Number))) (r : Dict String) :
      malformedNote (readValue (x.map fun d => some d.attributes) (some emptyDisk)) diskFields r =
        r := by
    cases x <;> rfl
  have hmemory (m : MemoryReading (Except Exn Obj)) (r : Dict String) :
      malformedNote (readValue (.ok (some m)) (some emptyMemory)) memoryFields r = r := rfl
  have hmap {T U : Type} (x : Except Exn T) (g : T → U) : (x.map g).isOk = x.isOk := by
    cases x <;> rfl
  have hok {T : Type} (v : T) : (.ok v : Except Exn T).isOk = true := rfl
  have hgpu : f.name ∉ ["gpu"] := fun h => not_isGpuKey_name f (.inl (List.mem_singleton.1 h))
  simp only [boundaryNotes, hostAt, hread, hdisk, hmemory, hmap, hok, hgpu, hclock, raises]
  cases f <;> simp [HostField.name, diskFields]

variable (met devices n)

/-- The figures of the n-th snapshot are all within the range of a double. -/
def Representable : Prop := ∀ f, Fits (measured (value met devices n f))

variable {met devices n}

theorem tolerated_hostAt (clocks : Clocks) {gpu : GpuReader} (hrows : RowsNormalizable gpu.rows)
    (hreasons : gpu.unavailableReasons.Unpacks) :
    Tolerated ⟨clocks, hostAt met devices n, gpu⟩ ↔ Representable met devices n := by
  constructor
  · intro h f
    obtain ⟨v, hv, hfits⟩ := h.host f
    cases (value_hostAt f).symm.trans hv
    exact hfits
  · intro h
    exact ⟨fun f => ⟨_, value_hostAt f, h f⟩, hrows, by rintro items ⟨⟩, hreasons⟩

/-- A snapshot that is collected shows the figures. -/
theorem shows_of_collect {clocks : Clocks} {gpu : GpuReader} {x : TelemetrySnapshot Number}
    (hgpu : ∀ reasons, readerReasons gpu.unavailableReasons = .ok reasons →
      ∀ p ∈ reasons, IsGpuKey p.1)
    (hfits : Representable met devices n)
    (h : collect ⟨clocks, hostAt met devices n, gpu⟩ = .ok x) : Shows met devices n x := by
  have hvalue (f : HostField) : x.host f = value met devices n f := by
    have hf := (collect_ok h).host f
    rw [HostReader.measurement, value_hostAt, ok_bind,
      Script.number_measured (fun y hy => value_within hy) (hfits f)] at hf
    exact (Except.ok.inj hf).symm
  refine ⟨hvalue, ?_⟩
  intro f
  have hreason := collect_host_reason h rfl hgpu f
  rw [note_hostAt, hvalue] at hreason
  rw [hreason, reason]
  cases raises met devices n f <;> simp

/-! ## The session -/

variable {τ F : Type} {gpu : GpuReaderObject τ}

/-- What the n-th snapshot is: the figures, or nothing at all if one is too large. -/
structure SnapshotAt (met : HostOperation → ℕ → Machine) (devices : Option (List Text)) (n : ℕ)
    (x : TelemetrySnapshot Number) : Prop where
  shows : Representable met devices n → Shows met devices n x
  emergency : ¬ Representable met devices n →
    (∀ f, x.host f = none) ∧ x.gpus = [] ∧ x.reasons = [("snapshot", "collector_error")]

variable (met devices) (storageDevice : StorageDevice → Except Exn Unit)

/-- One snapshot, and the reader after it. -/
theorem snapshotAt_snapshot (hgpu : gpu.Plain) {t : Session (LinuxState × τ)} {i j : ℕ}
    (h : t.state.1 = stateAt met devices (callsMade i j)) (clocks : Clocks) :
    SnapshotAt met devices i (t.snapshot (reader met storageDevice).onFst gpu.onSnd clocks).1 ∧
      (t.snapshot (reader met storageDevice).onFst gpu.onSnd clocks).2.state.1 =
        stateAt met devices (callsMade (i + 1) j) := by
  have hobserve : (reader met storageDevice).observe t.state.1 =
      (hostAt met devices i, stateAt met devices (callsMade (i + 1) j)) := by
    rw [h, observe_reader]
  obtain ⟨reasons, hreasons, hkeys⟩ := hgpu.reasons t.state.2
  have htolerated := @tolerated_hostAt met devices i clocks _ (hgpu.rows t.state.2)
    (returns_readerReasons.1 ⟨reasons, hreasons⟩)
  constructor
  · rw [Session.snapshot_fst, observe_pair, hobserve]
    constructor
    · intro hfits
      obtain ⟨x, hx⟩ := returns_collect.2 (htolerated.2 hfits)
      rw [TelemetryCollector.snapshot, hx]
      refine shows_of_collect ?_ hfits hx
      intro reasons' hreasons'
      cases hreasons.symm.trans hreasons'
      exact hkeys
    · intro hnot
      rw [emergency_of_not_tolerated _ (htolerated.not.2 hnot)]
      exact ⟨fun _ => rfl, rfl, rfl⟩
  · rw [Session.snapshot_state_eq, snapshotBody_fst, hobserve]
    all_goals
      rw [hobserve]
      simp only [hostAt]
    · cases cpuAt met i with
      | ok m => exact fits_ofFloat m
      | error e => trivial
    · exact fits_ofFloat _
    · exact fits_ofFloat _

theorem snapshots_run (hgpu : gpu.Plain) (core : BaseAiCore F) (calls : List CollectorCall) {i j : ℕ}
    {t : Session (LinuxState × τ)} (h : t.state.1 = stateAt met devices (callsMade i j)) :
    ∀ k x, (snapshots (t.run (reader met storageDevice).onFst gpu.onSnd core calls))[k]? = some x →
      SnapshotAt met devices (i + k) x := by
  induction calls generalizing i j t with
  | nil => rintro k x ⟨⟩
  | cons call calls ih =>
    cases call with
    | snapshot clocks =>
      obtain ⟨hshows, hstate⟩ := snapshotAt_snapshot met devices storageDevice hgpu h clocks
      show ∀ k x, (_ :: snapshots _)[k]? = some x → _
      rw [forall_getElem?_cons]
      exact ⟨hshows, ih hstate⟩
    | machineProfile clocks =>
      refine ih (j := j + 1) ?_
      show (t.machineProfile _ _ core clocks).2.state.1 = _
      rw [Session.machineProfile_eq, observeProfile_pair, h, outcome_staticFacts]

theorem fresh_eq : fresh devices = stateAt met devices (callsMade 0 0) := by
  have hcalls : (fun _ => 0) = callsMade 0 0 := by
    funext op
    cases op <;> rfl
  rw [fresh, hcalls]
  rfl

/-- **A Linux machine over a session.**  Whatever calls of `machine_profile` and of the GPU
    reader come in between, the n-th snapshot shows the figures that the n-th calls of the
    operations read, unchanged and with exact reasons, if they are within the range of a
    double; and nothing at all if they are not. -/
theorem linux_session (hgpu : gpu.Plain) (core : BaseAiCore F) (t : τ)
    (calls : List CollectorCall) (n : ℕ) (x : TelemetrySnapshot Number)
    (h : (snapshots (Session.run (reader met storageDevice).onFst gpu.onSnd core
      { state := (fresh devices, t) } calls))[n]? = some x) :
    (Representable met devices n → Shows met devices n x) ∧
      (¬ Representable met devices n → (∀ f, x.host f = none) ∧ x.gpus = [] ∧
        x.reasons = [("snapshot", "collector_error")]) := by
  have hrun := snapshots_run met devices storageDevice hgpu core calls
    (t := { state := (fresh devices, t) }) (fresh_eq met devices) n x h
  rw [Nat.zero_add] at hrun
  exact ⟨hrun.shows, hrun.emergency⟩

/-- A machine that tells its load and its memory. -/
def loadedMachine : Machine where
  proc
    | .loadavg => .ok "0.50 0.40 0.30 1/99 4242\n".toList
    | .meminfo => .ok "MemTotal: 8 kB\nMemAvailable: 2 kB\n".toList
    | _ => .error ⟨"FileNotFoundError"⟩
  sys := ⟨fun _ => .error ⟨"OSError"⟩, fun _ => .error ⟨"OSError"⟩⟩
  clock := .error ⟨"OSError"⟩
  reports _ := .error ⟨"OSError"⟩

/-- It is shown after a profile as well. -/
theorem linux_session_loaded :
    ∃ x, (snapshots (Session.run (reader (fun _ _ => loadedMachine) fun _ => .ok ()).onFst
        (NullGpuReader.reader ⟨"none", by decide⟩).onSnd accepting { state := (fresh none, ()) }
        [.machineProfile silentHost.clocks, .snapshot silentHost.clocks]))[0]? = some x ∧
      x.host .ramUsedBytes = some (.int 6144) ∧ x.unavailableReasons["ram_used_bytes"]? = none ∧
      x.unavailableReasons["cpu_percent"]? = some "sensor_unsupported" := by
  obtain ⟨x, hx⟩ : ∃ x, (snapshots (Session.run
      (reader (fun _ _ => loadedMachine) fun _ => .ok ()).onFst
      (NullGpuReader.reader ⟨"none", by decide⟩).onSnd accepting { state := (fresh none, ()) }
      [.machineProfile silentHost.clocks, .snapshot silentHost.clocks]))[0]? = some x := ⟨_, rfl⟩
  have hused : value (fun _ _ => loadedMachine) none 0 .ramUsedBytes = some (.int 6144) := by
    decide +kernel
  have htotal : value (fun _ _ => loadedMachine) none 0 .ramTotalBytes = some (.int 8192) := by
    decide +kernel
  have havailable : value (fun _ _ => loadedMachine) none 0 .ramAvailableBytes =
      some (.int 2048) := by
    decide +kernel
  have hlimit {k : ℤ} (h : k.natAbs < 10000) : Fits (.num (.int k)) := by
    have : 10000 ≤ doubleLimit := by decide +kernel
    exact h.trans_le this
  have hfits : Representable (fun _ _ => loadedMachine) none 0 := by
    intro f
    cases f with
    | ramUsedBytes => rw [hused]; exact hlimit (by decide)
    | ramTotalBytes => rw [htotal]; exact hlimit (by decide)
    | ramAvailableBytes => rw [havailable]; exact hlimit (by decide)
    | loadAverage1m => exact fits_ofFloat _
    | _ => trivial
  obtain ⟨hvalue, hreason⟩ := (linux_session (fun _ _ => loadedMachine) none (fun _ => .ok ())
    (NullGpuReader.plain ⟨"none", by decide⟩) accepting () _ 0 x hx).1 hfits
  refine ⟨x, hx, (hvalue .ramUsedBytes).trans hused, (hreason .ramUsedBytes).trans ?_,
    hreason .cpuPercent⟩
  rw [reason, hused]
  rfl

end LinuxHostReader

end SweatMeter
