/-
  The collector that the program builds by itself: `TelemetryCollector()` with the
  readers that `create_host_reader` and `create_gpu_reader` choose.

  On Linux its snapshots show the machine, and on Windows and macOS no figure of the
  host; next to either, what the chosen GPU reader has told is relayed, whatever its
  commands or its binding do (`default_session`).
-/
import SweatMeter.LinuxSession
import SweatMeter.NvmlTelling

namespace SweatMeter

open Py Py.Stateful

/-! ## Construction -/

/-- What `TelemetryCollector()` raises. -/
inductive CreationError where
  | platform (e : UnsupportedPlatformError)
  | gpu (e : GpuReaderError)
  deriving DecidableEq

/-- The readers of `TelemetryCollector()`, on this platform and with the optional binding
    installed or not. -/
def defaultReaders (platformName : String) (nvmlBindingAvailable : Bool) :
    Except CreationError (HostPlatform × GpuBackend) := do
  let host ← (createHostReader platformName).mapError .platform
  let gpu ← (createGpuReader nvmlBindingAvailable .none).mapError .gpu
  return (host, gpu)

/-- The host reader of a platform; the stubs make no use of the state. -/
def HostPlatform.reader (met : HostOperation → ℕ → Machine)
    (storageDevice : StorageDevice → Except Exn Unit) : HostPlatform → HostReaderObject LinuxState
  | linux => LinuxHostReader.reader met storageDevice
  | windows | darwin => stubHostReader

namespace GpuBackend

/-- The state of the reader. -/
abbrev Reader : GpuBackend → Type
  | nvidiaSmi => NvidiaSmiReader
  | pynvml => NvmlGpuReader

/-- What an operation meets. -/
abbrev Met : GpuBackend → Type
  | nvidiaSmi => SmiCall
  | pynvml => NvmlCall

/-- A reader as it is constructed. -/
def fresh : (backend : GpuBackend) → backend.Reader
  | nvidiaSmi => {}
  | pynvml => {}

def operations (alnum : Char → Bool) (construct : GpuProfile → Except Exn Unit) :
    (backend : GpuBackend) → GpuReaderClass backend.Reader backend.Met
  | nvidiaSmi => NvidiaSmiReader.operations alnum construct
  | pynvml => NvmlGpuReader.operations construct

theorem honest (alnum : Char → Bool) (construct : GpuProfile → Except Exn Unit)
    (backend : GpuBackend) : (backend.operations alnum construct).Honest := by
  cases backend with
  | nvidiaSmi => exact NvidiaSmiReader.honest alnum construct
  | pynvml => exact NvmlGpuReader.honest construct

end GpuBackend

/-! ## The host -/

variable {ρ γ σ F : Type} {C : GpuReaderClass ρ γ}

theorem GpuReaderClass.Honest.plain (hC : C.Honest) (met : ℕ → γ) : (C.reader met).Plain where
  rows t := by
    rw [observe_reader]
    exact (hC _ _).rowsNormalizable
  reasons t := by
    rw [observe_reader]
    refine ⟨_, readerReasons_told (hC _ _), fun p hp => ?_⟩
    exact ((hC _ _).entries _ _ (Std.ExtTreeMap.mem_toList_iff_getElem?_eq_some.1 hp)).1

/-- A snapshot next to a stub: no figure of the host, each with the reason that it failed. -/
def FailedHost (x : TelemetrySnapshot Number) : Prop :=
  ∀ f, x.host f = none ∧ x.unavailableReasons[f.name]? = some "reader_error"

theorem failedHost_snapshot (hC : C.Honest) (met : ℕ → γ) (t : Session (σ × (ρ × ℕ)))
    (clocks : Clocks) :
    FailedHost (t.snapshot stubHostReader.onFst (C.reader met).onSnd clocks).1 := by
  have htold := hC t.state.2.1 (met t.state.2.2)
  rw [Session.snapshot_fst, observe_pair, observe_reader]
  have hvalue (f : HostField) :
      (stubHostReader.observe t.state.1).1.value f = .ok .unsupported := by
    cases f <;> rfl
  have hreasons : readerReasons (stubHostReader.observe t.state.1).1.unavailableReasons =
      .ok [] := rfl
  generalize (C.telling t.state.2.1 (met t.state.2.2)) = told at htold ⊢
  have htolerated : Tolerated ⟨clocks, (stubHostReader.observe t.state.1).1, told.reader⟩ :=
    ⟨fun f => ⟨_, hvalue f, trivial⟩, htold.rowsNormalizable,
      returns_readerReasons.1 ⟨_, hreasons⟩, returns_readerReasons.1 ⟨_, readerReasons_told htold⟩⟩
  obtain ⟨x, hx⟩ := returns_collect.2 htolerated
  rw [TelemetryCollector.snapshot, hx]
  intro f
  constructor
  · have hf := (collect_ok hx).host f
    rw [HostReader.measurement, hvalue, ok_bind] at hf
    exact (Except.ok.inj hf).symm
  · have hkeys : ∀ gr, readerReasons told.reader.unavailableReasons = .ok gr →
        ∀ p ∈ gr, IsGpuKey p.1 := by
      intro gr hgr p hp
      cases (readerReasons_told htold).symm.trans hgr
      exact (htold.entries _ _ (Std.ExtTreeMap.mem_toList_iff_getElem?_eq_some.1 hp)).1
    have hnotes : boundaryNotes ⟨clocks, (stubHostReader.observe t.state.1).1, told.reader⟩ =
        readNote told.reader.sample ["gpu"] (FallbackHost.liveFields.foldl
          (fun r f => r.set f "reader_error") (timestampOf clocks ∅).2) := rfl
    have hlive : f.name ∈ FallbackHost.liveFields := FallbackHost.mem_liveFields.2 ⟨f, rfl⟩
    have hgpu : f.name ∉ ["gpu"] := fun h => not_isGpuKey_name f (.inl (List.mem_singleton.1 h))
    rw [collect_host_reason hx hreasons hkeys f, hnotes, getElem?_readNote, getElem?_foldl_set,
      if_pos hlive, if_neg hgpu]
    cases told.reader.sample <;> rfl

/-! ## Sessions -/

/-- What the n-th snapshot tells of the host. -/
def HostPlatform.SnapshotAt (met : HostOperation → ℕ → Machine) (n : ℕ)
    (x : TelemetrySnapshot Number) : HostPlatform → Prop
  | linux => LinuxHostReader.SnapshotAt met none n x
  | windows | darwin => FailedHost x

theorem snapshotAt_session (platform : HostPlatform) (hostMet : HostOperation → ℕ → Machine)
    (storageDevice : StorageDevice → Except Exn Unit) (hC : C.Honest) (met : ℕ → γ) (s : ρ × ℕ)
    (core : BaseAiCore F) (calls : List CollectorCall) (n : ℕ) (x : TelemetrySnapshot Number)
    (h : (snapshots (Session.run (platform.reader hostMet storageDevice).onFst (C.reader met).onSnd
      core { state := (LinuxHostReader.fresh none, s) } calls))[n]? = some x) :
    platform.SnapshotAt hostMet n x := by
  cases platform with
  | linux =>
    have hrun := LinuxHostReader.snapshots_run hostMet none storageDevice (hC.plain met) core calls
      (t := { state := (LinuxHostReader.fresh none, s) }) (LinuxHostReader.fresh_eq hostMet none) n x h
    rwa [Nat.zero_add] at hrun
  | windows | darwin =>
    obtain ⟨t, clocks, rfl⟩ := exists_of_mem_snapshots _ _ core (List.mem_of_getElem? h)
    exact failedHost_snapshot hC met t clocks

/-- There is a host reader for three names. -/
theorem createHostReader_cases (name : String) :
    (∃ platform, createHostReader name = .ok platform ∧ (platform = .linux ↔ name = "linux")) ∨
      createHostReader name = .error ⟨name, "host telemetry"⟩ ∧
        name ∉ ["linux", "win32", "darwin"] := by
  unfold createHostReader
  split
  case h_1 => exact .inl ⟨.linux, rfl, by simp⟩
  case h_2 => exact .inl ⟨.windows, rfl, by simp⟩
  case h_3 => exact .inl ⟨.darwin, rfl, by simp⟩
  case h_4 hlinux hwindows hdarwin => exact .inr ⟨rfl, by simpa using ⟨hlinux, hwindows, hdarwin⟩⟩

/-- Which readers are chosen. -/
theorem defaultReaders_ok {platformName : String} {nvmlBindingAvailable : Bool}
    {platform : HostPlatform} {backend : GpuBackend}
    (h : defaultReaders platformName nvmlBindingAvailable = .ok (platform, backend)) :
    (platform = .linux ↔ platformName = "linux") ∧
      (backend = .pynvml ↔ nvmlBindingAvailable = true) := by
  rw [defaultReaders] at h
  rcases createHostReader_cases platformName with ⟨host, hhost, hlinux⟩ | ⟨hhost, -⟩
  · rw [hhost] at h
    cases h
    exact ⟨hlinux, by cases nvmlBindingAvailable <;> simp⟩
  · rw [hhost] at h
    cases h

theorem defaultReaders_error {platformName : String} {nvmlBindingAvailable : Bool}
    {e : CreationError} (h : defaultReaders platformName nvmlBindingAvailable = .error e) :
    platformName ∉ ["linux", "win32", "darwin"] ∧
      e = .platform ⟨platformName, "host telemetry"⟩ := by
  rw [defaultReaders] at h
  rcases createHostReader_cases platformName with ⟨host, hhost, -⟩ | ⟨hhost, hname⟩
  · rw [hhost] at h
    cases h
  · rw [hhost] at h
    cases h
    exact ⟨hname, rfl⟩

/-- **The default collector.**  It is built for three platforms only.  Over any session, with
    whichever backend, its n-th snapshot tells of the host what the n-th calls of a Linux
    machine read, or that the stub has failed; and its snapshots relay what the GPU reader
    told, each sample once and in order, and drop one only where the host has spoilt it. -/
theorem default_session (platformName : String) (nvmlBindingAvailable : Bool)
    (alnum : Char → Bool) (construct : GpuProfile → Except Exn Unit)
    (storageDevice : StorageDevice → Except Exn Unit) (core : BaseAiCore F) :
    (∀ e, defaultReaders platformName nvmlBindingAvailable = .error e →
      platformName ∉ ["linux", "win32", "darwin"] ∧
        e = .platform ⟨platformName, "host telemetry"⟩) ∧
    ∀ platform backend, defaultReaders platformName nvmlBindingAvailable = .ok (platform, backend) →
      (platform = .linux ↔ platformName = "linux") ∧
      (backend = .pynvml ↔ nvmlBindingAvailable = true) ∧
      ∀ (hostMet : HostOperation → ℕ → Machine) (gpuMet : ℕ → backend.Met)
        (calls : List CollectorCall) (xs : List (TelemetrySnapshot Number)),
      xs = snapshots (Session.run (platform.reader hostMet storageDevice).onFst
        ((backend.operations alnum construct).reader gpuMet).onSnd core
        { state := (LinuxHostReader.fresh none, backend.fresh, 0) } calls) →
      (∀ n x, xs[n]? = some x → platform.SnapshotAt hostMet n x) ∧
        ∃ ops : List GpuOperation, ops.Sublist (calls.map CollectorCall.operation) ∧
          Relayed (platform.reader hostMet storageDevice) xs
            ((backend.operations alnum construct).tellings gpuMet (backend.fresh, 0) ops) := by
  refine ⟨fun e h => defaultReaders_error h, fun platform backend h => ?_⟩
  obtain ⟨hplatform, hbackend⟩ := defaultReaders_ok h
  refine ⟨hplatform, hbackend, ?_⟩
  rintro hostMet gpuMet calls xs rfl
  have hC := GpuBackend.honest alnum construct backend
  exact ⟨snapshotAt_session platform hostMet storageDevice hC gpuMet _ core calls,
    relayed_session gpuMet _ hC core _ calls⟩

end SweatMeter
