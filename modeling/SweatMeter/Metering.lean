/-
  What a consumer of the sampler meters: a window over snapshots that it has seen.

  The collector gives every snapshot a timestamp in UTC and finite figures, so the window
  sorts them by their instants and integrates the power over them; and it relays what the
  GPU reader has told, so no row of the window is made up (`metering`).
-/
import SweatMeter.Collecting
import SweatMeter.DefaultCollector
import SweatMeter.EnergyIntegral
import SweatMeter.Rounding

namespace SweatMeter

open Py

/-! ## The figures of a snapshot -/

section

variable {x : TelemetrySnapshot Number} {g : ℕ}

/-- A row of the device has its figures from a sample of that index. -/
theorem exists_of_gpu_exact {row : GpuSample ℚ} (h : x.exact.gpu g = some row) :
    ∃ s ∈ x.gpus, s.index = g ∧ s.exact = row := by
  obtain ⟨s, hs, rfl⟩ := List.mem_map.1 (List.mem_of_find?_eq_some h)
  have hindex := List.find?_some h
  exact ⟨s, hs, of_decide_eq_true hindex, rfl⟩

/-- A well-formed snapshot has no figure without a value. -/
theorem WellFormed.isSome_exact (h : WellFormed x) {s : GpuSample Number} (hs : s ∈ x.gpus)
    (f : GpuField) : (s.exact.measurement f).isSome = (s.measurement f).isSome := by
  have hwithin : ∃ range, Within range (s.measurement f) := by
    by_cases hf : f ∈ GpuField.temperatures
    · exact ⟨_, h.gpuTemperature s hs f hf⟩
    · exact ⟨_, h.gpu s hs f hf⟩
  obtain ⟨range, hrange⟩ := hwithin
  cases hx : s.measurement f with
  | none => simp [GpuSample.exact, hx]
  | some v =>
    obtain ⟨q, hq, -⟩ := hrange v hx
    simp [GpuSample.exact, hx, hq]

theorem WellFormed.isUtc (h : WellFormed x) (Z : Zones) : Z.IsUtc x.exact.timestamp := by
  show Z.utcoffset x.timestamp.tzinfo _ _ = 0
  rw [h.utc, Z.utc]

theorem WellFormed.reportedPower_nonneg (h : WellFormed x) : 0 ≤ reportedPower g x.exact := by
  refine @NonnegPower.reportedPower g [x.exact] ?_ _ (List.mem_singleton_self _)
  intro y hy row w hrow hw
  obtain rfl := List.mem_singleton.1 hy
  obtain ⟨s, hs, -, rfl⟩ := exists_of_gpu_exact hrow
  obtain ⟨v, hv, hq⟩ := Option.bind_eq_some_iff.1 hw
  obtain ⟨q, hq', hnonneg⟩ := h.gpu s hs .powerWatts (by decide) v hv
  cases hq.symm.trans hq'
  exact hnonneg

/-- The reported power is zero or that of a sample. -/
theorem reportedPower_exact_le {limit : ℚ} (hlimit : 0 ≤ limit)
    (h : ∀ s ∈ x.gpus, s.index = g → ∀ w ∈ s.exact.measurement .powerWatts, w ≤ limit) :
    reportedPower g x.exact ≤ limit := by
  unfold reportedPower
  cases hpower : (x.exact.gpu g).bind fun row => row.measurement .powerWatts with
  | none => exact hlimit
  | some w =>
    obtain ⟨row, hrow, hw⟩ := Option.bind_eq_some_iff.1 hpower
    obtain ⟨s, hs, hindex, rfl⟩ := exists_of_gpu_exact hrow
    exact h s hs hindex w hw

end

/-! ## What has been told -/

variable {σ F : Type}

/-- A snapshot that relays shows what was told, and one that is spoilt shows no device. -/
theorem Relayed.mem {host : HostReaderObject σ} {xs : List (TelemetrySnapshot Number)}
    {ts : List Telling} (h : Relayed host xs ts) {x : TelemetrySnapshot Number} (hx : x ∈ xs) :
    x.gpus = [] ∨ ∃ told ∈ ts, x.gpus = samplesOf told.out := by
  induction h with
  | nil => cases hx
  | @shown y told xs ts hrelays _ ih =>
    rcases List.mem_cons.1 hx with rfl | hx
    · exact .inr ⟨told, List.mem_cons_self, hrelays.gpus⟩
    · exact (ih hx).imp_right fun ⟨told, htold, heq⟩ => ⟨told, List.mem_cons_of_mem _ htold, heq⟩
  | abandoned _ _ ih =>
    rcases List.mem_cons.1 hx with rfl | hx
    · exact .inl rfl
    · exact ih hx
  | spoilt _ _ ih =>
    rcases List.mem_cons.1 hx with rfl | hx
    · exact .inl rfl
    · exact (ih hx).imp_right fun ⟨told, htold, heq⟩ => ⟨told, List.mem_cons_of_mem _ htold, heq⟩

/-! ## The window -/

/-- No sample of the device has told a higher power. -/
def PowerAtMost (g : ℕ) (limit : ℚ) (told : List Telling) : Prop :=
  ∀ t ∈ told, ∀ s ∈ samplesOf t.out, s.index = g →
    ∀ w ∈ s.exact.measurement .powerWatts, w ≤ limit

section

variable {Z : Zones} (S : Sorter Z.lt) {g : ℕ} {xs : List (TelemetrySnapshot Number)}

/-- The energy of well-formed snapshots, and a bound of it. -/
theorem energy_exact (hxs : ∀ x ∈ xs, WellFormed x) (hne : xs ≠ []) :
    let W := TelemetryWindow.make S (xs.map TelemetrySnapshot.exact)
    ∃ first ∈ xs, ∃ last ∈ xs, (∀ x ∈ xs, seconds Z first.exact ≤ seconds Z x.exact ∧
        seconds Z x.exact ≤ seconds Z last.exact) ∧
      (((W.energyJoules Z g).getD 0 : ℚ) : ℝ) =
        ∫ t in seconds Z first.exact..seconds Z last.exact,
          Hold.hold (powerSamples Z g W.samples) t ∧
      0 ≤ (W.energyJoules Z g).getD 0 ∧
      ∀ limit : ℚ, (∀ x ∈ xs, reportedPower g x.exact ≤ limit) →
        (((W.energyJoules Z g).getD 0 : ℚ) : ℝ) ≤
          limit * (seconds Z last.exact - seconds Z first.exact) := by
  intro W
  have hutc : ∀ y ∈ xs.map TelemetrySnapshot.exact, Z.IsUtc y.timestamp :=
    List.forall_mem_map.2 fun x hx => (hxs x hx).isUtc Z
  have hmem (y : TelemetrySnapshot ℚ) : y ∈ W.samples ↔ ∃ x ∈ xs, x.exact = y :=
    (samples_perm S _).mem_iff.trans List.mem_map
  have hne' : W.samples ≠ [] := by
    obtain ⟨x, hx⟩ := List.exists_mem_of_ne_nil _ hne
    exact List.ne_nil_of_mem ((hmem _).2 ⟨x, hx, rfl⟩)
  obtain ⟨y, hy, z, hz, hspan, hintegral, hbounds⟩ :=
    (chronological_make S hutc).energySum_integral (g := g) hne'
  obtain ⟨first, hfirst, rfl⟩ := (hmem y).1 hy
  obtain ⟨last, hlast, rfl⟩ := (hmem z).1 hz
  have hpower (limit : ℚ) (h : ∀ x ∈ xs, reportedPower g x.exact ≤ limit) :
      ∀ y ∈ W.samples, 0 ≤ reportedPower g y ∧ reportedPower g y ≤ limit := by
    intro y hy
    obtain ⟨x, hx, rfl⟩ := (hmem y).1 hy
    exact ⟨(hxs x hx).reportedPower_nonneg, h x hx⟩
  obtain ⟨limit, hlimit⟩ : ∃ limit : ℚ, ∀ x ∈ xs, reportedPower g x.exact ≤ limit := by
    obtain ⟨limit, hlimit⟩ := (xs.map fun x => reportedPower g x.exact).toFinset.bddAbove
    exact ⟨limit, fun x hx => hlimit (by simpa using ⟨x, hx, rfl⟩)⟩
  rw [energyJoules_make S hutc]
  refine ⟨first, hfirst, last, hlast, fun x hx => hspan _ ((hmem _).2 ⟨x, hx, rfl⟩), hintegral, ?_,
    fun limit h => (hbounds 0 limit (hpower limit h)).2⟩
  have hnonneg := (hbounds 0 limit (hpower limit hlimit)).1
  rw [Rat.cast_zero, zero_mul] at hnonneg
  exact_mod_cast hnonneg

end

/-- **Metering.**  A sampler shares a collector with other callers, next to any host reader and
    with either backend.  In any run, each row of a window over snapshots that consumers have
    seen is a sample that the GPU reader told, with every figure it has; and its energy is the
    integral of the power, not negative, and at most the highest power told times the time of
    the window. -/
theorem metering (backend : GpuBackend) (alnum : Char → Bool)
    (construct : GpuProfile → Except Exn Unit) (met : ℕ → backend.Met) (host : HostReaderObject σ)
    (core : BaseAiCore F) (cfg : SamplerConfig) (t : Session (σ × (backend.Reader × ℕ)))
    {as : List SharedAct} {s : SharedSampler (σ × (backend.Reader × ℕ))}
    (h : (sharedLts host.onFst ((backend.operations alnum construct).reader met).onSnd core
      cfg t).exec ⟨.initial, t⟩ as = some s) :
    let log := (sharedLts host.onFst ((backend.operations alnum construct).reader met).onSnd core
      cfg t).record (SharedLog.observe host.onFst
        ((backend.operations alnum construct).reader met).onSnd) ⟨.initial, t⟩ {} as
    let delivered := (samplerLts _ cfg).record (Log.observe cfg) .initial Log.empty log.acts
    ∃ ops : List GpuOperation, ops.Sublist (log.calls.map CollectorCall.operation) ∧
      ∀ xs : List (TelemetrySnapshot Number), xs ≠ [] → (∀ x ∈ xs, s.sampler.Seen delivered x) →
      ∀ (Z : Zones) (S : Sorter Z.lt) (g : ℕ),
      let told := (backend.operations alnum construct).tellings met t.state.2 ops
      let W := TelemetryWindow.make S (xs.map TelemetrySnapshot.exact)
      (∀ row ∈ W.gpuSamples g, ∃ t ∈ told, ∃ s ∈ samplesOf t.out, s.index = g ∧ s.exact = row ∧
        ∀ f, (row.measurement f).isSome = (s.measurement f).isSome) ∧
      ∃ first ∈ xs, ∃ last ∈ xs, (∀ x ∈ xs, seconds Z first.exact ≤ seconds Z x.exact ∧
          seconds Z x.exact ≤ seconds Z last.exact) ∧
        (((W.energyJoules Z g).getD 0 : ℚ) : ℝ) =
          ∫ t in seconds Z first.exact..seconds Z last.exact,
            Hold.hold (powerSamples Z g W.samples) t ∧
        0 ≤ (W.energyJoules Z g).getD 0 ∧
        ∀ limit : ℚ, 0 ≤ limit → PowerAtMost g limit told →
          (((W.energyJoules Z g).getD 0 : ℚ) : ℝ) ≤
            limit * (seconds Z last.exact - seconds Z first.exact) := by
  intro log delivered
  have hrefines := refines_run _ _ core cfg t h
  obtain ⟨ops, hops, hrelayed⟩ := relayed_session met host
    (GpuBackend.honest alnum construct backend) core t log.calls
  refine ⟨ops, hops, fun xs hne hseen Z S g => ?_⟩
  intro told W
  have hmem (x : TelemetrySnapshot Number) (hx : x ∈ xs) := hrefines.mem_snapshots (hseen x hx)
  have hwell (x : TelemetrySnapshot Number) (hx : x ∈ xs) : WellFormed x :=
    wellFormed_snapshots _ _ core t log.calls x (hmem x hx)
  -- a row of a snapshot is a sample of a telling
  have htold : ∀ x ∈ xs, ∀ s ∈ x.gpus, ∃ t ∈ told, s ∈ samplesOf t.out := by
    intro x hx s hs
    rcases hrelayed.mem (hmem x hx) with hnil | ⟨t, ht, heq⟩
    · rw [hnil] at hs
      cases hs
    · exact ⟨t, ht, heq ▸ hs⟩
  obtain ⟨first, hfirst, last, hlast, hspan, hintegral, hnonneg, hbound⟩ :=
    energy_exact S (g := g) hwell hne
  refine ⟨fun row hrow => ?_, first, hfirst, last, hlast, hspan, hintegral, hnonneg,
    fun limit hlimit hpower => hbound limit fun x hx => ?_⟩
  · obtain ⟨y, hy, hrow⟩ := List.mem_filterMap.1 hrow
    obtain ⟨x, hx, rfl⟩ := List.mem_map.1 ((samples_perm S _).mem_iff.1 hy)
    obtain ⟨s, hs, hindex, rfl⟩ := exists_of_gpu_exact hrow
    obtain ⟨t, ht, hst⟩ := htold x hx s hs
    exact ⟨t, ht, s, hst, hindex, rfl, (hwell x hx).isSome_exact hs⟩
  · refine reportedPower_exact_le hlimit fun s hs hindex w hw => ?_
    obtain ⟨t, ht, hst⟩ := htold x hx s hs
    exact hpower t ht s hst hindex w hw

/-- Two snapshots, taken on a platform without a host reader. -/
theorem metering_buffered :
    ∃ s, (sharedLts stubHostReader.onFst
        ((GpuBackend.pynvml.operations (fun _ => false) fun _ => .ok ()).reader
          fun _ => ⟨.ok (), reporting [bareDevice]⟩).onSnd accepting
        ⟨2, false, by decide, 9223372036⟩ { state := ((), GpuBackend.pynvml.fresh, 0) }).exec
        ⟨.initial, { state := ((), GpuBackend.pynvml.fresh, 0) }⟩
        [.sampler (.start (.outside 0) true), .sampler (.worker 0 .boot),
          .sampler (.worker 0 .test), .collect 0 silentHost.clocks 3, .sampler (.worker 0 .publish),
          .sampler (.worker 0 .call), .sampler (.worker 0 .timeout), .sampler (.worker 0 .test),
          .collect 0 silentHost.clocks 4, .sampler (.worker 0 .publish)] = some s ∧
      ∃ x y, s.sampler.buffered = [x, y] ∧
        0 ≤ ((TelemetryWindow.make (Sorter.insertion utcZones.lt) [x.exact, y.exact]).energyJoules
          utcZones 0).getD 0 := by
  obtain ⟨s, x, y, hs, hbuffered⟩ : ∃ s x y, (sharedLts stubHostReader.onFst
      ((GpuBackend.pynvml.operations (fun _ => false) fun _ => .ok ()).reader
        fun _ => ⟨.ok (), reporting [bareDevice]⟩).onSnd accepting ⟨2, false, by decide, 9223372036⟩
      { state := ((), GpuBackend.pynvml.fresh, 0) }).exec
      ⟨.initial, { state := ((), GpuBackend.pynvml.fresh, 0) }⟩
      [.sampler (.start (.outside 0) true), .sampler (.worker 0 .boot),
        .sampler (.worker 0 .test), .collect 0 silentHost.clocks 3, .sampler (.worker 0 .publish),
        .sampler (.worker 0 .call), .sampler (.worker 0 .timeout), .sampler (.worker 0 .test),
        .collect 0 silentHost.clocks 4, .sampler (.worker 0 .publish)] = some s ∧
      s.sampler.buffered = [x, y] := ⟨_, _, _, rfl, rfl⟩
  obtain ⟨ops, -, hwindow⟩ := metering .pynvml _ _ _ _ _ _ _ hs
  obtain ⟨-, _, -, _, -, -, -, hnonneg, -⟩ := hwindow [x, y] (List.cons_ne_nil _ _)
    (fun z hz => .inr (.inl (hbuffered ▸ hz))) utcZones (Sorter.insertion utcZones.lt) 0
  exact ⟨s, hs, x, y, hbuffered, hnonneg⟩

end SweatMeter
