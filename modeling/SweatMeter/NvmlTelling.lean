/-
  `NvmlGpuReader` tells its samples honestly, whatever its binding does.

  Every failure leaves a non-empty reason under a key of its device or of all GPUs,
  also in an operation that raises in the end.  What `_number` lets pass is in the
  range of its field, and every field without a value is noted.
-/
import SweatMeter.NvmlReasons
import SweatMeter.SmiTelling

namespace SweatMeter

open Py

variable {B : NvmlBinding} {d : ℕ} {name : String}

/-! ## Reasons -/

theorem errorReason_ne_empty (e : Exn) : errorReason e ≠ "" := by
  unfold errorReason
  cases h : errorReasons.lookup e.name with
  | none => decide
  | some reason =>
    have hreasons : ∀ p ∈ errorReasons, p.2 ≠ "" := by decide
    exact hreasons _ (mem_of_lookup h)

theorem isGpuKey_deviceKey (d : ℕ) (s : String) : IsGpuKey (deviceKey d ++ s) := by
  rw [deviceKey, String.append_assoc]
  exact isGpuKey_append _

theorem notes_attempt (operation : Option (Except Exn NvmlObject)) {key : String}
    (h : IsGpuKey key) : Notes GpuReason (attempt operation key) := by
  cases operation with
  | none => exact .bind (.setReason ⟨h, by decide⟩) fun _ _ => .pure _
  | some call =>
    cases call with
    | error e => exact .bind (.setReason ⟨h, errorReason_ne_empty e⟩) fun _ _ => .pure _
    | ok value => exact .pure _

theorem notes_sense (call : Except Exn NvmlObject) {key : String} (scale lo : ℚ) (hi : Option ℚ)
    (h : IsGpuKey key) : Notes GpuReason (sense call key scale lo hi) :=
  .bind (notes_attempt _ h) fun _ _ => .lift _

section

variable (hname : ∀ s, IsGpuKey (name ++ s))
include hname

theorem notes_memory : Notes GpuReason (memory B d name) := by
  unfold memory
  refine .bind (notes_attempt _ (hname ".vram_used_bytes")) fun _ _ => .bind (.lift _) fun _ _ => ?_
  refine .bind (.lift _) fun _ _ =>
    .bind (.setDefaultReasonIf _ ⟨hname ".vram_used_bytes", by decide⟩) fun _ _ => ?_
  exact .bind (.setDefaultReasonIf _ ⟨hname ".vram_total_bytes", by decide⟩) fun _ _ => .pure _

theorem notes_throttleReasons : Notes GpuReason (throttleReasons B d name) := by
  have hkey := hname ".throttle_reasons"
  unfold throttleReasons
  refine .bind (notes_attempt _ hkey) fun _ _ => .bind (notes_attempt _ hkey) fun _ _ => ?_
  split
  · exact .bind (.setDefaultReasonIf _ ⟨hkey, by decide⟩) fun _ _ => .pure _
  · exact .pure _

theorem notes_complete (m : GpuField → Measurement Number) :
    Notes GpuReason (.note fun r => notedFields.foldl (fun r f =>
      if (m f).isNone then r.setdefault s!"{name}.{f.name}" "sensor_unsupported" else r) r) := by
  intro k v r h
  change (notedFields.foldl _ r)[k]? = some v at h
  generalize notedFields = fields at h
  induction fields generalizing r with
  | nil => exact .inl h
  | cons f fields ih =>
    rw [List.foldl_cons] at h
    rcases ih _ h with h | h
    · have hkey : IsGpuKey s!"{name}.{f.name}" := by
        show IsGpuKey (name ++ "." ++ f.name)
        rw [String.append_assoc]
        exact hname _
      exact Notes.setDefaultReasonIf _ ⟨hkey, by decide⟩ k v r h
    · exact .inr h

theorem notes_sampleDevice : Notes GpuReason (sampleDevice B d name) := by
  unfold sampleDevice
  refine .bind (notes_memory hname) fun _ _ => ?_
  refine .bind (notes_attempt _ (hname ".utilization_percent")) fun _ _ => ?_
  refine .bind (notes_throttleReasons hname) fun _ _ => ?_
  refine .bind (notes_attempt _ (hname ".uuid")) fun _ _ => ?_
  refine .bind (.lift _) fun _ _ => .bind (.lift _) fun _ _ => ?_
  refine .bind (notes_sense _ _ _ _ (hname ".temperature_c")) fun _ _ => ?_
  refine .bind (notes_sense _ _ _ _ (hname ".power_watts")) fun _ _ => ?_
  refine .bind (notes_sense _ _ _ _ (hname ".power_limit_watts")) fun _ _ => ?_
  refine .bind (notes_sense _ _ _ _ (hname ".fan_percent")) fun _ _ => ?_
  refine .bind (notes_sense _ _ _ _ (hname ".core_clock_mhz")) fun _ _ => ?_
  refine .bind (notes_sense _ _ _ _ (hname ".memory_clock_mhz")) fun _ _ => ?_
  refine .bind (.setDefaultReasonIf _ ⟨hname ".memory_temperature_c", by decide⟩) fun _ _ => ?_
  exact .bind (notes_complete hname _) fun _ _ => .pure _

end

theorem notes_deviceCount (B : NvmlBinding) : Notes GpuReason (deviceCount B) := by
  unfold deviceCount
  refine .bind (.lift _) fun _ _ => .bind (notes_attempt _ (.inl rfl)) fun _ _ => ?_
  exact .bind (.setDefaultReasonIf _ ⟨.inl rfl, by decide⟩) fun _ _ => .pure _

theorem notes_overDevices {T : Type} {body : ℕ → String → Diagnosed T}
    (hbody : ∀ d, Notes GpuReason (body d (deviceKey d))) (ds : List ℕ) :
    Notes GpuReason (overDevices B body ds) := by
  induction ds with
  | nil => exact .pure _
  | cons d ds ih =>
    refine .bind ?_ fun _ _ => .bind ih fun _ _ => .pure _
    unfold atDevice
    refine .bind (.lift _) fun name hdevice => ?_
    obtain rfl := deviceName_eq hdevice
    have hkey : IsGpuKey (deviceKey d) := by
      have := isGpuKey_deviceKey d ""
      rwa [String.append_empty] at this
    refine .bind (notes_attempt _ hkey) fun _ _ => ?_
    split
    · exact .pure _
    · exact .bind (hbody d) fun _ _ => .pure _

theorem notes_sampleAll (B : NvmlBinding) : Notes GpuReason (sampleAll B) := by
  unfold sampleAll
  refine .bind (notes_deviceCount B) fun _ _ => ?_
  refine .bind (notes_overDevices (fun d => notes_sampleDevice (isGpuKey_deviceKey d)) _)
    fun _ _ => ?_
  exact .bind (.setDefaultReasonIf _ ⟨.inl rfl, by decide⟩) fun _ _ => .pure _

/-! ## What a sample misses -/

section

variable {s : GpuSample Number} {f : GpuField}

/-- Without a value, a field of the memory is noted. -/
theorem mem_memory_log {p : Measurement Number × Measurement Number}
    (h : (memory B d name).outcome = .ok p) (r : Dict String) :
    (p.1 = none → name ++ ".vram_used_bytes" ∈ (memory B d name).log r) ∧
      (p.2 = none → name ++ ".vram_total_bytes" ∈ (memory B d name).log r) := by
  unfold memory at h ⊢
  have h := (Logged.bind_of_ok (attempt_outcome _ _)).1 h
  rw [Logged.log_bind_of_ok (attempt_outcome _ _)]
  obtain ⟨used, hused, h⟩ := Logged.bind_ok.1 h
  rw [Logged.log_bind_of_ok hused]
  obtain ⟨total, htotal, h⟩ := Logged.bind_ok.1 h
  rw [Logged.log_bind_of_ok htotal]
  cases h
  have hused : Adds (fun k => k = name ++ ".vram_used_bytes" ∧ used = none)
    (setDefaultReasonIf (used = none) (name ++ ".vram_used_bytes") "sensor_unsupported") :=
      .setDefaultReasonIf _ _ _
  have htotal : Adds (fun k => k = name ++ ".vram_total_bytes" ∧ total = none)
    (setDefaultReasonIf (total = none) (name ++ ".vram_total_bytes") "sensor_unsupported") :=
      .setDefaultReasonIf _ _ _
  constructor
  · intro hnone
    exact (htotal _ _).2 (.inl ((hused _ _).2 (.inr ⟨rfl, hnone⟩)))
  · intro hnone
    exact (htotal _ _).2 (.inr ⟨rfl, hnone⟩)

theorem noteCalls_memory (hf : f = .vramUsedBytes ∨ f = .vramTotalBytes) (name : String)
    (r : Dict String) : (noteCalls B d name r)[name ++ ("." ++ f.name)]? =
      ((memory B d name).log r)[name ++ ("." ++ f.name)]? := by
  rcases hf with rfl | rfl
  all_goals
    simp only [noteCalls, GpuField.name, String.reduceAppend, getElem?_callNote_of_ne,
      getElem?_throttleReasons, Dict.getElem?_setdefault_of_ne, ne_eq, String.append_right_inj,
      String.reduceEq, not_false_eq_true]

/-- **A sampled device notes each field without a value.** -/
theorem mem_sampleDevice_log (h : (sampleDevice B d name).outcome = .ok s) (r : Dict String)
    (hnone : s.measurement f = none) :
    name ++ "." ++ f.name ∈ (sampleDevice B d name).log r := by
  have hs := sampleDevice_ok.1 h
  rw [sampleDevice_log h, Std.ExtTreeMap.mem_iff_isSome_getElem?, getElem?_complete]
  by_cases hf : f ∈ notedFields
  · rw [if_pos ⟨hf, hnone⟩]
    rfl
  · rw [if_neg fun h => hf h.1, ← Std.ExtTreeMap.mem_iff_isSome_getElem?, String.append_assoc]
    have hmemory : (memory B d name).outcome =
        .ok (s.measurement .vramUsedBytes, s.measurement .vramTotalBytes) :=
      memory_ok.2 ⟨hs.measurement .vramUsedBytes, hs.measurement .vramTotalBytes⟩
    cases f with
    | vramUsedBytes =>
      rw [Std.ExtTreeMap.mem_iff_isSome_getElem?, noteCalls_memory (.inl rfl),
        ← Std.ExtTreeMap.mem_iff_isSome_getElem?]
      exact (mem_memory_log hmemory r).1 hnone
    | vramTotalBytes =>
      rw [Std.ExtTreeMap.mem_iff_isSome_getElem?, noteCalls_memory (.inr rfl),
        ← Std.ExtTreeMap.mem_iff_isSome_getElem?]
      exact (mem_memory_log hmemory r).2 hnone
    | memoryTemperatureC => exact (Dict.mem_setdefault _ _ _).2 (.inl rfl)
    | _ => exact absurd (by decide) hf

/-! ## Normal form -/

/-- What `_number` lets pass. -/
theorem nvmlNumber_eq_some {value : Obj} {x : Number} {scale lo : ℚ} {hi : Option ℚ}
    (h : nvmlNumber value scale lo hi = .ok (some x)) :
    (∃ q, x.toRat = some q ∧ lo ≤ q ∧ ∀ b ∈ hi, q ≤ b) ∧ Fits (.num x) := by
  cases value with
  | num y =>
    cases hy : y.isfinite with
    | error e => simp [nvmlNumber, hy] at h
    | ok fin => cases fin with
      | false => rw [nvmlNumber_of_not_finite hy] at h; cases h
      | true =>
        have hscaled : (if scale = 1 then y else y.div scale).isfinite = .ok true := by
          split
          · exact hy
          · exact isfinite_div hy scale
        rw [nvmlNumber_eq hy] at h
        dsimp only at h
        generalize (if scale = 1 then y else y.div scale) = scaled at h hscaled
        obtain ⟨q, hq⟩ := Number.toRat_of_isfinite hscaled
        rw [Except.ok.injEq] at h
        split_ifs at h with hrange
        obtain ⟨hlo, hhi⟩ := not_or.1 hrange
        cases h
        rw [Number.ltRat_eq hq, decide_eq_true_iff, not_lt] at hlo
        refine ⟨⟨q, hq, hlo, ?_⟩, returns_isfinite.1 ⟨_, hscaled⟩⟩
        rintro b hb
        cases hb
        rw [Option.any_some, Number.gtRat_eq hq, decide_eq_true_iff, not_lt] at hhi
        exact hhi
  | _ => cases h

theorem GpuField.nvml_range (f : GpuField) :
    f.minimum ≤ f.nvmlMinimum ∧ f.maximum = f.nvmlMaximum := by
  rw [GpuField.minimum_eq, GpuField.maximum_eq]
  constructor
  · split_ifs with hf
    · cases f <;> norm_num [nvmlMinimum]
    · cases f <;> first | exact absurd (by decide) hf | exact le_refl (0 : ℚ)
  · cases f <;> rfl

theorem normal_sampleOf (hp : Printable d) (hs : B.SampleOf d s) : s.Normal where
  nonneg := by
    rw [hs.index]
    exact Int.natCast_nonneg d
  printable := by rwa [hs.index]
  range f x hx := by
    have hm := hs.measurement f
    rw [hx] at hm
    obtain ⟨v, -, hv⟩ := bind_eq_ok.1 hm
    obtain ⟨⟨q, hq, hlo, hhi⟩, -⟩ := nvmlNumber_eq_some hv
    obtain ⟨hminimum, hmaximum⟩ := f.nvml_range
    exact ⟨q, hq, hminimum.trans hlo, hmaximum ▸ hhi⟩
  fits f := by
    cases hx : s.measurement f with
    | none => trivial
    | some x =>
      have hm := hs.measurement f
      rw [hx] at hm
      obtain ⟨v, -, hv⟩ := bind_eq_ok.1 hm
      exact (nvmlNumber_eq_some hv).2
  uuid := by
    rw [hs.uuid]
    exact nvmlText_ne_empty _
  throttleReasons := by
    have hthrottle := congrArg Prod.fst hs.throttle
    rw [show s.throttleReasons = (B.throttle d).1 from hthrottle, NvmlBinding.throttle]
    split
    · exact List.not_mem_nil
    · intro hmem
      obtain ⟨p, hp, hname⟩ := List.mem_map.1 hmem
      have hnames : "" ∉ throttleBits.map Prod.fst := by decide
      exact hnames (List.mem_map.2 ⟨p, List.mem_of_mem_filter hp, hname⟩)

end

/-! ## The operation -/

/-- What a loop over devices in order collects is in order. -/
theorem over_increasing {ds : List ℕ} {xs : List (GpuSample Number)}
    (h : B.Over B.SampleOf ds xs) (hds : ds.Pairwise (· < ·)) :
    xs.Pairwise fun s t => s.index < t.index := by
  induction h with
  | nil => exact .nil
  | skip _ _ _ ih => exact ih hds.of_cons
  | take _ _ hs hrest ih =>
    refine List.pairwise_cons.2 ⟨fun t ht => ?_, ih hds.of_cons⟩
    obtain ⟨d', hd', -, -, ht'⟩ := device_of_over hrest ht
    rw [hs.index, ht'.index]
    exact Int.ofNat_lt.2 (List.rel_of_pairwise_cons hds hd')

/-- A sample that returns. -/
theorem honest_sampleAll {xs : List (GpuSample Number)} (h : (sampleAll B).outcome = .ok xs) :
    (∀ s ∈ xs, s.Normal) ∧ xs.Pairwise (fun s t => s.index < t.index) ∧
      (∀ s ∈ xs, ∀ f, s.measurement f = none → gpuKey s.index f ∈ (sampleAll B).log ∅) ∧
      (xs = [] → "gpu" ∈ (sampleAll B).log ∅) := by
  obtain ⟨hcount, hover⟩ := sampleAll_ok.1 h
  refine ⟨fun s hs => ?_, over_increasing hover List.pairwise_lt_range, fun s hs f hf => ?_, ?_⟩
  · obtain ⟨d, -, hp, -, hsample⟩ := device_of_over hover hs
    exact normal_sampleOf hp hsample
  · obtain ⟨d, hd, hp, ha, hsample⟩ := device_of_over hover hs
    obtain ⟨r, -, hlog⟩ := device_log h (List.mem_range.1 hd)
    have hkey : DeviceKey d (gpuKey d f) := .inr ⟨f.name, rfl⟩
    rw [hsample.index, Std.ExtTreeMap.mem_iff_isSome_getElem?, hlog _ hkey,
      atDevice_log_of_addressable hp ha, ← Std.ExtTreeMap.mem_iff_isSome_getElem?]
    exact mem_sampleDevice_log (sampleDevice_ok.2 hsample) r hf
  · rintro rfl
    unfold sampleAll at h ⊢
    obtain ⟨n, hn, h⟩ := Logged.bind_ok.1 h
    obtain ⟨ys, hys, h⟩ := Logged.bind_ok.1 h
    cases h
    rw [Logged.log_bind_of_ok hn, Logged.log_bind_of_ok hys]
    exact (Dict.mem_setdefault _ _ _).2 (.inl rfl)

/-- `_ready` says why the binding is not usable. -/
theorem notes_ready {r : NvmlGpuReader} {c : NvmlCall} (h : (r.ready c).1 = false) :
    ∃ reason, reason ≠ "" ∧ (r.ready c).2.reasons = (∅ : Dict String).set "gpu" reason := by
  unfold NvmlGpuReader.ready at h ⊢
  split at h
  · refine ⟨_, ?_, rfl⟩
    split_ifs <;> decide
  · dsimp only at h ⊢
    split_ifs at h ⊢
    split at h
    · exact ⟨_, by decide, rfl⟩
    · exact ⟨_, by decide, rfl⟩
    · split at h
      · exact ⟨_, errorReason_ne_empty _, rfl⟩
      · cases h

/-- `NvmlGpuReader`; `construct` is what the constructor of `GpuProfile` checks. -/
def NvmlGpuReader.operations (construct : GpuProfile → Except Exn Unit) :
    GpuReaderClass NvmlGpuReader NvmlCall where
  sample := sample
  staticInfo r c := r.staticInfo c construct
  reasons := reasons

/-- **`NvmlGpuReader.sample` tells honestly**, whatever its binding does. -/
theorem NvmlGpuReader.honest (construct : GpuProfile → Except Exn Unit) :
    (operations construct).Honest := by
  intro r c
  have htelling : (operations construct).telling r c =
      ⟨(r.sample c).1, (r.sample c).2.reasons⟩ := rfl
  rw [htelling, sample_eq]
  cases hready : (r.ready c).1 with
  | false =>
    obtain ⟨reason, hreason, hreasons⟩ := notes_ready hready
    simp only [Bool.false_eq_true, if_false, hreasons]
    refine ⟨fun key v hv => ?_, by rintro s ⟨⟩, .nil, by rintro s ⟨⟩, fun _ => ?_⟩
    · rw [Dict.getElem?_set] at hv
      split_ifs at hv with hkey
      · cases hv
        exact ⟨.inl hkey.symm, hreason⟩
      · rw [Std.ExtTreeMap.getElem?_empty] at hv
        cases hv
    · exact (Dict.mem_set _ _ _).2 (.inl rfl)
  | true =>
    simp only [if_true, ready_reasons hready]
    have hentries : ∀ key reason, ((sampleAll c.binding).log ∅)[key]? = some reason →
        GpuReason key reason := by
      intro key reason h
      refine (notes_sampleAll c.binding key reason ∅ h).resolve_left fun hnone => ?_
      rw [Std.ExtTreeMap.getElem?_empty] at hnone
      cases hnone
    cases h : (sampleAll c.binding).outcome with
    | error e => exact ⟨hentries, by rintro s ⟨⟩, .nil, by rintro s ⟨⟩, by rintro ⟨⟩⟩
    | ok xs =>
      obtain ⟨hnormal, hincreasing, hmissing, hempty⟩ := honest_sampleAll h
      exact ⟨hentries, hnormal, hincreasing, hmissing, fun heq => hempty (Except.ok.inj heq)⟩

end SweatMeter
