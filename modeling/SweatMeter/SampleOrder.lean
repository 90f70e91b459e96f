/-
  Windows over the same snapshots in another order, and over more snapshots.

  The aggregates of a device read the multiset of its rows: they do not see in
  which order the snapshots came, nor how equal timestamps were resolved.  The one
  exception is a NaN, which `max` returns if it comes first and ignores elsewhere:
  at an instant of two snapshots that is up to their order (`nan_first_or_last`).
  The energy and the clock scan read the series in chronological order, which the
  instants fix where no two are equal (`order_independent`).  What the driver
  reports accumulates over the snapshots (`driver_evidence`).
-/
import Mathlib.Data.String.Basic
import SweatMeter.Binary64
import SweatMeter.PerDevice
import SweatMeter.Py.Firsts

namespace SweatMeter

open Py

variable {Z : Zones} (S : Sorter Z.lt) {g : ℕ}

/-! ## What the driver reports -/

section

variable {ν : Type} {xs ys : List (TelemetrySnapshot ν)} {W V : TelemetryWindow ν}
  {samples samples' : List (GpuSample ν)} {reason : String}

namespace TelemetryWindow

variable (W : TelemetryWindow ν) (g : ℕ)

/-- The reasons the driver reports as active on the device. -/
def driverReasons : Set String :=
  {reason | ∃ x ∈ W.gpuSamples g, x.throttleReasonsAvailable = true ∧
    reason ∈ x.throttleReasons ∧ reason ≠ "gpu_idle"}

/-- The number of the device's rows that have throttle reasons available. -/
def reportedCount : ℕ := (W.gpuSamples g).countP fun x => x.throttleReasonsAvailable

end TelemetryWindow

theorem mem_activeReasons : reason ∈ activeReasons (reportedRows samples) ↔
    ∃ x ∈ samples, x.throttleReasonsAvailable = true ∧ reason ∈ x.throttleReasons ∧
      reason ≠ "gpu_idle" := by
  simp only [activeReasons, reportedRows, activeThrottleExclusions, List.mem_insertionSort,
    List.mem_dedup, List.mem_filter, List.mem_flatMap, decide_eq_true_eq, List.mem_singleton]
  constructor
  · rintro ⟨⟨x, ⟨hx, havail⟩, hmem⟩, hne⟩
    exact ⟨x, hx, havail, hmem, hne⟩
  · rintro ⟨x, hx, havail, hmem, hne⟩
    exact ⟨⟨x, ⟨hx, havail⟩, hmem⟩, hne⟩

theorem activeReasons_sorted (rows : List (GpuSample ν)) :
    (activeReasons rows).Pairwise (· < ·) :=
  pairwise_insertionSort_lt id (List.nodup_dedup _)

/-- A list of active reasons is determined by its elements. -/
theorem activeReasons_congr (h : ∀ reason, reason ∈ activeReasons (reportedRows samples) ↔
    reason ∈ activeReasons (reportedRows samples')) :
    activeReasons (reportedRows samples) = activeReasons (reportedRows samples') :=
  (activeReasons_sorted _).eq_of_mem_iff (activeReasons_sorted _) h

theorem activeReasons_ne_nil (h : (W.driverReasons g).Nonempty) :
    activeReasons (reportedRows (W.gpuSamples g)) ≠ [] := by
  obtain ⟨reason, hreason⟩ := h
  exact List.ne_nil_of_mem (mem_activeReasons.2 hreason)

theorem length_reportedRows : (reportedRows (W.gpuSamples g)).length = W.reportedCount g :=
  List.countP_eq_length_filter.symm

/-! ## Rearranged snapshots -/

theorem samples_perm (xs : List (TelemetrySnapshot ν)) :
    (TelemetryWindow.make S xs).samples.Perm xs := S.sorted_perm _ xs

theorem make_perm (h : xs.Perm ys) :
    (TelemetryWindow.make S xs).samples.Perm (TelemetryWindow.make S ys).samples :=
  (samples_perm S xs).trans (h.trans (samples_perm S ys).symm)

theorem gpuSamples_perm (h : W.samples.Perm V.samples) (g : ℕ) :
    (W.gpuSamples g).Perm (V.gpuSamples g) := h.filterMap _

theorem measurements_perm (h : W.samples.Perm V.samples) (g : ℕ) (field : GpuField) :
    (W.measurements g field).Perm (V.measurements g field) := (gpuSamples_perm h g).filterMap _

theorem eq_nil_iff_of_perm {α : Type} {as bs : List α} (h : as.Perm bs) : as = [] ↔ bs = [] := by
  rw [← List.length_eq_zero_iff, h.length_eq, List.length_eq_zero_iff]

theorem driverReasons_perm (h : W.samples.Perm V.samples) (g : ℕ) :
    W.driverReasons g = V.driverReasons g := by
  ext reason
  exact exists_congr fun x => and_congr_left fun _ => (gpuSamples_perm h g).mem_iff

theorem activeReasons_perm (h : W.samples.Perm V.samples) (g : ℕ) :
    activeReasons (reportedRows (W.gpuSamples g)) =
      activeReasons (reportedRows (V.gpuSamples g)) :=
  activeReasons_congr fun reason => by
    rw [mem_activeReasons, mem_activeReasons]
    exact exists_congr fun x => and_congr_left fun _ => (gpuSamples_perm h g).mem_iff

theorem reportedCount_perm (h : W.samples.Perm V.samples) (g : ℕ) :
    W.reportedCount g = V.reportedCount g := (gpuSamples_perm h g).countP_eq _

/-- Snapshots in UTC are sorted by instant. -/
theorem make_samples_of_utc (h : ∀ x ∈ xs, Z.IsUtc x.timestamp) :
    (TelemetryWindow.make S xs).samples =
      xs.insertionSort fun a b => Z.instant a.timestamp ≤ Z.instant b.timestamp := by
  refine S.sorted_eq_insertionSort _ (Z.consistent_of_isUtc ?_) ?_
  · intro d hd
    obtain ⟨x, hx, rfl⟩ := List.mem_map.1 hd
    exact h x hx
  · intro a ha b hb
    rw [(h b hb).lt_eq (h a ha), decide_eq_false_iff_not, not_lt]

/-- One snapshot is not after another. -/
abbrev NotLater (Z : Zones) (a b : TelemetrySnapshot ν) : Prop :=
  Z.instant a.timestamp ≤ Z.instant b.timestamp

instance (Z : Zones) : Std.Total (NotLater Z : TelemetrySnapshot ν → _ → Prop) :=
  ⟨fun _ _ => le_total _ _⟩

instance (Z : Zones) : IsTrans (TelemetrySnapshot ν) (NotLater Z) := ⟨fun _ _ _ => le_trans⟩

theorem make_ordered (hutc : ∀ x ∈ xs, Z.IsUtc x.timestamp) :
    (TelemetryWindow.make S xs).samples.Pairwise (NotLater Z) := by
  rw [make_samples_of_utc S hutc]
  exact List.pairwise_insertionSort (NotLater Z) xs

/-- Where no two instants are equal, the window is the same. -/
theorem make_eq_of_perm (hperm : xs.Perm ys) (hutc : ∀ x ∈ xs, Z.IsUtc x.timestamp)
    (hdistinct : xs.Pairwise fun a b => Z.instant a.timestamp ≠ Z.instant b.timestamp) :
    TelemetryWindow.make S xs = TelemetryWindow.make S ys := by
  have hutc' : ∀ y ∈ ys, Z.IsUtc y.timestamp := fun y hy => hutc y (hperm.mem_iff.2 hy)
  have hsorted := insertionSort_eq_of_perm (fun x => Z.instant x.timestamp) hperm hdistinct
  rw [← make_samples_of_utc S hutc, ← make_samples_of_utc S hutc'] at hsorted
  exact congrArg TelemetryWindow.mk hsorted

end

/-! ## Exact arithmetic -/

section

variable {W V : TelemetryWindow ℚ}

/-- The verdict on a device with active reasons lists them. -/
theorem suspectedThrottling_of_driver (h : (W.driverReasons g).Nonempty) :
    W.suspectedThrottling g = ⟨g, .suspected,
      "driver_reported:" ++ ",".intercalate (activeReasons (reportedRows (W.gpuSamples g))), 1,
      W.reportedCount g⟩ := by
  rw [TelemetryWindow.suspectedThrottling, throttleVerdict, if_pos (activeReasons_ne_nil h),
    length_reportedRows]

theorem max?_eq_of_perm {as bs : List ℚ} (h : as.Perm bs) : as.max? = bs.max? := by
  ext m
  rw [List.max?_eq_some_iff, List.max?_eq_some_iff, h.mem_iff]
  exact and_congr_right fun _ => forall_congr' fun a => by rw [h.mem_iff]

/-- What a device's rows tell in any order. -/
structure SameAggregates (Z : Zones) (g : ℕ) (W V : TelemetryWindow ℚ) : Prop where
  peakVramBytes : W.peakVramBytes g = V.peakVramBytes g
  meanPowerWatts : W.meanPowerWatts g = V.meanPowerWatts g
  maxTemperatureC : W.maxTemperatureC g = V.maxTemperatureC g
  supportedSampleCount : ∀ metric ∈ [WindowMetric.peakVramBytes, .meanPowerWatts, .maxTemperatureC],
    W.supportedSampleCount Z metric g = V.supportedSampleCount Z metric g

theorem sameAggregates_of_perm
    (h : ∀ field, (W.measurements g field).Perm (V.measurements g field)) :
    SameAggregates Z g W V := by
  constructor
  case peakVramBytes => exact max?_eq_of_perm (h _)
  case maxTemperatureC => exact max?_eq_of_perm (h _)
  case meanPowerWatts =>
    simp only [TelemetryWindow.meanPowerWatts, eq_nil_iff_of_perm (h _), (h _).sum_eq,
      (h _).length_eq]
  case supportedSampleCount =>
    intro metric hmetric
    simp only [List.mem_cons, List.not_mem_nil, or_false] at hmetric
    rcases hmetric with rfl | rfl | rfl <;> exact (h _).length_eq

end

/-! ## Python's numbers -/

/-- The reading of a field that a snapshot has for device `g`. -/
def TelemetrySnapshot.reading {ν : Type} (g : ℕ) (field : GpuField) (x : TelemetrySnapshot ν) :
    Measurement ν := (x.gpu g).bind fun r => r.measurement field

namespace Binary64

open Number

variable {xs ys : List (TelemetrySnapshot Number)} {W V : TelemetryWindow Number}

/-- If the two snapshots are at one instant, neither has a NaN for this field of the device. -/
def NoNanAtTie (Z : Zones) (g : ℕ) (field : GpuField) (a b : TelemetrySnapshot Number) : Prop :=
  Z.instant a.timestamp = Z.instant b.timestamp →
    a.reading g field ≠ some (.float .nan) ∧ b.reading g field ≠ some (.float .nan)

instance (field : GpuField) : Std.Symm (NoNanAtTie Z g field) :=
  ⟨fun _ _ h htie => (h htie.symm).symm⟩

theorem measurements_eq (W : TelemetryWindow Number) (g : ℕ) (field : GpuField) :
    W.measurements g field = W.samples.filterMap (TelemetrySnapshot.reading g field) :=
  List.filterMap_filterMap

/-- The first snapshot with a reading is not later than any other with one. -/
theorem first_reading_le {field : GpuField} {pre post : List (TelemetrySnapshot Number)}
    {x y : TelemetrySnapshot Number}
    (h : (pre ++ x :: post).Pairwise (NotLater Z))
    (hpre : ∀ z ∈ pre, z.reading g field = none) (hy : y ∈ pre ++ x :: post)
    (hreading : y.reading g field ≠ none) : Z.instant x.timestamp ≤ Z.instant y.timestamp := by
  rcases List.mem_append.1 hy with hmem | hmem
  · exact absurd (hpre y hmem) hreading
  · rcases List.mem_cons.1 hmem with rfl | hmem
    · exact le_rfl
    · exact (List.pairwise_cons.1 (List.pairwise_append.1 h).2.1).1 y hmem

/-- A first reading that is a NaN is first in any chronological order. -/
theorem head_reading_perm {field : GpuField} (hperm : xs.Perm ys)
    (hxs : xs.Pairwise (NotLater Z)) (hys : ys.Pairwise (NotLater Z))
    (hnan : xs.Pairwise (NoNanAtTie Z g field))
    (h : (xs.filterMap (TelemetrySnapshot.reading g field)).head? = some (.float .nan)) :
    (ys.filterMap (TelemetrySnapshot.reading g field)).head? = some (.float .nan) := by
  obtain ⟨rest, hrest⟩ := List.head?_eq_some_iff.1 h
  obtain ⟨pre, x, post, rfl, hpre, hx, -⟩ := List.filterMap_eq_cons_iff.1 hrest
  have hxmem : x ∈ ys := hperm.mem_iff.1 (by simp)
  cases hcs : ys.filterMap (TelemetrySnapshot.reading g field) with
  | nil =>
    have := List.filterMap_eq_nil_iff.1 hcs x hxmem
    rw [hx] at this
    cases this
  | cons c cs =>
    obtain ⟨pre', y, post', rfl, hpre', hy, -⟩ := List.filterMap_eq_cons_iff.1 hcs
    have hymem : y ∈ pre ++ x :: post := hperm.mem_iff.2 (by simp)
    -- each of the two has the first reading of one order, so neither is later than the other
    have htie : Z.instant x.timestamp = Z.instant y.timestamp :=
      le_antisymm (first_reading_le hxs hpre hymem (by simp [hy]))
        (first_reading_le hys hpre' hxmem (by simp [hx]))
    by_cases heq : x = y
    · rw [← heq, hx] at hy
      rw [List.head?_cons, Option.some.inj hy]
    · exact absurd hx (hnan.forall (by simp) hymem heq htie).1

theorem maximum_make_perm {field : GpuField} (hperm : xs.Perm ys)
    (hutc : ∀ x ∈ xs, Z.IsUtc x.timestamp) (hnan : xs.Pairwise (NoNanAtTie Z g field)) :
    (maximum ((TelemetryWindow.make S xs).measurements g field)).map exact =
      (maximum ((TelemetryWindow.make S ys).measurements g field)).map exact := by
  have hxs := make_ordered S hutc
  have hys := make_ordered S fun y hy => hutc y (hperm.mem_iff.2 hy)
  have hsamples := make_perm S hperm
  have hnan' : (TelemetryWindow.make S xs).samples.Pairwise (NoNanAtTie Z g field) :=
    ((samples_perm S xs).pairwise_iff fun h => Std.Symm.symm _ _ h).2 hnan
  have hnan'' : (TelemetryWindow.make S ys).samples.Pairwise (NoNanAtTie Z g field) :=
    (hsamples.pairwise_iff fun h => Std.Symm.symm _ _ h).1 hnan'
  refine maximum_perm (measurements_perm hsamples g field) ?_
  rw [exact_eq_nan, exact_eq_nan, measurements_eq, measurements_eq]
  exact ⟨head_reading_perm hsamples hxs hys hnan', head_reading_perm hsamples.symm hys hxs hnan''⟩

/-- The same results from two windows. -/
structure SameResultsFor (Z : Zones) (g : ℕ) (W V : TelemetryWindow Number) : Prop where
  peakVramBytes : peakVramBytes W g = peakVramBytes V g
  meanPowerWatts : meanPowerWatts W g = meanPowerWatts V g
  energyJoules : energyJoules W Z g = energyJoules V Z g
  maxTemperatureC : maxTemperatureC W g = maxTemperatureC V g
  suspectedThrottling : suspectedThrottling W g = suspectedThrottling V g
  supportedSampleCount : ∀ metric,
    supportedSampleCount W Z g metric = supportedSampleCount V Z g metric

/-- What a device's rows tell in any order, each maximum as an exact value. -/
structure SameAggregates (Z : Zones) (g : ℕ) (xs : List (TelemetrySnapshot Number))
    (W V : TelemetryWindow Number) : Prop where
  peakVramBytes : xs.Pairwise (NoNanAtTie Z g .vramUsedBytes) →
    (peakVramBytes W g).map exact = (peakVramBytes V g).map exact
  maxTemperatureC : xs.Pairwise (NoNanAtTie Z g .temperatureC) →
    (maxTemperatureC W g).map exact = (maxTemperatureC V g).map exact
  meanPowerWatts : meanPowerWatts W g = meanPowerWatts V g
  supportedSampleCount : ∀ metric ∈ [WindowMetric.peakVramBytes, .meanPowerWatts, .maxTemperatureC],
    supportedSampleCount W Z g metric = supportedSampleCount V Z g metric

theorem sameAggregates_make (hperm : xs.Perm ys) (hutc : ∀ x ∈ xs, Z.IsUtc x.timestamp) (g : ℕ) :
    SameAggregates Z g xs (TelemetryWindow.make S xs) (TelemetryWindow.make S ys) := by
  have hvalues := measurements_perm (make_perm S hperm) g
  constructor
  case peakVramBytes => exact maximum_make_perm S hperm hutc
  case maxTemperatureC => exact maximum_make_perm S hperm hutc
  case meanPowerWatts =>
    have hpower := hvalues .powerWatts
    simp only [meanPowerWatts, eq_nil_iff_of_perm hpower, hpower.length_eq,
      Double.sum_perm (hpower.map exact)]
  case supportedSampleCount =>
    intro metric hmetric
    simp only [List.mem_cons, List.not_mem_nil, or_false] at hmetric
    rcases hmetric with rfl | rfl | rfl <;> exact congrArg Except.ok (hvalues _).length_eq

/-- The verdict on a device with active reasons lists them. -/
theorem suspectedThrottling_of_driver (h : (W.driverReasons g).Nonempty) :
    suspectedThrottling W g = .ok ⟨g, .suspected,
      "driver_reported:" ++ ",".intercalate (activeReasons (reportedRows (W.gpuSamples g))), 1,
      W.reportedCount g⟩ := by
  rw [suspectedThrottling, throttleVerdict, if_pos (activeReasons_ne_nil h), length_reportedRows]
  rfl

/-- **A window does not depend on the order of its samples**, up to a NaN at an
    instant of two snapshots.  Snapshots in UTC supplied in another order give
    every device the same mean, in exact arithmetic, and the same counts; the same
    peak of each field that has no NaN reading at such an instant; and the same
    verdict where the driver reports a reason.  If no two of their instants are
    equal, every result is the same. -/
theorem order_independent (S : Sorter Z.lt) (hperm : xs.Perm ys)
    (hutc : ∀ x ∈ xs, Z.IsUtc x.timestamp) :
    (∀ g, SameAggregates Z g xs (TelemetryWindow.make S xs) (TelemetryWindow.make S ys)) ∧
    (∀ g, ((TelemetryWindow.make S xs).driverReasons g).Nonempty →
      suspectedThrottling (TelemetryWindow.make S xs) g =
        suspectedThrottling (TelemetryWindow.make S ys) g) ∧
    (xs.Pairwise (fun a b => Z.instant a.timestamp ≠ Z.instant b.timestamp) →
      ∀ g, SameResultsFor Z g (TelemetryWindow.make S xs) (TelemetryWindow.make S ys)) := by
  have hsamples := make_perm S hperm
  refine ⟨sameAggregates_make S hperm hutc, fun g hreported => ?_, fun hdistinct g => ?_⟩
  · have hreported' : ((TelemetryWindow.make S ys).driverReasons g).Nonempty := by
      rwa [← driverReasons_perm hsamples]
    rw [suspectedThrottling_of_driver hreported, suspectedThrottling_of_driver hreported',
      activeReasons_perm hsamples, reportedCount_perm hsamples]
  · rw [make_eq_of_perm S hperm hutc hdistinct]
    exact ⟨rfl, rfl, rfl, rfl, rfl, fun _ => rfl⟩

/-- A snapshot with this used memory and temperature of device 0. -/
def vramAt (second : ℤ) (reading : Number) : TelemetrySnapshot Number where
  timestamp := ⟨0, 1000000 * second, false⟩
  gpus := [{ index := 0, measurement := fun f =>
    if f = .vramUsedBytes ∨ f = .temperatureC then some reading else none }]

/-- Two samples at one instant, and a NaN before them. -/
theorem order_independent_tied :
    (peakVramBytes (TelemetryWindow.make (Sorter.insertion utcZones.lt)
      [vramAt 5 (.int 30), vramAt 5 (.int 90), vramAt 3 (.float .nan), vramAt 1 (.int 60)]) 0).map
        exact = some (.finite 90) := by
  have h := ((order_independent (Sorter.insertion utcZones.lt)
    (List.Perm.swap (vramAt 5 (.int 90)) (vramAt 5 (.int 30)) [vramAt 3 (.float .nan),
      vramAt 1 (.int 60)]) fun x _ => rfl).1 0).peakVramBytes
  refine (h ?_).trans (by decide +kernel)
  simp [NoNanAtTie, TelemetrySnapshot.reading, TelemetrySnapshot.gpu, vramAt, Zones.instant,
    utcZones]

/-- **A NaN at the instant of another sample.**  The maximum is the NaN or the other reading,
    whichever of the two samples was supplied first. -/
theorem nan_first_or_last :
    ¬ ∀ (Z : Zones) (S : Sorter Z.lt) (xs ys : List (TelemetrySnapshot Number)), xs.Perm ys →
      (∀ x ∈ xs, Z.IsUtc x.timestamp) → ∀ g,
        (peakVramBytes (TelemetryWindow.make S xs) g).map exact =
          (peakVramBytes (TelemetryWindow.make S ys) g).map exact ∧
        (maxTemperatureC (TelemetryWindow.make S xs) g).map exact =
          (maxTemperatureC (TelemetryWindow.make S ys) g).map exact := by
  intro h
  have hpeak := (h utcZones (Sorter.insertion utcZones.lt) _ _
    (List.Perm.swap (vramAt 5 (.float .nan)) (vramAt 5 (.int 90)) []) (fun x _ => rfl) 0).1
  revert hpeak
  decide +kernel

end Binary64

/-! ## More snapshots -/

variable {xs ys zs : List (TelemetrySnapshot ℚ)}

theorem gpuSamples_merge (h : zs.Perm (xs ++ ys)) (g : ℕ) :
    ((TelemetryWindow.make S zs).gpuSamples g).Perm
      ((TelemetryWindow.make S xs).gpuSamples g ++ (TelemetryWindow.make S ys).gpuSamples g) := by
  have hsamples := (samples_perm S zs).trans
    (h.trans ((samples_perm S xs).append (samples_perm S ys)).symm)
  simpa only [TelemetryWindow.gpuSamples, List.filterMap_append] using
    hsamples.filterMap fun x => x.gpu g

theorem driverReasons_merge (h : zs.Perm (xs ++ ys)) (g : ℕ) :
    (TelemetryWindow.make S zs).driverReasons g =
      (TelemetryWindow.make S xs).driverReasons g ∪
        (TelemetryWindow.make S ys).driverReasons g := by
  ext reason
  simp only [TelemetryWindow.driverReasons, Set.mem_ofPred_eq, Set.mem_union,
    (gpuSamples_merge S h g).mem_iff, List.mem_append, or_and_right, exists_or]

theorem reportedCount_merge (h : zs.Perm (xs ++ ys)) (g : ℕ) :
    (TelemetryWindow.make S zs).reportedCount g =
      (TelemetryWindow.make S xs).reportedCount g +
        (TelemetryWindow.make S ys).reportedCount g := by
  simp only [TelemetryWindow.reportedCount, (gpuSamples_merge S h g).countP_eq,
    List.countP_append]

/-- **Driver evidence dominates and accumulates.**  Over the snapshots of two
    lists, merged in any order, the driver's active reasons are those over either
    list.  Where there are any, the device is suspected of throttling with full
    confidence, for exactly these reasons, sorted and without repetition, on the
    reporting rows of both lists. -/
theorem driver_evidence (S : Sorter Z.lt) (h : zs.Perm (xs ++ ys)) (g : ℕ) :
    (TelemetryWindow.make S zs).driverReasons g =
      (TelemetryWindow.make S xs).driverReasons g ∪
        (TelemetryWindow.make S ys).driverReasons g ∧
    (((TelemetryWindow.make S xs).driverReasons g ∪
        (TelemetryWindow.make S ys).driverReasons g).Nonempty →
      ∃ reasons : List String, reasons.Pairwise (· < ·) ∧
        (∀ reason, reason ∈ reasons ↔ reason ∈ (TelemetryWindow.make S zs).driverReasons g) ∧
        (TelemetryWindow.make S zs).suspectedThrottling g =
          ⟨g, .suspected, "driver_reported:" ++ ",".intercalate reasons, 1,
            (TelemetryWindow.make S xs).reportedCount g +
              (TelemetryWindow.make S ys).reportedCount g⟩) := by
  have hunion := driverReasons_merge S h g
  refine ⟨hunion, fun hreported => ?_⟩
  rw [← hunion] at hreported
  refine ⟨_, activeReasons_sorted _, fun reason => mem_activeReasons, ?_⟩
  rw [suspectedThrottling_of_driver hreported, reportedCount_merge S h g]

/-- Two samples at one instant and one before them. -/
def tiedSamples : List (TelemetrySnapshot ℚ) :=
  [(5, 90, "sw_power_cap"), (5, 30, "gpu_idle"), (1, 60, "hw_slowdown")].map fun p =>
    { timestamp := ⟨0, p.1, false⟩
      gpus := [{ index := 0, measurement := fun f => if f = .powerWatts then some p.2.1 else none,
                 throttleReasons := [p.2.2], throttleReasonsAvailable := true }] }

/-- A reason of the first list is among those of the merged window, on all three rows. -/
theorem driver_evidence_tied :
    ∃ reasons : List String, "hw_slowdown" ∈ reasons ∧
      (TelemetryWindow.make (Sorter.insertion utcZones.lt)
        (tiedSamples.drop 1 ++ tiedSamples.take 1)).suspectedThrottling 0 =
          ⟨0, .suspected, "driver_reported:" ++ ",".intercalate reasons, 1, 3⟩ := by
  obtain ⟨hunion, hverdict⟩ := driver_evidence (Sorter.insertion utcZones.lt)
    (List.Perm.refl (tiedSamples.drop 1 ++ tiedSamples.take 1)) 0
  have hmem : "hw_slowdown" ∈ (TelemetryWindow.make (Sorter.insertion utcZones.lt)
      (tiedSamples.drop 1)).driverReasons 0 := by
    rw [TelemetryWindow.driverReasons, Set.mem_ofPred_eq, ← mem_activeReasons]
    decide +kernel
  obtain ⟨reasons, -, hreasons, heq⟩ := hverdict ⟨_, .inl hmem⟩
  refine ⟨reasons, ?_, heq.trans ?_⟩
  · rw [hreasons, hunion]
    exact .inl hmem
  · have hcount : (TelemetryWindow.make (Sorter.insertion utcZones.lt)
        (tiedSamples.drop 1)).reportedCount 0 +
          (TelemetryWindow.make (Sorter.insertion utcZones.lt)
            (tiedSamples.take 1)).reportedCount 0 = 3 := by decide +kernel
    rw [hcount]

end SweatMeter
