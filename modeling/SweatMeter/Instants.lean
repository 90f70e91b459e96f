/-
  What a window's results depend on: the instants of its samples, or the way
  their timestamps are written.

  Python compares and subtracts two datetimes that share a `tzinfo` by wall
  clock.  Around a change of offset the window then sorts its samples, or
  measures an interval, differently from the instants (`window_fold`).
  `window_utc_iff` says exactly for which timestamps this can be seen in no
  result: `TimesAgree`.
-/
import Mathlib.Tactic.FieldSimp
import SweatMeter.Window

namespace SweatMeter

open Py

variable {Z : Zones} (S : Sorter Z.lt)

/-- The snapshot with its timestamp expressed in UTC. -/
def TelemetrySnapshot.atUtc {ν : Type} (Z : Zones) (x : TelemetrySnapshot ν) : TelemetrySnapshot ν :=
  { x with timestamp := Z.toUtc x.timestamp }

/-- Two windows give the same time-dependent results for every device. -/
def SameResults (Z : Zones) (W W' : TelemetryWindow ℚ) : Prop :=
  ∀ g, W.energyJoules Z g = W'.energyJoules Z g ∧
    W.supportedSampleCount Z .energyJoules g = W'.supportedSampleCount Z .energyJoules g ∧
    W.suspectedThrottling g = W'.suspectedThrottling g

/-- Python sorts the timestamps by instant, and the elapsed time it computes
    between neighbours is the difference of their instants, unless neither is
    positive. -/
def TimesAgree (ts : List Datetime) : Prop :=
  S.order ts = Z.instantOrder ts ∧ ∀ p ∈ pairwise (S.sorted id ts),
    max 0 (Z.sub p.2 p.1) = max 0 (Z.instant p.2 - Z.instant p.1)

/-! ## Timestamps that agree -/

theorem sorted_timestamps (xs : List (TelemetrySnapshot ℚ)) :
    (S.sorted (fun x => x.timestamp) xs).map (fun x => x.timestamp) =
      S.sorted id (xs.map fun x => x.timestamp) := by
  simp only [Sorter.sorted, List.map_filterMap, List.getElem?_map, List.map_id]

/-- On agreeing timestamps the UTC samples are the samples, each written in UTC. -/
theorem make_atUtc {xs : List (TelemetrySnapshot ℚ)}
    (h : S.order (xs.map fun x => x.timestamp) = Z.instantOrder (xs.map fun x => x.timestamp)) :
    (TelemetryWindow.make S (xs.map (·.atUtc Z))).samples =
      (TelemetryWindow.make S xs).samples.map (·.atUtc Z) := by
  have hkeys : (xs.map (·.atUtc Z)).map (fun x => x.timestamp) =
      (xs.map fun x => x.timestamp).map Z.toUtc := by simp [TelemetrySnapshot.atUtc]
  simp only [TelemetryWindow.make, Sorter.sorted, hkeys, Z.order_toUtc, h, List.map_filterMap,
    List.getElem?_map]

theorem energyTerm_congr {a b : TelemetrySnapshot ℚ} (g : ℕ)
    (h : max 0 (Z.sub b.timestamp a.timestamp) =
      max 0 (Z.instant b.timestamp - Z.instant a.timestamp)) :
    TelemetryWindow.energyTerm Z g (a.atUtc Z, b.atUtc Z) = TelemetryWindow.energyTerm Z g (a, b) := by
  simp only [TelemetryWindow.energyTerm, TelemetrySnapshot.atUtc, Z.sub_toUtc]
  by_cases hs : Z.sub b.timestamp a.timestamp ≤ 0
  · rw [if_pos hs, if_pos (by omega)]
  · rw [if_neg hs, if_neg (by omega),
      show Z.instant b.timestamp - Z.instant a.timestamp = Z.sub b.timestamp a.timestamp by omega]
    rfl

theorem sameResults_of_timesAgree {xs : List (TelemetrySnapshot ℚ)}
    (h : TimesAgree S (xs.map fun x => x.timestamp)) :
    SameResults Z (TelemetryWindow.make S xs) (TelemetryWindow.make S (xs.map (·.atUtc Z))) := by
  obtain ⟨hord, hsub⟩ := h
  have hs := make_atUtc S hord
  have hterms : ∀ g, (TelemetryWindow.make S (xs.map (·.atUtc Z))).energyTerms Z g =
      (TelemetryWindow.make S xs).energyTerms Z g := by
    intro g
    rw [TelemetryWindow.energyTerms, hs, pairwise_map, List.filterMap_map]
    refine List.filterMap_congr ?_
    intro p hp
    refine energyTerm_congr g (hsub (p.1.timestamp, p.2.timestamp) ?_)
    rw [← sorted_timestamps, pairwise_map]
    exact List.mem_map_of_mem hp
  have hgpu : ∀ g, (TelemetryWindow.make S (xs.map (·.atUtc Z))).gpuSamples g =
      (TelemetryWindow.make S xs).gpuSamples g := by
    intro g
    rw [TelemetryWindow.gpuSamples, hs, List.filterMap_map]; rfl
  intro g
  refine ⟨?_, ?_, ?_⟩
  · rw [TelemetryWindow.energyJoules, TelemetryWindow.energyJoules, hterms]
  · simp only [TelemetryWindow.supportedSampleCount, hterms]
  · rw [TelemetryWindow.suspectedThrottling, TelemetryWindow.suspectedThrottling, hgpu]

/-! ## Timestamps that do not agree -/

/-- Snapshots at the times `ts`, of which the `k`-th has the row `row k` for device 0. -/
def withRows (ts : List Datetime) (row : ℕ → Option (GpuField → Option ℚ)) :
    List (TelemetrySnapshot ℚ) :=
  ts.mapIdx fun k t =>
    { timestamp := t, gpus := ((row k).map fun m => { index := 0, measurement := m }).toList }

theorem withRows_timestamp (ts : List Datetime) (row : ℕ → Option (GpuField → Option ℚ)) :
    (withRows ts row).map (fun x => x.timestamp) = ts := by
  apply List.ext_getElem?
  intro i
  simp [withRows, List.getElem?_mapIdx, Function.comp_def]

/-- The snapshot at position `k` of `withRows`. -/
def rowAt (ts : List Datetime) (row : ℕ → Option (GpuField → Option ℚ)) (k : ℕ) :
    TelemetrySnapshot ℚ :=
  { timestamp := ts.getD k ⟨0, 0, false⟩
    gpus := ((row k).map fun m => { index := 0, measurement := m }).toList }

theorem rowAt_gpu (ts : List Datetime) (row : ℕ → Option (GpuField → Option ℚ)) (k : ℕ) :
    (rowAt ts row k).gpu 0 = (row k).map fun m => { index := 0, measurement := m } := by
  cases h : row k <;> simp [rowAt, TelemetrySnapshot.gpu, h]

/-- The samples of a window over `withRows`, by position. -/
theorem make_withRows (ts : List Datetime) (row : ℕ → Option (GpuField → Option ℚ)) :
    (TelemetryWindow.make S (withRows ts row)).samples = (S.order ts).map (rowAt ts row) := by
  rw [TelemetryWindow.make, Sorter.sorted, withRows_timestamp]
  refine List.filterMap_eq_map_iff_forall_eq_some.2 ?_
  intro i hi
  have hlt := S.mem_order.1 hi
  simp [withRows, rowAt, hlt]

theorem withRows_atUtc (ts : List Datetime) (row : ℕ → Option (GpuField → Option ℚ)) :
    (withRows ts row).map (·.atUtc Z) = withRows (ts.map Z.toUtc) row := by
  apply List.ext_getElem?
  intro i
  simp [withRows, List.getElem?_mapIdx, Function.comp_def, TelemetrySnapshot.atUtc]

theorem gpuSamples_withRows (ts : List Datetime) (row : ℕ → Option (GpuField → Option ℚ)) :
    (TelemetryWindow.make S (withRows ts row)).gpuSamples 0 =
      (S.order ts).filterMap fun k => (row k).map fun m => { index := 0, measurement := m } := by
  rw [TelemetryWindow.gpuSamples, make_withRows, List.filterMap_map]
  exact List.filterMap_congr fun k _ => rowAt_gpu ts row k

/-- A row that reports only a core clock and a temperature. -/
def clockRow (clock temperature : ℚ) : GpuField → Option ℚ
  | .coreClockMhz => some clock
  | .temperatureC => some temperature
  | _ => none

/-- Position `i` runs at full clock, position `j` is hot and at half clock. -/
def throttledAt (i j k : ℕ) : Option (GpuField → Option ℚ) :=
  if k = i then some (clockRow 100 50) else if k = j then some (clockRow 50 90) else none

theorem gpuSamples_throttledAt {ts : List Datetime} {i j a b : ℕ} (hab : [a, b].Sublist (S.order ts))
    (h : ({a, b} : Set ℕ) = {i, j}) :
    (TelemetryWindow.make S (withRows ts (throttledAt i j))).gpuSamples 0 =
      ((throttledAt i j a).map fun m => { index := 0, measurement := m }).toList ++
        ((throttledAt i j b).map fun m => { index := 0, measurement := m }).toList := by
  rw [gpuSamples_withRows]
  refine filterMap_pair (S.nodup ts) hab ?_
  intro c _ hca hcb
  have hc : c ∉ ({i, j} : Set ℕ) := by rw [← h]; simp [hca, hcb]
  simp only [Set.mem_insert_iff, Set.mem_singleton_iff, not_or] at hc
  simp [throttledAt, hc.1, hc.2]

/-- A drop of the clock is a drop only in the order full clock, half clock. -/
theorem verdict_throttledAt {ts : List Datetime} {i j : ℕ} (hij : i ≠ j) :
    ([i, j].Sublist (S.order ts) →
      ((TelemetryWindow.make S (withRows ts (throttledAt i j))).suspectedThrottling 0).verdict =
        .suspected) ∧
    ([j, i].Sublist (S.order ts) →
      ((TelemetryWindow.make S (withRows ts (throttledAt i j))).suspectedThrottling 0).verdict =
        .notSuspected) := by
  have hi : throttledAt i j i = some (clockRow 100 50) := if_pos rfl
  have hj : throttledAt i j j = some (clockRow 50 90) := by
    rw [throttledAt, if_neg (Ne.symm hij), if_pos rfl]
  constructor
  · intro h
    rw [TelemetryWindow.suspectedThrottling, gpuSamples_throttledAt S h rfl, hi, hj]
    decide +kernel
  · intro h
    rw [TelemetryWindow.suspectedThrottling, gpuSamples_throttledAt S h (Set.pair_comm j i), hi, hj]
    decide +kernel

theorem order_of_sameResults {ts : List Datetime}
    (h : ∀ row, SameResults Z (TelemetryWindow.make S (withRows ts row))
      (TelemetryWindow.make S ((withRows ts row).map (·.atUtc Z)))) :
    S.order ts = Z.instantOrder ts := by
  by_contra hne
  have hperm : (S.order ts).Perm (Z.instantOrder ts) := by
    rw [← Z.order_toUtc S]
    exact (S.perm ts).trans (by simpa using (S.perm (ts.map Z.toUtc)).symm)
  obtain ⟨i, j, h1, h2⟩ :=
    exists_swapped hperm (hperm.nodup_iff.1 (S.nodup ts)) hne
  have hij : i ≠ j := by simpa using h1.nodup (S.nodup ts)
  have hv := congrArg ThrottleVerdict.verdict (h (throttledAt i j) 0).2.2
  rw [← Z.order_toUtc S] at h2
  rw [withRows_atUtc, (verdict_throttledAt S hij).1 h1, (verdict_throttledAt S hij).2 h2] at hv
  cases hv

/-- Only position `p` reports power, one watt. -/
def poweredAt (p k : ℕ) : Option (GpuField → Option ℚ) :=
  if k = p then some fun f => if f = .powerWatts then some 1 else none else none

/-- One watt over one interval, if it is positive. -/
def wattSeconds (elapsed : ℤ) : Option ℚ :=
  if elapsed ≤ 0 then none else some (elapsed / 1000000)

theorem wattSeconds_inj {x y : ℤ} (h : wattSeconds x = wattSeconds y) : max 0 x = max 0 y := by
  unfold wattSeconds at h
  split_ifs at h with hx hy
  · omega
  · have hq : (x : ℚ) = y := by
      have := Option.some.inj h
      field_simp at this; exact this
    have : x = y := by exact_mod_cast hq
    omega

theorem energy_poweredAt {ts : List Datetime} {p q : ℕ} (hp : (p, q) ∈ pairwise (S.order ts)) :
    (TelemetryWindow.make S (withRows ts (poweredAt p))).energyJoules Z 0 =
      wattSeconds (Z.sub (ts.getD q ⟨0, 0, false⟩) (ts.getD p ⟨0, 0, false⟩)) := by
  have hterms : (TelemetryWindow.make S (withRows ts (poweredAt p))).energyTerms Z 0 =
      (wattSeconds (Z.sub (ts.getD q ⟨0, 0, false⟩) (ts.getD p ⟨0, 0, false⟩))).toList := by
    rw [TelemetryWindow.energyTerms, make_withRows, pairwise_map, List.filterMap_map,
      filterMap_single (nodup_pairwise (S.nodup ts)) hp]
    · simp only [Function.comp_apply, Prod.map, TelemetryWindow.energyTerm, rowAt_gpu]
      simp [rowAt, poweredAt, wattSeconds]
    · intro c hc hne
      have hcp : c.1 ≠ p := fun h => hne (pairwise_inj (S.nodup ts) hc hp h)
      simp only [Function.comp_apply, Prod.map, TelemetryWindow.energyTerm, rowAt_gpu]
      simp [poweredAt, hcp]
  rw [TelemetryWindow.energyJoules, hterms]
  cases wattSeconds _ <;> simp

theorem sub_of_sameResults {ts : List Datetime} (hord : S.order ts = Z.instantOrder ts)
    (h : ∀ row, SameResults Z (TelemetryWindow.make S (withRows ts row))
      (TelemetryWindow.make S ((withRows ts row).map (·.atUtc Z)))) :
    ∀ p ∈ pairwise (S.sorted id ts),
      max 0 (Z.sub p.2 p.1) = max 0 (Z.instant p.2 - Z.instant p.1) := by
  rw [S.sorted_eq_map id ts ⟨0, 0, false⟩, List.map_id, pairwise_map]
  intro c hc
  obtain ⟨⟨p, q⟩, hpq, rfl⟩ := List.mem_map.1 hc
  have hutc : ∀ k, (ts.map Z.toUtc).getD k ⟨0, 0, false⟩ = Z.toUtc (ts.getD k ⟨0, 0, false⟩) := by
    intro k
    rw [List.getD_eq_getElem?_getD, List.getD_eq_getElem?_getD, List.getElem?_map]
    cases ts[k]? <;> simp [Zones.toUtc, Zones.instant, Z.utc]
  have he := (h (poweredAt p) 0).1
  rw [withRows_atUtc, energy_poweredAt S hpq,
    energy_poweredAt S (by rw [Z.order_toUtc, ← hord]; exact hpq), hutc, hutc, Z.sub_toUtc] at he
  exact wattSeconds_inj he

/-- **When a window depends on the instants of its samples only.**  Writing the
    timestamps `ts` in UTC changes no result, whatever the samples report,
    exactly if Python's order and elapsed times on `ts` agree with the instants. -/
theorem window_utc_iff (Z : Zones) (S : Sorter Z.lt) (ts : List Datetime) :
    (∀ xs : List (TelemetrySnapshot ℚ), xs.map (fun x => x.timestamp) = ts →
      SameResults Z (TelemetryWindow.make S xs) (TelemetryWindow.make S (xs.map (·.atUtc Z)))) ↔
    TimesAgree S ts := by
  constructor
  · intro h
    have hrow := fun row => h (withRows ts row) (withRows_timestamp ts row)
    have hord := order_of_sameResults S hrow
    exact ⟨hord, sub_of_sameResults S hord hrow⟩
  · rintro h xs rfl
    exact sameResults_of_timesAgree S h

/-- Zone `1` has offset +02:00 until 03:00 and +01:00 after the clock is set
    back to 02:00. -/
def foldZones : Zones where
  utcoffset
    | 1, wall, fold => if wall < 7200000000 ∨ (wall < 10800000000 ∧ !fold) then 7200000000
      else 3600000000
    | _, _, _ => 0
  utc _ _ := rfl

/-- Two samples at 100 W, at 02:30 and forty minutes later at 02:10. -/
def foldSamples : List (TelemetrySnapshot ℚ) :=
  [(9000000000, false), (7800000000, true)].map fun (wall, fold) =>
    { timestamp := ⟨1, wall, fold⟩
      gpus := [{ index := 0, measurement := fun f => if f = .powerWatts then some 100 else none }] }

/-- The window integrates 120 kJ over the fold where it integrates 240 kJ over
    the same instants in UTC. -/
theorem window_fold :
    ¬ SameResults foldZones (TelemetryWindow.make (Sorter.insertion foldZones.lt) foldSamples)
      (TelemetryWindow.make (Sorter.insertion foldZones.lt) (foldSamples.map (·.atUtc foldZones))) := by
  intro h
  have hlocal : (TelemetryWindow.make (Sorter.insertion foldZones.lt) foldSamples).energyJoules
      foldZones 0 = some 120000 := by decide +kernel
  have hutc : (TelemetryWindow.make (Sorter.insertion foldZones.lt)
      (foldSamples.map (·.atUtc foldZones))).energyJoules foldZones 0 = some 240000 := by
    decide +kernel
  have he := (h 0).1
  rw [hlocal, hutc] at he
  exact absurd he (by decide +kernel)

end SweatMeter
