/-
  Windows over a series with snapshots that tell nothing about a device.

  A snapshot is silent on a device if it lacks the device or has a row for it on
  which nothing is supported.  Silent snapshots add no reading, no reason and no
  clock.  They take part in the integration only as the end of an interval, which
  they cut short: the power of the interval's start counts for less time.
-/
import Mathlib.Algebra.Order.Field.Basic
import Mathlib.Tactic.Linarith
import SweatMeter.SampleOrder

namespace SweatMeter

open Py

variable {Z : Zones} {g : ℕ} {xs ys : List (TelemetrySnapshot ℚ)}
  {samples samples' reported reported' : List (GpuSample ℚ)}

/-- Nothing is supported on the row. -/
structure GpuSample.Silent (x : GpuSample ℚ) : Prop where
  measurement : ∀ f, x.measurement f = none
  throttleReasons : x.throttleReasons = []
  throttleReasonsAvailable : x.throttleReasonsAvailable = false

/-- The snapshot has no row of device `g` on which anything is supported. -/
def Silent (g : ℕ) (x : TelemetrySnapshot ℚ) : Prop := ∀ row, x.gpu g = some row → row.Silent

/-- The powers of device `g` are not negative. -/
def NonnegPower (g : ℕ) (xs : List (TelemetrySnapshot ℚ)) : Prop :=
  ∀ x ∈ xs, ∀ row w, x.gpu g = some row → row.measurement .powerWatts = some w → 0 ≤ w

/-! ## The verdict -/

theorem clockDropFrom_inserted (h : Inserted GpuSample.Silent samples samples') (m : Option ℚ) :
    clockDropFrom m samples' = clockDropFrom m samples := by
  induction h generalizing m with
  | nil => rfl
  | keep x _ ih =>
    simp only [clockDropFrom]
    cases x.measurement .coreClockMhz with
    | none => exact ih m
    | some clock =>
      cases m with
      | none => exact ih _
      | some m => simp only [ih]
  | insert z hz _ ih =>
    simp only [clockDropFrom, hz.measurement]
    exact ih m

/-- The reporting rows decide the reason of a clock verdict, not its state. -/
theorem clockVerdict_state
    (hclock : samples.filter (fun x => (x.measurement .coreClockMhz).isSome) =
      samples'.filter fun x => (x.measurement .coreClockMhz).isSome)
    (hdrop : substantialClockDrop samples = substantialClockDrop samples') :
    (clockVerdict g samples reported).verdict = (clockVerdict g samples' reported').verdict := by
  simp only [clockVerdict, hclock, hdrop]
  cases substantialClockDrop samples' with
  | none =>
    simp only
    split_ifs <;> rfl
  | some drop => rfl

theorem throttleVerdict_inserted (h : Inserted GpuSample.Silent samples samples') :
    (throttleVerdict g samples').verdict = (throttleVerdict g samples).verdict := by
  have hreported : reportedRows samples' = reportedRows samples :=
    h.filter_eq fun z hz => hz.throttleReasonsAvailable
  simp only [throttleVerdict, hreported]
  split_ifs
  · rfl
  · refine clockVerdict_state (h.filter_eq fun z hz => ?_) (clockDropFrom_inserted h none)
    rw [hz.measurement, Option.isSome_none]

/-! ## The energy -/

/-- The energy over a chronological series, zero where nothing is measured. -/
def energySum (Z : Zones) (g : ℕ) (xs : List (TelemetrySnapshot ℚ)) : ℚ :=
  ((pairwise xs).filterMap fun p => rectangle Z g p.1 p.2).sum

theorem energySum_cons (a b : TelemetrySnapshot ℚ) (xs : List (TelemetrySnapshot ℚ)) :
    energySum Z g (a :: b :: xs) = (rectangle Z g a b).getD 0 + energySum Z g (b :: xs) := by
  have hpairs : pairwise (a :: b :: xs) = (a, b) :: pairwise (b :: xs) := rfl
  rw [energySum, hpairs, List.filterMap_cons]
  cases h : rectangle Z g a b with
  | none => simp [energySum]
  | some e => simp [energySum]

theorem Chronological.energyJoules_getD (S : Sorter Z.lt) (h : Chronological Z xs) (g : ℕ) :
    ((TelemetryWindow.make S xs).energyJoules Z g).getD 0 = energySum Z g xs := by
  rw [TelemetryWindow.energyJoules, h.energyTerms_eq S g, energySum]
  split_ifs with hnil
  · rw [hnil]; rfl
  · rfl

theorem rectangle_of_silent {a b : TelemetrySnapshot ℚ} (h : Silent g a) :
    rectangle Z g a b = none := by
  rw [rectangle]
  split_ifs
  · cases hrow : a.gpu g with
    | none => rfl
    | some row => simp [(h row hrow).measurement]
  · rfl

/-- The power device `g` reports, zero if none. -/
def reportedPower (g : ℕ) (x : TelemetrySnapshot ℚ) : ℚ :=
  ((x.gpu g).bind fun row => row.measurement .powerWatts).getD 0

theorem rectangle_getD (a b : TelemetrySnapshot ℚ) : (rectangle Z g a b).getD 0 =
    reportedPower g a *
      ((max 0 (Z.instant b.timestamp - Z.instant a.timestamp) : ℤ) / 1000000 : ℚ) := by
  rw [rectangle, reportedPower]
  split_ifs with hlt
  · rw [max_eq_right (by omega)]
    cases (a.gpu g).bind fun row => row.measurement .powerWatts <;> simp
  · rw [max_eq_left (by omega)]
    simp

theorem NonnegPower.reportedPower (h : NonnegPower g xs) {x : TelemetrySnapshot ℚ} (hx : x ∈ xs) :
    0 ≤ reportedPower g x := by
  unfold SweatMeter.reportedPower
  cases hrow : x.gpu g with
  | none => simp
  | some row =>
    cases hw : row.measurement .powerWatts with
    | none => simp [hw]
    | some w => simpa [hw] using h x hx row w hrow hw

/-- A shorter interval counts for less. -/
theorem rectangle_mono {a b c : TelemetrySnapshot ℚ} (ha : 0 ≤ reportedPower g a)
    (hcb : Z.instant c.timestamp ≤ Z.instant b.timestamp) :
    (rectangle Z g a c).getD 0 ≤ (rectangle Z g a b).getD 0 := by
  rw [rectangle_getD, rectangle_getD]
  refine mul_le_mul_of_nonneg_left (div_le_div_of_nonneg_right ?_ (by norm_num)) ha
  exact_mod_cast max_le_max_left 0 (by omega)

theorem energySum_of_silent (h : ∀ x ∈ xs, Silent g x) : energySum Z g xs = 0 := by
  have hnone : (pairwise xs).filterMap (fun p => rectangle Z g p.1 p.2) = [] :=
    List.filterMap_eq_nil_iff.2 fun p hp => rectangle_of_silent (h p.1 (mem_of_mem_pairwise hp).1)
  rw [energySum, hnone, List.sum_nil]

/-- Silent snapshots up to the last instant do not add energy. -/
theorem energySum_inserted (h : Inserted (Silent g) xs ys)
    (hordered : ys.Pairwise fun a b => Z.instant a.timestamp ≤ Z.instant b.timestamp)
    (hpower : NonnegPower g xs)
    (hlast : ∀ y ∈ ys, ∃ x ∈ xs, Z.instant y.timestamp ≤ Z.instant x.timestamp) :
    energySum Z g ys ≤ energySum Z g xs := by
  induction h with
  | nil => exact le_rfl
  | @insert xs ys z hz h ih =>
    have hys := ih hordered.of_cons hpower fun y hy => hlast y (List.mem_cons_of_mem z hy)
    cases ys with
    | nil => exact hys
    | cons c ys =>
      rw [energySum_cons, rectangle_of_silent hz]
      simpa using hys
  | @keep xs ys a h ih =>
    obtain ⟨ha, hys⟩ := List.pairwise_cons.1 hordered
    cases ys with
    | nil =>
      rw [List.sublist_nil.1 h.sublist]
    | cons c ys =>
      have hac := ha c List.mem_cons_self
      rw [energySum_cons]
      cases xs with
      | nil =>
        -- `a` was the last snapshot, and what follows it now is at the same instant
        have hca : Z.instant c.timestamp ≤ Z.instant a.timestamp := by
          obtain ⟨x, hx, hcx⟩ := hlast c (by simp)
          rwa [List.mem_singleton.1 hx] at hcx
        have hgap : rectangle Z g a c = none := if_neg (by omega)
        rw [hgap, energySum_of_silent h.forall_of_nil]
        simp [energySum, pairwise]
      | cons b xs =>
        have hcb : Z.instant c.timestamp ≤ Z.instant b.timestamp := by
          rcases List.mem_cons.1 (h.sublist.subset List.mem_cons_self) with rfl | hb
          · exact le_rfl
          · exact (List.pairwise_cons.1 hys).1 b hb
        have hfirst := rectangle_mono (hpower.reportedPower List.mem_cons_self) hcb
        have hrest := ih hys (fun x hx => hpower x (List.mem_cons_of_mem a hx)) ?_
        · rw [energySum_cons]
          exact add_le_add hfirst hrest
        · intro y hy
          obtain ⟨x, hx, hyx⟩ := hlast y (List.mem_cons_of_mem a hy)
          rcases List.mem_cons.1 hx with rfl | hx
          · exact ⟨b, by simp, hyx.trans (hac.trans hcb)⟩
          · exact ⟨x, hx, hyx⟩

/-! ## A window -/

/-- Sorted by instant, the silent snapshots are still inserted among the others. -/
theorem make_inserted (S : Sorter Z.lt) (h : Inserted (Silent g) xs ys)
    (hutc : ∀ y ∈ ys, Z.IsUtc y.timestamp) :
    Inserted (Silent g) (TelemetryWindow.make S xs).samples
      (TelemetryWindow.make S ys).samples := by
  rw [make_samples_of_utc S fun x hx => hutc x (h.sublist.subset hx), make_samples_of_utc S hutc]
  exact h.insertionSort (r := NotLater Z)

theorem chronological_make (S : Sorter Z.lt) (hutc : ∀ x ∈ xs, Z.IsUtc x.timestamp) :
    Chronological Z (TelemetryWindow.make S xs).samples := by
  constructor
  · intro x hx
    exact hutc x ((samples_perm S xs).mem_iff.1 hx)
  · exact make_ordered S hutc

/-- The window's own samples give the energy of the window. -/
theorem energyJoules_make (S : Sorter Z.lt) (hutc : ∀ x ∈ xs, Z.IsUtc x.timestamp) :
    ((TelemetryWindow.make S xs).energyJoules Z g).getD 0 =
      energySum Z g (TelemetryWindow.make S xs).samples := by
  have hchron := chronological_make S hutc
  have hagain : TelemetryWindow.make S (TelemetryWindow.make S xs).samples =
      TelemetryWindow.make S xs := congrArg TelemetryWindow.mk (hchron.samples S)
  rw [← hchron.energyJoules_getD S g, hagain]

/-- **Missing data is neutral.**  Snapshots in UTC that are silent on a device,
    inserted anywhere among others, leave its peaks, mean and counts and the state
    of its verdict.  If none of them is after the last of the others and no power
    is negative, the energy, where there was one, is unsupported or not larger. -/
theorem missing_data_neutral (S : Sorter Z.lt) (h : Inserted (Silent g) xs ys)
    (hutc : ∀ y ∈ ys, Z.IsUtc y.timestamp) (hpower : NonnegPower g xs) :
    SameAggregates Z g (TelemetryWindow.make S ys) (TelemetryWindow.make S xs) ∧
    ((TelemetryWindow.make S ys).suspectedThrottling g).verdict =
      ((TelemetryWindow.make S xs).suspectedThrottling g).verdict ∧
    ((∀ y ∈ ys, ∃ x ∈ xs, Z.instant y.timestamp ≤ Z.instant x.timestamp) →
      ∀ e e', (TelemetryWindow.make S xs).energyJoules Z g = some e →
        (TelemetryWindow.make S ys).energyJoules Z g = some e' → e' ≤ e) := by
  have hutc' : ∀ x ∈ xs, Z.IsUtc x.timestamp := fun x hx => hutc x (h.sublist.subset hx)
  have hsamples := make_inserted S h hutc
  have hrows : Inserted GpuSample.Silent ((TelemetryWindow.make S xs).gpuSamples g)
      ((TelemetryWindow.make S ys).gpuSamples g) := hsamples.filterMap fun z hz => hz
  refine ⟨sameAggregates_of_perm fun field => ?_, throttleVerdict_inserted hrows, ?_⟩
  · have hvalues : (TelemetryWindow.make S ys).measurements g field =
        (TelemetryWindow.make S xs).measurements g field :=
      hrows.filterMap_eq fun z hz => hz.measurement field
    rw [hvalues]
  · intro hlast e e' he he'
    have hle := energySum_inserted hsamples (chronological_make S hutc).ordered
      (fun x hx => hpower x ((samples_perm S xs).mem_iff.1 hx)) fun y hy => by
        obtain ⟨x, hx, hyx⟩ := hlast y ((samples_perm S ys).mem_iff.1 hy)
        exact ⟨x, (samples_perm S xs).mem_iff.2 hx, hyx⟩
    rw [← energyJoules_make S hutc, ← energyJoules_make S hutc', he, he'] at hle
    exact hle

/-- A snapshot of another device, a second after the first of the metered series. -/
def interruption : TelemetrySnapshot ℚ :=
  { timestamp := ⟨0, 1000000, false⟩, gpus := [{ index := 1 }] }

/-- The mean stays, and the energy does not exceed the 200 J it had. -/
theorem missing_data_neutral_interrupted :
    (TelemetryWindow.make (Sorter.insertion utcZones.lt)
      (interruption :: meteredSamples)).meanPowerWatts 0 = some 50 ∧
    ∀ e', (TelemetryWindow.make (Sorter.insertion utcZones.lt)
      (interruption :: meteredSamples)).energyJoules utcZones 0 = some e' → e' ≤ 200 := by
  have hsilent : Inserted (Silent 0) meteredSamples (interruption :: meteredSamples) := by
    refine .insert _ ?_ (.refl _)
    intro row hrow
    cases hrow
  have hpower : NonnegPower 0 meteredSamples := by
    intro x hx row w hrow hw
    obtain ⟨p, hp, rfl⟩ := List.mem_map.1 hx
    cases hrow
    obtain rfl : p.2 = w := by simpa using hw
    simp only [List.mem_cons, List.not_mem_nil, or_false] at hp
    rcases hp with rfl | rfl | rfl <;> norm_num
  have h := missing_data_neutral (Sorter.insertion utcZones.lt) hsilent
    (fun y _ => (rfl : utcZones.IsUtc y.timestamp)) hpower
  refine ⟨h.1.meanPowerWatts.trans (by decide +kernel), fun e' he' => ?_⟩
  refine h.2.2 ?_ 200 e' (by decide +kernel) he'
  simp [interruption, meteredSamples, Zones.instant, utcZones]

end SweatMeter
