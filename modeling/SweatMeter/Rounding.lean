/-
  Where rounding does not show.

  The heuristic compares a clock with the maximum before it times a double near 0.85,
  rounded to a double.  For whole clocks this is the exact comparison with 85%
  (`kept_iff`): a whole clock above 85% is further from it than the rounded product.
  Likewise a power is compared with 95% of its limit, unless it is in the last places
  below (`limit_iff`).  On such rows a window in Python's numbers has the aggregates of
  the window in exact arithmetic (`exact_aggregates`).
-/
import SweatMeter.Binary64
import SweatMeter.Energy

namespace SweatMeter

open Py Number

namespace Binary64

/-! ## The comparisons -/

theorem clockKept_eq : clockKept = 7656119366529843 / 2 ^ 53 := by decide +kernel

theorem powerLimit_eq : rounded powerLimitFraction = 8556839292003942 / 2 ^ 53 := by
  decide +kernel

/-- Of whole clocks, those at or below the rounded product are those at or below 85%. -/
theorem kept_iff {m c : ℕ} (hm : m < 2 ^ 48) :
    (c : ℚ) ≤ rounded (m * clockKept) ↔ (c : ℚ) ≤ m * (1 - clockDropFraction) := by
  have hfraction : 1 - clockDropFraction = 17 / 20 := by norm_num [clockDropFraction]
  have hkept := clockKept_eq
  rw [hfraction]
  rcases Nat.eq_zero_or_pos m with rfl | hpos
  · simp [rounded_zero]
  · have hone : (1 : ℚ) ≤ m := by exact_mod_cast hpos
    have hlimit : (m : ℚ) < 2 ^ 48 := by exact_mod_cast hm
    have hq : 0 < m * clockKept := by
      rw [hkept]
      positivity
    have hlt : |m * clockKept| < 2 ^ ((-5 : ℤ) + 53) := by
      rw [abs_of_pos hq, hkept]
      norm_num only at hlimit ⊢
      linarith
    constructor
    · intro hle
      by_contra hnot
      -- a whole clock above 85% is at least a twentieth above it
      have hgap : 17 * m + 1 ≤ 20 * c := by
        have habove : ((17 * m : ℕ) : ℚ) < (20 * c : ℕ) := by
          push_cast
          linarith
        exact_mod_cast habove
      have hgap' : (17 * m + 1 : ℚ) ≤ 20 * c := by exact_mod_cast hgap
      have hulp := ulp_pos (m * clockKept)
      have hbelow := rounded_le (n := -5) (a := 32 * c - 1) (by norm_num) hq.ne' hlt ?_
      · push_cast at hbelow
        norm_num at hbelow
        linarith
      · push_cast
        rw [hkept] at hulp ⊢
        norm_num at hulp ⊢
        linarith
    · intro hle
      -- the product falls short of 85% by less than half a last place
      have hulp := abs_lt_ulp (m * clockKept)
      rw [abs_of_pos hq] at hulp
      have habove := le_rounded (n := -5) (a := 32 * c) (by norm_num) hq.ne' hlt ?_
      · push_cast at habove
        norm_num at habove
        linarith
      · push_cast
        rw [hkept] at hulp ⊢
        norm_num at hulp ⊢
        linarith

/-- A quotient that is not in the last places below 95% is compared as it is. -/
theorem limit_iff {q : ℚ} (hlarge : |q| < 2 ^ 48)
    (h : q ≤ powerLimitFraction - 1 / 2 ^ 52 ∨ powerLimitFraction ≤ q) :
    rounded powerLimitFraction ≤ rounded q ↔ powerLimitFraction ≤ q := by
  have hfraction : powerLimitFraction = 19 / 20 := by norm_num [powerLimitFraction]
  have hulp := ulp_pos q
  rw [powerLimit_eq]
  rw [hfraction] at h ⊢
  by_cases hone : |q| < 1
  · rcases eq_or_ne q 0 with rfl | hq
    · rw [rounded_zero]
      norm_num
    · have hlt : |q| < 2 ^ ((-53 : ℤ) + 53) := by simpa using hone
      constructor
      · intro hle
        by_contra hnot
        have hbelow := rounded_le (n := -53) (a := 8556839292003941) (by norm_num) hq hlt ?_
        · norm_num at hbelow hle
          linarith
        · have hlow := h.resolve_right hnot
          norm_num at hlow ⊢
          linarith
      · intro hle
        have habove := le_rounded (n := -53) (a := 8556839292003942) (by norm_num) hq hlt ?_
        · norm_num at habove ⊢
          exact habove
        · norm_num
          linarith
  · have hq : q ≠ 0 := by
      rintro rfl
      simp at hone
    have hlt : |q| < 2 ^ ((0 : ℤ) + 53) := hlarge.trans (by norm_num)
    rcases le_abs.1 (not_lt.1 hone) with hpos | hneg
    · have habove := le_rounded (n := 0) (a := 1) (by norm_num) hq hlt (by norm_num; linarith)
      norm_num at habove ⊢
      exact iff_of_true (by linarith) (by linarith)
    · have hbelow := rounded_le (n := 0) (a := 0) (by norm_num) hq hlt (by norm_num; linarith)
      norm_num at hbelow ⊢
      exact iff_of_false (by linarith) (by linarith)

end Binary64

/-! ## Rows -/

/-- With the values of its numbers. -/
def GpuSample.exact (s : GpuSample Number) : GpuSample ℚ where
  index := s.index
  uuid := s.uuid
  measurement f := (s.measurement f).bind Number.toRat
  throttleReasons := s.throttleReasons
  throttleReasonsAvailable := s.throttleReasonsAvailable

def TelemetrySnapshot.exact (x : TelemetrySnapshot Number) : TelemetrySnapshot ℚ where
  timestamp := x.timestamp
  host f := (x.host f).bind Number.toRat
  gpus := x.gpus.map GpuSample.exact
  reasons := x.reasons

/-- The window with the values of its numbers. -/
def TelemetryWindow.exact (W : TelemetryWindow Number) : TelemetryWindow ℚ :=
  ⟨W.samples.map TelemetrySnapshot.exact⟩

/-- A row on which rounding does not show: its numbers are doubles, its clock is whole, and its
    power is not in the last places below 95% of the limit. -/
structure GpuSample.Unrounded (r : GpuSample Number) : Prop where
  double : ∀ f x, r.measurement f = some x → ∃ q, x.IsDouble q
  clock : ∀ x q, r.measurement .coreClockMhz = some x → x.IsDouble q → ∃ n : ℕ, n < 2 ^ 48 ∧ q = n
  power : ∀ p l q w, r.measurement .powerWatts = some p → r.measurement .powerLimitWatts = some l →
    p.IsDouble q → l.IsDouble w → 0 < w →
      |q / w| < 2 ^ 48 ∧ (q / w ≤ powerLimitFraction - 1 / 2 ^ 52 ∨ powerLimitFraction ≤ q / w)

namespace Binary64

variable {r d : GpuSample Number} {rows : List (GpuSample Number)} {g : ℕ}

/-- A reading and its value. -/
theorem reading_cases (h : r.Unrounded) (f : GpuField) :
    (r.measurement f = none ∧ r.exact.measurement f = none) ∨
      ∃ x q, r.measurement f = some x ∧ r.exact.measurement f = some q ∧ x.IsDouble q := by
  cases hx : r.measurement f with
  | none => exact .inl ⟨rfl, by simp [GpuSample.exact, hx]⟩
  | some x =>
    obtain ⟨q, hq⟩ := h.double f x hx
    exact .inr ⟨x, q, rfl, by simp [GpuSample.exact, hx, hq.toRat], hq⟩

theorem isHot_exact (h : r.Unrounded) : isHot r = r.exact.isHot := by
  rw [isHot, GpuSample.isHot]
  rcases reading_cases h .temperatureC with ⟨hx, hq⟩ | ⟨x, q, hx, hq, hdouble⟩
  · rw [hx, hq]
    rfl
  · rw [hx, hq, Option.any_some, Option.any_some, hdouble.exact]
    rfl

theorem lowUtilization_exact (h : r.Unrounded) : lowUtilization r = r.exact.lowUtilization := by
  rw [lowUtilization, GpuSample.lowUtilization]
  rcases reading_cases h .utilizationPercent with ⟨hx, hq⟩ | ⟨x, q, hx, hq, hdouble⟩
  · rw [hx, hq]
    rfl
  · rw [hx, hq, Option.any_some, Option.any_some, hdouble.exact]
    rfl

theorem nearPowerLimit_exact (h : r.Unrounded) :
    nearPowerLimit r = .ok r.exact.nearPowerLimit := by
  rw [nearPowerLimit, GpuSample.nearPowerLimit]
  rcases reading_cases h .powerWatts with ⟨hp, hq⟩ | ⟨p, q, hp, hq, hdouble⟩
  · rw [hp, hq]
    rfl
  · rcases reading_cases h .powerLimitWatts with ⟨hl, hw⟩ | ⟨l, w, hl, hw, hdouble'⟩
    · rw [hp, hq, hl, hw]
      rfl
    · have hpositive : (Double.finite 0).lt l.exact = decide (0 < w) := by
        rw [hdouble'.exact]
        rfl
      rw [hp, hq, hl, hw, Option.any_some, Option.any_some]
      simp only [hpositive]
      by_cases hlimit : 0 < w
      · obtain ⟨hlarge, hplaces⟩ := h.power p l q w hp hl hdouble hdouble' hlimit
        have hquotient := hdouble.truediv hdouble' (hlarge.trans (by norm_num))
        rw [if_pos (decide_eq_true hlimit), hquotient, decide_eq_true hlimit, Bool.true_and]
        exact congrArg Except.ok (decide_eq_decide.2 (limit_iff hlarge hplaces))
      · rw [if_neg (by simp [hlimit]), decide_eq_false hlimit, Bool.false_and]
        rfl

/-! ## The scan -/

/-- A whole clock, as a double. -/
def IsClock (x : Number) (q : ℚ) : Prop := x.IsDouble q ∧ ∃ n : ℕ, n < 2 ^ 48 ∧ q = n

theorem isDropFrom_exact {m c : Number} {p q : ℚ} (hm : IsClock m p) (hc : IsClock c q) :
    isDropFrom m c = .ok (SweatMeter.isDropFrom p q) := by
  obtain ⟨hm, n, hn, rfl⟩ := hm
  obtain ⟨hc, k, hk, rfl⟩ := hc
  have hlt : |(n : ℚ) * clockKept| < 2 ^ 53 := by
    have hn' : (n : ℚ) < 2 ^ 48 := by exact_mod_cast hn
    rw [clockKept_eq, abs_of_nonneg (by positivity)]
    norm_num only at hn' ⊢
    linarith
  rw [isDropFrom, hm.times hlt, hc.exact]
  exact congrArg Except.ok (decide_eq_decide.2 (kept_iff hn))

theorem IsClock.max {m c : Number} {p q : ℚ} (hm : IsClock m p) (hc : IsClock c q) :
    IsClock (m.max c) (p ⊔ q) := by
  refine ⟨hm.1.max hc.1, ?_⟩
  rcases le_total p q with h | h
  · rw [sup_eq_right.2 h]
    exact hc.2
  · rw [sup_eq_left.2 h]
    exact hm.2

/-- **The scan finds the same drop.** -/
theorem clockDropFrom_exact (h : ∀ r ∈ rows, r.Unrounded) {m : Option Number} {p : Option ℚ}
    (hm : Option.Rel IsClock m p) :
    ∃ drop, clockDropFrom m rows = .ok drop ∧ (∀ d ∈ drop, d ∈ rows) ∧
      SweatMeter.clockDropFrom p (rows.map GpuSample.exact) = drop.map GpuSample.exact := by
  induction rows generalizing m p with
  | nil => exact ⟨none, rfl, by rintro d ⟨⟩, rfl⟩
  | cons r rows ih =>
    obtain ⟨hr, hrows⟩ := List.forall_mem_cons.1 h
    have hnext {m : Option Number} {p : Option ℚ} (hm : Option.Rel IsClock m p) :
        ∃ drop, clockDropFrom m rows = .ok drop ∧ (∀ d ∈ drop, d ∈ r :: rows) ∧
          SweatMeter.clockDropFrom p (rows.map GpuSample.exact) = drop.map GpuSample.exact := by
      obtain ⟨drop, hdrop, hmem, hexact⟩ := ih hrows hm
      exact ⟨drop, hdrop, fun d hd => List.mem_cons_of_mem _ (hmem d hd), hexact⟩
    rcases reading_cases hr .coreClockMhz with ⟨hx, hq⟩ | ⟨c, q, hx, hq, hdouble⟩
    · simp only [clockDropFrom, List.map_cons, SweatMeter.clockDropFrom, hx, hq]
      exact hnext hm
    · have hc : IsClock c q := ⟨hdouble, hr.clock c q hx hdouble⟩
      cases hm with
      | none =>
        simp only [clockDropFrom, List.map_cons, SweatMeter.clockDropFrom, hx, hq]
        exact hnext (.some hc)
      | @some m p hm =>
        simp only [clockDropFrom, List.map_cons, SweatMeter.clockDropFrom, hx, hq,
          isDropFrom_exact hm hc, ok_bind]
        split_ifs
        · exact ⟨some r, rfl, by simp, rfl⟩
        · exact hnext (.some (hm.max hc))

/-! ## The verdict -/

theorem clockVerdict_exact (h : ∀ r ∈ rows, r.Unrounded) (reported : List (GpuSample Number)) :
    clockVerdict g rows reported = .ok
      (SweatMeter.clockVerdict g (rows.map GpuSample.exact) (reported.map GpuSample.exact)) := by
  obtain ⟨drop, hdrop, hmem, hexact⟩ := clockDropFrom_exact h .none
  have hcount : ((rows.map GpuSample.exact).filter fun x =>
      (x.measurement .coreClockMhz).isSome).length =
        (rows.filter fun x => (x.measurement .coreClockMhz).isSome).length := by
    rw [List.filter_map, List.length_map]
    refine congrArg List.length (List.filter_congr fun r hr => ?_)
    rcases reading_cases (h r hr) .coreClockMhz with ⟨hx, hq⟩ | ⟨x, q, hx, hq, -⟩ <;>
      simp [hx, hq]
  simp only [clockVerdict, SweatMeter.clockVerdict, substantialClockDrop,
    SweatMeter.substantialClockDrop, hdrop, hexact, hcount, ok_bind, List.length_map, ne_eq,
    List.map_eq_nil_iff]
  cases drop with
  | none =>
    simp only [Option.map_none]
    split_ifs <;> rfl
  | some d =>
    have hd := h d (hmem d rfl)
    simp only [Option.map_some, isHot_exact hd, nearPowerLimit_exact hd, lowUtilization_exact hd,
      ok_bind]
    split_ifs <;> rfl

theorem throttleVerdict_exact (h : ∀ r ∈ rows, r.Unrounded) :
    throttleVerdict g rows =
      .ok (SweatMeter.throttleVerdict g (rows.map GpuSample.exact)) := by
  have hreported : reportedRows (rows.map GpuSample.exact) =
      (reportedRows rows).map GpuSample.exact := List.filter_map
  have hactive : activeReasons ((reportedRows rows).map GpuSample.exact) =
      activeReasons (reportedRows rows) := by
    rw [activeReasons, activeReasons, List.flatMap_map]
    rfl
  rw [throttleVerdict, SweatMeter.throttleVerdict, hreported, hactive, List.length_map]
  split_ifs
  · rfl
  · exact clockVerdict_exact h _

/-! ## The window -/

variable {W : TelemetryWindow Number} {Z : Zones}

theorem gpu_exact (x : TelemetrySnapshot Number) (g : ℕ) :
    x.exact.gpu g = (x.gpu g).map GpuSample.exact := by
  rw [TelemetrySnapshot.gpu, TelemetrySnapshot.gpu, TelemetrySnapshot.exact, List.find?_map]
  rfl

theorem gpuSamples_exact (W : TelemetryWindow Number) (g : ℕ) :
    W.exact.gpuSamples g = (W.gpuSamples g).map GpuSample.exact := by
  rw [TelemetryWindow.gpuSamples, TelemetryWindow.gpuSamples, TelemetryWindow.exact,
    List.filterMap_map, List.map_filterMap]
  exact List.filterMap_congr fun x _ => gpu_exact x g

theorem measurements_exact (h : ∀ r ∈ W.gpuSamples g, r.Unrounded) (f : GpuField) :
    List.Forall₂ IsDouble (W.measurements g f) (W.exact.measurements g f) := by
  rw [TelemetryWindow.measurements, TelemetryWindow.measurements, gpuSamples_exact]
  generalize W.gpuSamples g = rows at h
  induction rows with
  | nil => exact .nil
  | cons r rows ih =>
    obtain ⟨hr, hrows⟩ := List.forall_mem_cons.1 h
    rcases reading_cases hr f with ⟨hx, hq⟩ | ⟨x, q, hx, hq, hdouble⟩
    · simpa [hx, hq] using ih hrows
    · simpa [hx, hq, hdouble] using ih hrows

theorem meanPowerWatts_exact (h : ∀ r ∈ W.gpuSamples g, r.Unrounded) :
    meanPowerWatts W g = (W.exact.meanPowerWatts g).map .finite := by
  have hvalues := measurements_exact h .powerWatts
  have hnil : W.measurements g .powerWatts = [] ↔ W.exact.measurements g .powerWatts = [] := by
    rw [← List.length_eq_zero_iff, hvalues.length_eq, List.length_eq_zero_iff]
  rw [meanPowerWatts, TelemetryWindow.meanPowerWatts]
  simp only [hnil, map_exact_of_doubles hvalues, Double.sum_finite, hvalues.length_eq,
    Double.scaled]
  split_ifs
  · rfl
  · rw [Option.map_some, mul_one_div]

theorem energyTerm_exact (h : ∀ r ∈ W.gpuSamples g, r.Unrounded)
    {p : TelemetrySnapshot Number × TelemetrySnapshot Number} (hp : p ∈ pairwise W.samples) :
    energyTerm Z g p = .ok
      ((TelemetryWindow.energyTerm Z g (p.1.exact, p.2.exact)).map .finite) := by
  have hmem : p.1 ∈ W.samples := (List.of_mem_zip hp).1
  have htime (x : TelemetrySnapshot Number) : x.exact.timestamp = x.timestamp := rfl
  rw [energyTerm, TelemetryWindow.energyTerm]
  simp only [htime, gpu_exact]
  split_ifs
  · rfl
  · cases hrow : p.1.gpu g with
    | none => rfl
    | some r =>
      have hr : r ∈ W.gpuSamples g := List.mem_filterMap.2 ⟨p.1, hmem, hrow⟩
      rw [Option.map_some, Option.bind_some, Option.bind_some]
      rcases reading_cases (h r hr) .powerWatts with ⟨hx, hq⟩ | ⟨x, q, hx, hq, hdouble⟩
      · rw [hx, hq]
        rfl
      · simp only [hx, hq, hdouble.toDouble, ok_bind]
        rfl

theorem energyTerms_exact (h : ∀ r ∈ W.gpuSamples g, r.Unrounded) :
    energyTerms W Z g = .ok ((W.exact.energyTerms Z g).map .finite) := by
  have hterms : (pairwise W.samples).mapM (energyTerm Z g) =
      .ok ((pairwise W.samples).map fun p =>
        (TelemetryWindow.energyTerm Z g (p.1.exact, p.2.exact)).map .finite) :=
    mapM_eq_map fun p hp => energyTerm_exact h hp
  rw [energyTerms, hterms, TelemetryWindow.energyTerms, TelemetryWindow.exact, pairwise_map,
    List.filterMap_map, List.map_filterMap, ok_bind]
  exact congrArg Except.ok List.filterMap_map

theorem energyJoules_exact (h : ∀ r ∈ W.gpuSamples g, r.Unrounded) :
    energyJoules W Z g = .ok ((W.exact.energyJoules Z g).map .finite) := by
  rw [energyJoules, TelemetryWindow.energyJoules, energyTerms_exact h, ok_bind]
  simp only [List.map_eq_nil_iff, Double.sum_finite]
  split_ifs <;> rfl

theorem suspectedThrottling_exact (h : ∀ r ∈ W.gpuSamples g, r.Unrounded) :
    suspectedThrottling W g = .ok (W.exact.suspectedThrottling g) := by
  rw [suspectedThrottling, throttleVerdict_exact h, ← gpuSamples_exact]
  rfl

theorem supportedSampleCount_exact (h : ∀ r ∈ W.gpuSamples g, r.Unrounded)
    (metric : WindowMetric) :
    supportedSampleCount W Z g metric = .ok (W.exact.supportedSampleCount Z metric g) := by
  have hlength (f : GpuField) := (measurements_exact h f).length_eq
  cases metric with
  | peakVramBytes => exact congrArg Except.ok (hlength _)
  | meanPowerWatts => exact congrArg Except.ok (hlength _)
  | energyJoules =>
    rw [supportedSampleCount, energyTerms_exact h, ok_bind, List.length_map]
    rfl
  | maxTemperatureC => exact congrArg Except.ok (hlength _)
  | suspectedThrottling =>
    rw [supportedSampleCount, suspectedThrottling_exact h]
    rfl

/-- **Where rounding does not show.**  On rows of doubles whose clocks are whole, and whose power
    is not in the last places below 95% of its limit, the aggregates in Python's numbers are
    those in exact arithmetic, and none raises. -/
theorem exact_aggregates (h : ∀ r ∈ W.gpuSamples g, r.Unrounded) :
    (peakVramBytes W g).map Number.exact = (W.exact.peakVramBytes g).map .finite ∧
      (maxTemperatureC W g).map Number.exact = (W.exact.maxTemperatureC g).map .finite ∧
      meanPowerWatts W g = (W.exact.meanPowerWatts g).map .finite ∧
      energyJoules W Z g = .ok ((W.exact.energyJoules Z g).map .finite) ∧
      suspectedThrottling W g = .ok (W.exact.suspectedThrottling g) ∧
      ∀ metric,
        supportedSampleCount W Z g metric = .ok (W.exact.supportedSampleCount Z metric g) :=
  ⟨maximum_of_doubles (measurements_exact h _), maximum_of_doubles (measurements_exact h _),
    meanPowerWatts_exact h, energyJoules_exact h, suspectedThrottling_exact h,
    supportedSampleCount_exact h⟩

/-- A row with a clock and a power of a limit of 300 W. -/
def wattRow (clock : ℕ) (power : ℤ) : GpuSample Number where
  index := 0
  measurement
    | .coreClockMhz => some (.int clock)
    | .powerWatts => some (.int power)
    | .powerLimitWatts => some (.float (.finite 300))
    | _ => none

theorem unrounded_wattRow {clock : ℕ} {power : ℤ} (hclock : clock < 2 ^ 48)
    (hpower : |power| < 2 ^ 48) : (wattRow clock power).Unrounded := by
  have hdouble {n : ℤ} (h : |n| < 2 ^ 48) : (int n).IsDouble n :=
    isDouble_int (h.trans (by norm_num))
  have hclock' : |(clock : ℤ)| < 2 ^ 48 := by
    rw [Nat.abs_cast]
    exact_mod_cast hclock
  constructor
  · intro f x hx
    cases f <;> cases hx
    · exact ⟨_, hdouble hpower⟩
    · exact ⟨_, isDouble_float 300⟩
    · exact ⟨_, hdouble hclock'⟩
  · rintro x q ⟨⟩ hq
    cases hq.toRat
    exact ⟨clock, hclock, by simp⟩
  · rintro p l q w ⟨⟩ ⟨⟩ hq hw -
    cases hq.toRat
    cases hw.toRat
    obtain ⟨hlow, hhigh⟩ := abs_lt.1 hpower
    have hlow' : (-2 ^ 48 : ℚ) < power := by exact_mod_cast hlow
    have hhigh' : (power : ℚ) < 2 ^ 48 := by exact_mod_cast hhigh
    norm_num [powerLimitFraction, abs_lt] at hlow' hhigh' ⊢
    refine ⟨⟨by linarith, by linarith⟩, ?_⟩
    rcases le_or_gt 285 power with hat | hbelow
    · right
      have hat' : (285 : ℚ) ≤ power := by exact_mod_cast hat
      linarith
    · left
      have hbelow' : (power : ℚ) ≤ 284 := by exact_mod_cast Int.le_of_lt_add_one hbelow
      linarith

/-- The clock drops while the power is at 95% of its limit. -/
theorem exact_aggregates_watts :
    let W : TelemetryWindow Number :=
      ⟨[{ timestamp := ⟨0, 0, false⟩, gpus := [wattRow 2000 100] },
        { timestamp := ⟨0, 1000000, false⟩, gpus := [wattRow 1700 285] }]⟩
    energyJoules W utcZones 0 = .ok (some (.finite 100)) ∧
      suspectedThrottling W 0 =
        .ok ⟨0, .suspected, "clock_drop_near_power_limit", 75 / 100, 2⟩ := by
  intro W
  have hrows : W.gpuSamples 0 = [wattRow 2000 100, wattRow 1700 285] := rfl
  obtain ⟨-, -, -, henergy, hverdict, -⟩ := exact_aggregates (W := W) (Z := utcZones) (g := 0) <| by
    rw [hrows]
    exact List.forall_mem_cons.2 ⟨unrounded_wattRow (by norm_num) (by norm_num),
      List.forall_mem_singleton.2 (unrounded_wattRow (by norm_num) (by norm_num))⟩
  rw [henergy, hverdict]
  decide +kernel

end Binary64

end SweatMeter
