/-
  The clock heuristic of `suspected_throttling`.

  `_substantial_clock_drop` returns the first sample whose clock is at or below
  the maximum before it times 0.85, in Python's own numbers, and `_clock_verdict`
  judges that one sample.  A later drop at high temperature or at the power limit
  is not looked at (`masked_drop`), nor is any after a clock that is a NaN, and a
  clock too large for a double raises.  `clock_drop_suspected_iff` says when
  correlated evidence is not masked.
-/
import SweatMeter.Binary64

namespace SweatMeter

open Py Number

/-- The supported clocks of a series. -/
def clocks {ν : Type} (samples : List (GpuSample ν)) : List ν :=
  samples.filterMap fun x => x.measurement .coreClockMhz

/-- The number of rows with a clock. -/
def clockCount {ν : Type} (rows : List (GpuSample ν)) : ℕ :=
  (rows.filter fun x => (x.measurement .coreClockMhz).isSome).length

/-- No reporting row has an active reason other than `gpu_idle`. -/
def NoDriverReason {ν : Type} (samples : List (GpuSample ν)) : Prop :=
  ∀ x ∈ samples, x.throttleReasonsAvailable = true → ∀ r ∈ x.throttleReasons, r = "gpu_idle"

theorem activeReasons_eq_nil {ν : Type} {samples : List (GpuSample ν)} (h : NoDriverReason samples) :
    activeReasons (reportedRows samples) = [] := by
  have hnil : (((reportedRows samples).flatMap fun x => x.throttleReasons).filter
      fun r => r ∉ activeThrottleExclusions) = [] := by
    refine List.filter_eq_nil_iff.2 ?_
    intro r hr
    obtain ⟨x, hx, hrx⟩ := List.mem_flatMap.1 hr
    obtain ⟨hx, ha⟩ := List.mem_filter.1 hx
    simp [h x hx ha r hrx, activeThrottleExclusions]
  rw [activeReasons, hnil]; rfl

namespace Binary64

variable {samples pre rest : List (GpuSample Number)} {x d : GpuSample Number} {g : ℕ}

/-! ## The scan -/

/-- The comparison that the loop makes at `x`, after the samples `pre`. -/
def dropTest (pre : List (GpuSample Number)) (x : GpuSample Number) : Except Exn Bool :=
  match x.measurement .coreClockMhz, maximum (clocks pre) with
  | some clock, some m => isDropFrom m clock
  | _, _ => .ok false

/-- `x` is the first sample after `pre` at which the comparison holds; before it no product is
    too large. -/
structure DropsAt (pre : List (GpuSample Number)) (x : GpuSample Number) : Prop where
  drops : dropTest pre x = .ok true
  first : ∀ pre' y post', pre = pre' ++ y :: post' → dropTest pre' y = .ok false

/-- `x` is the first drop of the series. -/
def FirstDrop (samples : List (GpuSample Number)) (x : GpuSample Number) : Prop :=
  ∃ pre post, samples = pre ++ x :: post ∧ DropsAt pre x

theorem maximum_snoc (xs : List Number) (x : Number) :
    maximum (xs ++ [x]) = some (match maximum xs with
      | none => x
      | some m => m.max x) := by
  cases xs with
  | nil => rfl
  | cons y ys => simp [maximum, List.foldl_append]

theorem clocks_append {ν : Type} (xs ys : List (GpuSample ν)) :
    clocks (xs ++ ys) = clocks xs ++ clocks ys := List.filterMap_append

/-- One turn of the loop: it stops where the comparison holds, and goes on elsewhere with
    the maximum of one more sample. -/
theorem clockDropFrom_cons (pre rest : List (GpuSample Number)) (x : GpuSample Number) :
    clockDropFrom (maximum (clocks pre)) (x :: rest) = (do
      if ← dropTest pre x then return some x
      else clockDropFrom (maximum (clocks (pre ++ [x]))) rest) := by
  rw [clocks_append]
  cases hc : x.measurement .coreClockMhz with
  | none => simp [clockDropFrom, dropTest, hc, clocks]
  | some c =>
    have hsnoc : clocks [x] = [c] := by simp [clocks, hc]
    rw [hsnoc, maximum_snoc]
    cases hm : maximum (clocks pre) with
    | none => simp [clockDropFrom, dropTest, hc, hm]
    | some m => simp only [clockDropFrom, dropTest, hc, hm]

/-- **The scan finds the first drop**, wherever it is started. -/
theorem clockDropFrom_iff : ∀ (rest pre : List (GpuSample Number)),
    clockDropFrom (maximum (clocks pre)) rest = .ok (some d) ↔
      ∃ mid post, rest = mid ++ d :: post ∧ dropTest (pre ++ mid) d = .ok true ∧
        ∀ mid' y post', mid = mid' ++ y :: post' → dropTest (pre ++ mid') y = .ok false
  | [], pre => by
    refine iff_of_false (fun h => by cases h) ?_
    rintro ⟨mid, post, h, -⟩
    simp at h
  | x :: rest, pre => by
    rw [clockDropFrom_cons, bind_eq_ok]
    constructor
    · rintro ⟨b, hb, h⟩
      cases b with
      | true =>
        cases h
        exact ⟨[], rest, rfl, by simpa using hb, by simp⟩
      | false =>
        obtain ⟨mid, post, rfl, hd, hno⟩ := (clockDropFrom_iff rest (pre ++ [x])).1 h
        refine ⟨x :: mid, post, rfl, by simpa using hd, ?_⟩
        intro mid' y post' hm
        cases mid' with
        | nil => cases hm; simpa using hb
        | cons z mid' => cases hm; simpa using hno mid' y post' rfl
    · rintro ⟨mid, post, hr, hd, hno⟩
      cases mid with
      | nil =>
        cases hr
        exact ⟨true, by simpa using hd, rfl⟩
      | cons z mid =>
        cases hr
        refine ⟨false, by simpa using hno [] x mid rfl, ?_⟩
        refine (clockDropFrom_iff _ (pre ++ [x])).2 ⟨mid, post, rfl, by simpa using hd, ?_⟩
        intro mid' y post' hm
        have := hno (x :: mid') y post' (by rw [hm]; rfl)
        simpa using this

theorem substantialClockDrop_iff :
    substantialClockDrop samples = .ok (some d) ↔ FirstDrop samples d := by
  refine (clockDropFrom_iff samples []).trans ?_
  constructor
  · rintro ⟨pre, post, hsplit, hd, hno⟩
    exact ⟨pre, post, hsplit, hd, hno⟩
  · rintro ⟨pre, post, hsplit, hd, hno⟩
    exact ⟨pre, post, hsplit, hd, hno⟩

/-! ## The verdict -/

/-- The temperature or the power of a drop makes it suspicious, as the source compares them. -/
def correlated (x : GpuSample Number) : Except Exn Bool :=
  if isHot x then return true else nearPowerLimit x

theorem maximum_mem {cs : List Number} {m : Number} (h : maximum cs = some m) : m ∈ cs := by
  cases cs with
  | nil => cases h
  | cons c cs =>
    obtain rfl : cs.foldl max c = m := Option.some.inj h
    clear h
    induction cs generalizing c with
    | nil => exact List.mem_cons_self
    | cons c' cs ih =>
      rw [List.foldl_cons]
      have hmax : c.max c' = c ∨ c.max c' = c' := by
        unfold Number.max
        split
        · exact .inr rfl
        · exact .inl rfl
      rcases List.mem_cons.1 (ih (c.max c')) with heq | hmem
      · rw [heq]
        rcases hmax with h | h <;> simp [h]
      · exact List.mem_cons_of_mem _ (List.mem_cons_of_mem _ hmem)

theorem exists_of_dropTest (h : dropTest pre x = .ok true) :
    ∃ c m, x.measurement .coreClockMhz = some c ∧ maximum (clocks pre) = some m ∧
      isDropFrom m c = .ok true := by
  unfold dropTest at h
  cases hc : x.measurement .coreClockMhz with
  | none => rw [hc] at h; cases h
  | some c =>
    cases hm : maximum (clocks pre) with
    | none => rw [hc, hm] at h; cases h
    | some m =>
      rw [hc, hm] at h
      exact ⟨c, m, rfl, rfl, h⟩

/-- A drop needs two clock samples. -/
theorem two_le_of_firstDrop (h : FirstDrop samples d) : minClockSamples ≤ clockCount samples := by
  obtain ⟨pre, post, rfl, hd, -⟩ := h
  obtain ⟨c, m, hc, hm, -⟩ := exists_of_dropTest hd
  have hpre : 0 < (pre.filter fun x => (x.measurement .coreClockMhz).isSome).length := by
    obtain ⟨y, hy, hym⟩ := List.mem_filterMap.1 (maximum_mem hm)
    exact List.length_pos_of_mem (List.mem_filter.2 ⟨hy, by simp [hym]⟩)
  simp only [clockCount, List.filter_append, List.filter_cons, hc, Option.isSome_some, if_true,
    List.length_append, List.length_cons, minClockSamples]
  omega

/-- The verdict on a first drop. -/
theorem clockVerdict_of_firstDrop (h : FirstDrop samples d) (g : ℕ)
    (reported : List (GpuSample Number)) :
    clockVerdict g samples reported = (do
      if isHot d then
        return ⟨g, .suspected, "clock_drop_with_high_temperature", 8 / 10, clockCount samples⟩
      else if ← nearPowerLimit d then
        return ⟨g, .suspected, "clock_drop_near_power_limit", 75 / 100, clockCount samples⟩
      else if lowUtilization d then
        return ⟨g, .notSuspected, "clock_drop_with_low_utilization", 75 / 100, clockCount samples⟩
      else return ⟨g, .unknown, "clock_drop_without_correlating_evidence", 25 / 100,
        clockCount samples⟩) := by
  have hcount : ¬ clockCount samples < minClockSamples := not_lt.2 (two_le_of_firstDrop h)
  unfold clockVerdict
  rw [substantialClockDrop_iff.2 h]
  exact if_neg hcount

/-- A verdict without a drop. -/
theorem clockVerdict_of_none (h : substantialClockDrop samples = .ok none) (g : ℕ)
    (reported : List (GpuSample Number)) :
    ∃ v, clockVerdict g samples reported = .ok v ∧ v.verdict ≠ .suspected ∧
      v.reason ∈ ["insufficient_clock_data", "driver_reported_no_throttling",
        "no_substantial_clock_drop"] := by
  unfold clockVerdict
  rw [h]
  simp only [ok_bind]
  split_ifs <;> exact ⟨_, rfl, by simp, by simp⟩

/-- The verdict on a first drop whose power can be compared. -/
theorem clockVerdict_of_correlated {b : Bool} (h : FirstDrop samples d)
    (hc : correlated d = .ok b) (g : ℕ) (reported : List (GpuSample Number)) :
    ∃ v, clockVerdict g samples reported = .ok v ∧ (v.verdict = .suspected ↔ b = true) ∧
      v.reason ∈ ["clock_drop_with_high_temperature", "clock_drop_near_power_limit",
        "clock_drop_with_low_utilization", "clock_drop_without_correlating_evidence"] := by
  rw [clockVerdict_of_firstDrop h]
  unfold correlated at hc
  by_cases hhot : isHot d = true
  · rw [if_pos hhot] at hc ⊢
    cases hc
    exact ⟨_, rfl, by simp, by simp⟩
  · rw [if_neg hhot] at hc ⊢
    rw [hc]
    cases b with
    | true => exact ⟨_, rfl, by simp, by simp⟩
    | false =>
      by_cases hlow : lowUtilization d = true
      · exact ⟨_, if_pos hlow, by simp, by simp⟩
      · exact ⟨_, if_neg hlow, by simp, by simp⟩

/-- Where the power of the first drop cannot be compared, there is no verdict. -/
theorem clockVerdict_of_error {e : Exn} (h : FirstDrop samples d) (hc : correlated d = .error e)
    (g : ℕ) (reported : List (GpuSample Number)) :
    clockVerdict g samples reported = .error e := by
  rw [clockVerdict_of_firstDrop h]
  unfold correlated at hc
  by_cases hhot : isHot d = true
  · rw [if_pos hhot] at hc
    cases hc
  · rw [if_neg hhot] at hc ⊢
    rw [hc]
    rfl

/-- What a clock verdict rests on: no drop, or the first one. -/
theorem clockVerdict_cases {reported : List (GpuSample Number)} {v : ThrottleVerdict}
    (h : clockVerdict g samples reported = .ok v) :
    substantialClockDrop samples = .ok none ∨
      ∃ d b, FirstDrop samples d ∧ correlated d = .ok b := by
  obtain ⟨drop, hdrop, -⟩ := bind_eq_ok.1 (show _ >>= _ = _ from h)
  cases drop with
  | none => exact .inl hdrop
  | some d =>
    have hfirst := substantialClockDrop_iff.1 hdrop
    cases hc : correlated d with
    | ok b => exact .inr ⟨d, b, hfirst, hc⟩
    | error e =>
      rw [clockVerdict_of_error hfirst hc] at h
      cases h

/-- The clock verdict is "suspected" exactly if the first drop is correlated. -/
theorem clockVerdict_suspected (g : ℕ) (samples reported : List (GpuSample Number)) :
    (∃ v, clockVerdict g samples reported = .ok v ∧ v.verdict = .suspected) ↔
      ∃ d, FirstDrop samples d ∧ correlated d = .ok true := by
  constructor
  · rintro ⟨v, hv, hsuspected⟩
    rcases clockVerdict_cases hv with hnone | ⟨d, b, hd, hc⟩
    · obtain ⟨w, hw, hne, -⟩ := clockVerdict_of_none hnone g reported
      cases hv.symm.trans hw
      exact absurd hsuspected hne
    · obtain ⟨w, hw, hiff, -⟩ := clockVerdict_of_correlated hd hc g reported
      cases hv.symm.trans hw
      exact ⟨d, hd, by rw [hc, hiff.1 hsuspected]⟩
  · rintro ⟨d, hd, hc⟩
    obtain ⟨v, hv, hiff, -⟩ := clockVerdict_of_correlated hd hc g reported
    exact ⟨v, hv, hiff.2 rfl⟩

/-! ## Correlated drops -/

/-- The largest of the clocks that are numbers. -/
def Largest (cs : List Number) (m : Number) : Prop :=
  m ∈ cs ∧ ∀ c ∈ cs, c.exact ≠ .nan → c.exact.le m.exact = true

/-- Supported power at or above 95% of a supported positive limit. -/
def AtLimit (x : GpuSample Number) : Prop :=
  ∃ p l, x.measurement .powerWatts = some p ∧ x.measurement .powerLimitWatts = some l ∧
    (Double.finite 0).lt l.exact = true ∧
    (Double.finite powerLimitFraction).le (p.exact.quotient l.exact) = true

/-- Some clock of the series is at or below 85% of the largest one before it, which is
    positive, at a sample that is hot or at its power limit; all in exact arithmetic. -/
def CorrelatedDrop (samples : List (GpuSample Number)) : Prop :=
  ∃ pre x post c m, samples = pre ++ x :: post ∧ x.measurement .coreClockMhz = some c ∧
    Largest (clocks pre) m ∧ (Double.finite 0).lt m.exact = true ∧
    c.exact.le (m.exact.scaled (85 / 100)) = true ∧ (isHot x = true ∨ AtLimit x)

/-- **When correlated evidence is not masked.**  Without a driver-reported
    reason, a correlated drop makes the verdict "suspected" exactly if the first
    drop of the device's series, as the source compares, is correlated too. -/
theorem clock_drop_suspected_iff (W : TelemetryWindow Number) (g : ℕ)
    (h : NoDriverReason (W.gpuSamples g)) :
    (CorrelatedDrop (W.gpuSamples g) →
      ∃ v, suspectedThrottling W g = .ok v ∧ v.verdict = .suspected) ↔
      (CorrelatedDrop (W.gpuSamples g) →
        ∃ d, FirstDrop (W.gpuSamples g) d ∧ correlated d = .ok true) := by
  refine imp_congr_right fun _ => ?_
  rw [suspectedThrottling, throttleVerdict, activeReasons_eq_nil h]
  exact clockVerdict_suspected g _ _

/-- A row with a clock, a temperature and a utilization. -/
def heatRow (clock : Number) (temperature utilization : ℤ) : GpuSample Number where
  index := 0
  measurement
    | .coreClockMhz => some clock
    | .temperatureC => some (.int temperature)
    | .utilizationPercent => some (.int utilization)
    | _ => none

/-- One snapshot a second with these rows. -/
def heatWindow (rows : List (GpuSample Number)) : TelemetryWindow Number :=
  ⟨rows.mapIdx fun k x => { timestamp := ⟨0, 1000000 * k, false⟩, gpus := [x] }⟩

theorem correlatedDrop_pair {a b : GpuSample Number} {post : List (GpuSample Number)}
    {m c : Number} (ha : a.measurement .coreClockMhz = some m)
    (hb : b.measurement .coreClockMhz = some c) (hm : (Double.finite 0).lt m.exact = true)
    (hself : m.exact.le m.exact = true) (hcm : c.exact.le (m.exact.scaled (85 / 100)) = true)
    (hc : isHot b = true) : CorrelatedDrop (a :: b :: post) := by
  have hclocks : clocks [a] = [m] := by simp [clocks, ha]
  refine ⟨[a], b, post, c, m, rfl, hb, ?_, hm, hcm, .inl hc⟩
  rw [hclocks]
  exact ⟨List.mem_singleton_self m, fun c' hc' _ => by rw [List.mem_singleton.1 hc', hself]⟩

theorem noDriverReason_heatRow {rows : List (GpuSample Number)}
    (h : ∀ x ∈ rows, ∃ c t u, x = heatRow c t u) : NoDriverReason rows := by
  intro x hx havail
  obtain ⟨c, t, u, rfl⟩ := h x hx
  cases havail

/-- A drop at high temperature right after full clock is not masked by what follows. -/
theorem clock_drop_suspected_first :
    ∃ v, suspectedThrottling (heatWindow [heatRow (.int 2000) 60 95, heatRow (.int 1600) 85 95,
      heatRow (.int 1500) 50 20]) 0 = .ok v ∧ v.verdict = .suspected := by
  refine (clock_drop_suspected_iff (heatWindow [heatRow (.int 2000) 60 95,
    heatRow (.int 1600) 85 95, heatRow (.int 1500) 50 20]) 0 ?_).2 (fun _ => ?_) ?_
  · exact noDriverReason_heatRow (List.forall_mem_cons.2 ⟨⟨_, _, _, rfl⟩,
      List.forall_mem_cons.2 ⟨⟨_, _, _, rfl⟩, List.forall_mem_singleton.2 ⟨_, _, _, rfl⟩⟩⟩)
  · refine ⟨heatRow (.int 1600) 85 95, ⟨[heatRow (.int 2000) 60 95], [heatRow (.int 1500) 50 20],
      rfl, by decide +kernel, ?_⟩, by decide +kernel⟩
    intro pre y post h
    cases pre with
    | nil => cases h; rfl
    | cons z pre => cases pre <;> cases h
  · exact correlatedDrop_pair rfl rfl (by decide +kernel) (by decide +kernel) (by decide +kernel)
      (by decide +kernel)

/-- The clock drops at low utilization, then further at 90 °C under full load; the verdict is
    "not suspected". -/
theorem masked_drop :
    CorrelatedDrop ((heatWindow [heatRow (.int 2000) 60 95, heatRow (.int 1600) 50 20,
      heatRow (.int 1500) 90 95]).gpuSamples 0) ∧
    NoDriverReason ((heatWindow [heatRow (.int 2000) 60 95, heatRow (.int 1600) 50 20,
      heatRow (.int 1500) 90 95]).gpuSamples 0) ∧
    ¬ ∃ v, suspectedThrottling (heatWindow [heatRow (.int 2000) 60 95,
      heatRow (.int 1600) 50 20, heatRow (.int 1500) 90 95]) 0 = .ok v ∧
      v.verdict = .suspected := by
  refine ⟨⟨[heatRow (.int 2000) 60 95, heatRow (.int 1600) 50 20], heatRow (.int 1500) 90 95, [],
    .int 1500, .int 2000, rfl, rfl, ?_, by decide +kernel, by decide +kernel,
    .inl (by decide +kernel)⟩, ?_, ?_⟩
  · refine ⟨List.mem_cons_self, fun c hc _ => ?_⟩
    have hclocks : clocks [heatRow (.int 2000) 60 95, heatRow (.int 1600) 50 20] =
        [.int 2000, .int 1600] := rfl
    rw [hclocks] at hc
    rcases List.mem_cons.1 hc with rfl | hc
    · decide +kernel
    · rw [List.mem_singleton.1 hc]
      decide +kernel
  · exact noDriverReason_heatRow (List.forall_mem_cons.2 ⟨⟨_, _, _, rfl⟩,
      List.forall_mem_cons.2 ⟨⟨_, _, _, rfl⟩, List.forall_mem_singleton.2 ⟨_, _, _, rfl⟩⟩⟩)
  · rintro ⟨v, hv, hsuspected⟩
    have hverdict : suspectedThrottling (heatWindow [heatRow (.int 2000) 60 95,
        heatRow (.int 1600) 50 20, heatRow (.int 1500) 90 95]) 0 =
          .ok ⟨0, .notSuspected, "clock_drop_with_low_utilization", 75 / 100, 3⟩ := by
      decide +kernel
    rw [hverdict] at hv
    cases hv
    cases hsuspected

end Binary64

end SweatMeter
