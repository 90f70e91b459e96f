/-
  The throttling verdict of a window that grows.

  The snapshots come in chronological order.  As the window grows, the evidence behind
  the verdict on a device only goes up: from too few clocks to clocks without a drop, to
  a drop, to a reason that the driver reports.  The first drop settles the verdict until
  the driver reports a reason, and such a reason settles it for good
  (`verdict_progress`).
-/
import SweatMeter.ClockDrop
import SweatMeter.Py.Text
import SweatMeter.SampleOrder

namespace SweatMeter

open Py

/-! ## Verdicts -/

/-- The field that `__post_init__` refuses, if any.  An index and a count are natural
    numbers, and a state is a `ThrottleState`. -/
def ThrottleVerdict.refused (v : ThrottleVerdict) : Option String :=
  if strip v.reason.toList = [] then some "reason"
  else if 0 ≤ v.confidence ∧ v.confidence ≤ 1 then none
  else some "confidence"

/-- `suspected`. -/
def ThrottleVerdict.suspected (v : ThrottleVerdict) : Option Bool :=
  if v.verdict = .unknown then none else some (v.verdict = .suspected)

/-- How far the evidence behind a reason goes: too few clocks, no drop, a drop, a reason of
    the driver. -/
def evidenceOf (reason : String) : ℕ :=
  if "driver_reported:".toList <+: reason.toList then 3
  else if "clock_drop_".toList <+: reason.toList then 2
  else if reason = "insufficient_clock_data" then 0
  else 1

def ThrottleVerdict.evidence (v : ThrottleVerdict) : ℕ := evidenceOf v.reason

/-- The verdict on a drop, behind this many clocks. -/
def dropVerdict (gpuIndex : ℕ) (drop : GpuSample ℚ) (count : ℕ) : ThrottleVerdict :=
  if drop.isHot then ⟨gpuIndex, .suspected, "clock_drop_with_high_temperature", 8 / 10, count⟩
  else if drop.nearPowerLimit then
    ⟨gpuIndex, .suspected, "clock_drop_near_power_limit", 75 / 100, count⟩
  else if drop.lowUtilization then
    ⟨gpuIndex, .notSuspected, "clock_drop_with_low_utilization", 75 / 100, count⟩
  else ⟨gpuIndex, .unknown, "clock_drop_without_correlating_evidence", 25 / 100, count⟩

/-- A verdict, with the evidence it rests on. -/
inductive Judged (g : ℕ) (rows : List (GpuSample ℚ)) : ThrottleVerdict → Prop
  | insufficient : activeReasons (reportedRows rows) = [] → clockCount rows < minClockSamples →
      Judged g rows ⟨g, .unknown, "insufficient_clock_data", 0, clockCount rows⟩
  | reported : activeReasons (reportedRows rows) = [] → minClockSamples ≤ clockCount rows →
      substantialClockDrop rows = none → Judged g rows
        ⟨g, .notSuspected, "driver_reported_no_throttling", 95 / 100, (reportedRows rows).length⟩
  | steady : activeReasons (reportedRows rows) = [] → minClockSamples ≤ clockCount rows →
      substantialClockDrop rows = none →
      Judged g rows ⟨g, .notSuspected, "no_substantial_clock_drop", 6 / 10, clockCount rows⟩
  | drop {d : GpuSample ℚ} : activeReasons (reportedRows rows) = [] →
      substantialClockDrop rows = some d → Judged g rows (dropVerdict g d (clockCount rows))
  | driver : activeReasons (reportedRows rows) ≠ [] →
      Judged g rows ⟨g, .suspected,
        "driver_reported:" ++ ",".intercalate (activeReasons (reportedRows rows)), 1,
        (reportedRows rows).length⟩

variable {g : ℕ} {rows more : List (GpuSample ℚ)} {d : GpuSample ℚ} {v v' : ThrottleVerdict}

theorem clockVerdict_judged (hactive : activeReasons (reportedRows rows) = []) :
    Judged g rows (clockVerdict g rows (reportedRows rows)) := by
  unfold clockVerdict
  by_cases hcount : clockCount rows < minClockSamples
  · exact (if_pos hcount).symm ▸ .insufficient hactive hcount
  · refine (if_neg hcount).symm ▸ ?_
    cases hdrop : substantialClockDrop rows with
    | none =>
      simp only
      split_ifs
      · exact .reported hactive (not_lt.1 hcount) hdrop
      · exact .steady hactive (not_lt.1 hcount) hdrop
    | some d => exact .drop hactive hdrop

theorem throttleVerdict_judged (g : ℕ) (rows : List (GpuSample ℚ)) :
    Judged g rows (throttleVerdict g rows) := by
  by_cases hactive : activeReasons (reportedRows rows) = []
  · rw [throttleVerdict, if_neg (not_not.2 hactive)]
    exact clockVerdict_judged hactive
  · rw [throttleVerdict, if_pos hactive]
    exact .driver hactive

theorem evidence_dropVerdict (count : ℕ) : (dropVerdict g d count).evidence = 2 := by
  unfold dropVerdict
  split_ifs <;> (simp only [ThrottleVerdict.evidence]; decide +kernel)

theorem evidence_driver (reasons : String) : evidenceOf ("driver_reported:" ++ reasons) = 3 := by
  refine if_pos ?_
  rw [String.toList_append]
  exact List.prefix_append _ _

theorem refused_mk {reason : String} {confidence : ℚ} (hreason : strip reason.toList ≠ [])
    (hconfidence : 0 ≤ confidence ∧ confidence ≤ 1) (state : ThrottleState) (count : ℕ) :
    (ThrottleVerdict.mk g state reason confidence count).refused = none := by
  rw [ThrottleVerdict.refused, if_neg hreason, if_pos hconfidence]

/-- Every verdict is accepted. -/
theorem Judged.refused (h : Judged g rows v) : v.refused = none := by
  cases h with
  | insufficient => exact refused_mk (by decide +kernel) (by norm_num) _ _
  | reported => exact refused_mk (by decide +kernel) (by norm_num) _ _
  | steady => exact refused_mk (by decide +kernel) (by norm_num) _ _
  | drop =>
    unfold dropVerdict
    split_ifs <;> exact refused_mk (by decide +kernel) (by norm_num) _ _
  | driver =>
    refine refused_mk ?_ (by norm_num) _ _
    rw [String.toList_append]
    exact strip_ne_nil (List.mem_append_left _ (by simp : 'd' ∈ "driver_reported:".toList)) rfl

/-- A verdict counts rows of the device. -/
theorem Judged.supportedSamples_le (h : Judged g rows v) : v.supportedSamples ≤ rows.length := by
  have hclocks : clockCount rows ≤ rows.length := List.length_filter_le _ _
  have hreported : (reportedRows rows).length ≤ rows.length := List.length_filter_le _ _
  cases h with
  | drop =>
    unfold dropVerdict
    split_ifs <;> exact hclocks
  | driver => exact hreported
  | reported => exact hreported
  | insufficient => exact hclocks
  | steady => exact hclocks

/-! ## More rows -/

theorem activeReasons_append (h : activeReasons (reportedRows rows) ≠ []) :
    activeReasons (reportedRows (rows ++ more)) ≠ [] := by
  obtain ⟨reason, hreason⟩ := List.exists_mem_of_ne_nil _ h
  obtain ⟨x, hx, hrest⟩ := mem_activeReasons.1 hreason
  exact List.ne_nil_of_mem (mem_activeReasons.2 ⟨x, List.mem_append_left _ hx, hrest⟩)

theorem length_filter_append (p : GpuSample ℚ → Bool) (rows more : List (GpuSample ℚ)) :
    (rows.filter p).length ≤ ((rows ++ more).filter p).length := by
  rw [List.filter_append, List.length_append]
  omega

theorem clockDropFrom_append {m : Option ℚ} (h : clockDropFrom m rows = some d) :
    clockDropFrom m (rows ++ more) = some d := by
  fun_induction clockDropFrom m rows with
  | case1 => cases h
  | case2 m x xs hc ih => simpa [clockDropFrom, hc] using ih h
  | case3 x xs clock hc ih => simpa [clockDropFrom, hc] using ih h
  | case4 x xs clock m hc hdrop => simpa [clockDropFrom, hc, hdrop] using h
  | case5 x xs clock m hc hdrop ih => simpa [clockDropFrom, hc, hdrop] using ih h

/-- The first drop stays the first. -/
theorem substantialClockDrop_append (h : substantialClockDrop rows = some d) :
    substantialClockDrop (rows ++ more) = some d := clockDropFrom_append h

theorem clockCount_cons (x : GpuSample ℚ) (rows : List (GpuSample ℚ)) :
    clockCount (x :: rows) =
      (if (x.measurement .coreClockMhz).isSome then 1 else 0) + clockCount rows := by
  unfold clockCount
  rw [List.filter_cons]
  split_ifs
  · exact Nat.add_comm _ _
  · exact (Nat.zero_add _).symm

/-- The scan stops at a clock, with another one before it or as its maximum. -/
theorem two_le_of_clockDropFrom {m : Option ℚ} (h : clockDropFrom m rows = some d) :
    minClockSamples ≤ (if m.isSome then 1 else 0) + clockCount rows := by
  fun_induction clockDropFrom m rows with
  | case1 => cases h
  | case2 m x xs hc ih => simpa [clockCount_cons, hc] using ih h
  | case3 x xs clock hc ih => simpa [clockCount_cons, hc] using ih h
  | case4 x xs clock m hc hdrop => simp [clockCount_cons, hc, minClockSamples]; omega
  | case5 x xs clock m hc hdrop ih =>
    have := ih h
    simp only [clockCount_cons, hc, Option.isSome_some, if_true] at this ⊢
    omega

theorem two_le_of_substantialClockDrop (h : substantialClockDrop rows = some d) :
    minClockSamples ≤ clockCount rows := by
  simpa using two_le_of_clockDropFrom h

/-- A verdict, and one on more rows. -/
structure Progress (v v' : ThrottleVerdict) : Prop where
  evidence : v.evidence ≤ v'.evidence
  settled : v.evidence = 2 → v'.evidence = 2 → v'.verdict = v.verdict ∧ v'.reason = v.reason ∧
    v'.confidence = v.confidence ∧ v.supportedSamples ≤ v'.supportedSamples
  reported : v.evidence = 3 → v'.suspected = some true ∧ v'.confidence = 1 ∧
    v.supportedSamples ≤ v'.supportedSamples

/-- What the evidence of a verdict says of the rows. -/
structure Weighed (rows : List (GpuSample ℚ)) (g : ℕ) (v : ThrottleVerdict) : Prop where
  le : v.evidence ≤ 3
  zero : v.evidence = 0 ↔
    activeReasons (reportedRows rows) = [] ∧ clockCount rows < minClockSamples
  one : v.evidence = 1 → substantialClockDrop rows = none
  two : v.evidence = 2 → ∃ d, substantialClockDrop rows = some d ∧
    v = dropVerdict g d (clockCount rows)
  three : v.evidence = 3 ↔ activeReasons (reportedRows rows) ≠ []
  reported : v.evidence = 3 → v.verdict = .suspected ∧ v.confidence = 1 ∧
    v.supportedSamples = (reportedRows rows).length

theorem Judged.weighed (h : Judged g rows v) : Weighed rows g v := by
  have hzero : evidenceOf "insufficient_clock_data" = 0 := by decide +kernel
  have hreported : evidenceOf "driver_reported_no_throttling" = 1 := by decide +kernel
  have hsteady : evidenceOf "no_substantial_clock_drop" = 1 := by decide +kernel
  cases h with
  | insufficient hactive hcount =>
    constructor <;> simp [ThrottleVerdict.evidence, hzero, hactive, hcount]
  | reported hactive hcount hdrop =>
    constructor <;> simp [ThrottleVerdict.evidence, hreported, hactive, hcount, hdrop]
  | steady hactive hcount hdrop =>
    constructor <;> simp [ThrottleVerdict.evidence, hsteady, hactive, hcount, hdrop]
  | @drop d hactive hdrop =>
    have hcount : minClockSamples ≤ clockCount rows := two_le_of_substantialClockDrop hdrop
    have htwo : ∃ d', substantialClockDrop rows = some d' ∧
        dropVerdict g d (clockCount rows) = dropVerdict g d' (clockCount rows) := ⟨d, hdrop, rfl⟩
    constructor <;> simp [evidence_dropVerdict, hactive, hcount, htwo]
  | driver hactive => constructor <;> simp [ThrottleVerdict.evidence, evidence_driver, hactive]

/-- **More rows carry the verdict further.** -/
theorem Judged.progress (h : Judged g rows v) (h' : Judged g (rows ++ more) v') :
    Progress v v' := by
  have hrows : (reportedRows rows).length ≤ (reportedRows (rows ++ more)).length :=
    length_filter_append _ _ _
  have hcount : clockCount rows ≤ clockCount (rows ++ more) := length_filter_append _ _ _
  have hv := h.weighed
  have hv' := h'.weighed
  have hthree : v.evidence = 3 → v'.evidence = 3 := fun heq =>
    hv'.three.2 (activeReasons_append (hv.three.1 heq))
  have hzero : v'.evidence = 0 → v.evidence = 0 := by
    intro heq
    obtain ⟨hactive, hlt⟩ := hv'.zero.1 heq
    refine hv.zero.2 ⟨?_, hcount.trans_lt hlt⟩
    by_contra hne
    exact activeReasons_append hne hactive
  have hone : v.evidence = 2 → v'.evidence ≠ 1 := by
    intro heq heq'
    obtain ⟨d, hd, -⟩ := hv.two heq
    have hnone := hv'.one heq'
    rw [substantialClockDrop_append hd] at hnone
    cases hnone
  refine ⟨?_, fun heq heq' => ?_, fun heq => ?_⟩
  · have := hv.le
    omega
  · obtain ⟨d, hd, rfl⟩ := hv.two heq
    obtain ⟨d', hd', rfl⟩ := hv'.two heq'
    obtain rfl : d = d' := Option.some.inj ((substantialClockDrop_append hd).symm.trans hd')
    unfold dropVerdict
    split_ifs <;> exact ⟨rfl, rfl, rfl, hcount⟩
  · obtain ⟨-, -, hlength⟩ := hv.reported heq
    obtain ⟨hstate, hconfidence, hlength'⟩ := hv'.reported (hthree heq)
    exact ⟨by simp [ThrottleVerdict.suspected, hstate], hconfidence, by omega⟩

/-! ## Windows -/

variable {Z : Zones} {xs : List (TelemetrySnapshot ℚ)}

/-- The rows of a longer series begin with those of a shorter one. -/
theorem gpuSamples_take (S : Sorter Z.lt) (h : Chronological Z xs) (g : ℕ) {i j : ℕ} (hij : i ≤ j) :
    ∃ more, (TelemetryWindow.make S (xs.take j)).gpuSamples g =
      (TelemetryWindow.make S (xs.take i)).gpuSamples g ++ more := by
  have hsplit : xs.take j = xs.take i ++ (xs.take j).drop i := by
    have hmin : (xs.take j).take i = xs.take i := by rw [List.take_take, min_eq_left hij]
    rw [← hmin, List.take_append_drop]
  rw [TelemetryWindow.gpuSamples, TelemetryWindow.gpuSamples,
    (h.sublist (List.take_sublist _ _)).samples S, (h.sublist (List.take_sublist _ _)).samples S,
    hsplit, List.filterMap_append]
  exact ⟨_, rfl⟩

/-- **The verdict of a window that grows.**  Any verdict is accepted by its constructor and
    counts snapshots of the window.  As a chronological series goes on, the evidence never goes
    down; a drop keeps its state, reason and confidence for as long as it is the evidence; and
    after a reason of the driver the verdict stays "suspected" with full confidence. -/
theorem verdict_progress (g : ℕ) :
    (∀ W : TelemetryWindow ℚ, (W.suspectedThrottling g).refused = none ∧
      (W.suspectedThrottling g).supportedSamples ≤ W.sampleCount) ∧
    ∀ (Z : Zones) (S : Sorter Z.lt) (xs : List (TelemetrySnapshot ℚ)), Chronological Z xs →
      ∀ i j, i ≤ j → Progress ((TelemetryWindow.make S (xs.take i)).suspectedThrottling g)
        ((TelemetryWindow.make S (xs.take j)).suspectedThrottling g) := by
  refine ⟨fun W => ?_, fun Z S xs h i j hij => ?_⟩
  · have hjudged := throttleVerdict_judged g (W.gpuSamples g)
    exact ⟨hjudged.refused, hjudged.supportedSamples_le.trans (List.length_filterMap_le _ _)⟩
  · obtain ⟨more, hmore⟩ := gpuSamples_take S h g hij
    have hlater := throttleVerdict_judged g ((TelemetryWindow.make S (xs.take j)).gpuSamples g)
    rw [hmore] at hlater
    rw [TelemetryWindow.suspectedThrottling, TelemetryWindow.suspectedThrottling, hmore]
    exact (throttleVerdict_judged g _).progress hlater

end SweatMeter
