/-
  Clock drops that are none.

  The scan takes a reading for a drop that is at or below the maximum before it times
  0.85, in doubles.  Such a reading need not be lower than that maximum: a second reading
  of zero is not, nor is one of infinity, and a reading just above 85% is taken for a drop
  where the product is rounded up to it.  Such a phantom is the only way to a verdict on
  a clock drop without one (`clock_drop_actual_iff`).
-/
import SweatMeter.ClockDrop

namespace SweatMeter

open Py

/-- The verdict rests on a clock drop. -/
def ThrottleVerdict.OnClockDrop (v : ThrottleVerdict) : Prop :=
  "clock_drop_".toList <+: v.reason.toList

namespace Binary64

variable {samples pre post : List (GpuSample Number)} {x d : GpuSample Number} {g : ℕ}
  {v : ThrottleVerdict}

/-- `c` is not negative, lower than `a` and at most 85% of it, in exact arithmetic. -/
structure Drops (a c : Number) : Prop where
  nonneg : (Double.finite 0).le c.exact = true
  lower : c.exact.lt a.exact = true
  fraction : c.exact.le (a.exact.scaled (85 / 100)) = true

/-- The supported non-negative clocks of a series. -/
def readings (samples : List (GpuSample Number)) : List Number :=
  (clocks samples).filter fun c => (Double.finite 0).le c.exact

/-- A reading drops from an earlier one. -/
def ActualDrop (samples : List (GpuSample Number)) : Prop :=
  ∃ a c, List.Sublist [a, c] (readings samples) ∧ Drops a c

/-- The reading at which the source's comparison first holds does not drop from the maximum
    before it; and its sample can be judged. -/
def PhantomDrop (samples : List (GpuSample Number)) : Prop :=
  ∃ pre x post, samples = pre ++ x :: post ∧ DropsAt pre x ∧ (∃ b, correlated x = .ok b) ∧
    ∃ c m, x.measurement .coreClockMhz = some c ∧ Number.maximum (clocks pre) = some m ∧
      ¬ Drops m c

/-! ## The verdict -/

/-- A verdict on the first drop, or one on none. -/
theorem clockVerdict_onClockDrop {reported : List (GpuSample Number)}
    (h : clockVerdict g samples reported = .ok v) :
    (v.OnClockDrop ∨ v.verdict = .suspected) →
      ∃ d b, FirstDrop samples d ∧ correlated d = .ok b := by
  intro hverdict
  rcases clockVerdict_cases h with hnone | hdrop
  · obtain ⟨w, hw, hne, hreason⟩ := clockVerdict_of_none hnone g reported
    cases h.symm.trans hw
    rcases hverdict with hdrop | hsuspected
    · unfold ThrottleVerdict.OnClockDrop at hdrop
      simp only [List.mem_cons, List.not_mem_nil, or_false] at hreason
      rcases hreason with heq | heq | heq <;> exact absurd (heq ▸ hdrop) (by decide)
    · exact absurd hsuspected hne
  · exact hdrop

theorem onClockDrop_of_firstDrop {b : Bool} (h : FirstDrop samples d) (hc : correlated d = .ok b)
    (g : ℕ) (reported : List (GpuSample Number)) :
    ∃ v, clockVerdict g samples reported = .ok v ∧ v.OnClockDrop := by
  obtain ⟨v, hv, -, hreason⟩ := clockVerdict_of_correlated h hc g reported
  refine ⟨v, hv, ?_⟩
  unfold ThrottleVerdict.OnClockDrop
  simp only [List.mem_cons, List.not_mem_nil, or_false] at hreason
  rcases hreason with heq | heq | heq | heq <;> (rw [heq]; decide)

/-! ## Drops and phantoms -/

theorem readings_append (xs ys : List (GpuSample Number)) :
    readings (xs ++ ys) = readings xs ++ readings ys := by
  rw [readings, clocks_append, List.filter_append]
  rfl

/-- A reading that drops from the maximum before it drops from an earlier reading. -/
theorem actualDrop_of_drops {c m : Number} (hc : x.measurement .coreClockMhz = some c)
    (hm : Number.maximum (clocks pre) = some m) (h : Drops m c) :
    ActualDrop (pre ++ x :: post) := by
  refine ⟨m, c, ?_, h⟩
  have hmem : m ∈ readings pre :=
    List.mem_filter.2 ⟨maximum_mem hm, Double.le_of_le_of_lt h.nonneg h.lower⟩
  have hcons : readings (x :: post) = c :: readings post := by
    have hclocks : clocks (x :: post) = c :: clocks post := by simp [clocks, hc]
    rw [readings, hclocks, List.filter_cons, if_pos h.nonneg, readings]
  rw [readings_append, hcons]
  exact (List.singleton_sublist.2 hmem).append (List.cons_sublist_cons.2 (List.nil_sublist _))

/-- **A verdict on a clock drop without one needs a phantom.**  The verdict rests
    on a clock drop, or is "suspected" without a driver-reported reason, only for
    a device whose clock actually drops, exactly if there is a driver-reported
    reason, an actual drop, or no phantom. -/
theorem clock_drop_actual_iff (W : TelemetryWindow Number) (g : ℕ) :
    (∀ v, suspectedThrottling W g = .ok v →
      v.OnClockDrop ∨ (v.verdict = .suspected ∧
        activeReasons (reportedRows (W.gpuSamples g)) = []) → ActualDrop (W.gpuSamples g)) ↔
      activeReasons (reportedRows (W.gpuSamples g)) ≠ [] ∨ ActualDrop (W.gpuSamples g) ∨
        ¬ PhantomDrop (W.gpuSamples g) := by
  by_cases hactive : activeReasons (reportedRows (W.gpuSamples g)) = []
  · have hclock : suspectedThrottling W g =
        clockVerdict g (W.gpuSamples g) (reportedRows (W.gpuSamples g)) := by
      rw [suspectedThrottling, throttleVerdict, if_neg (not_not.2 hactive)]
    rw [hclock]
    constructor
    · intro hhonest
      by_cases hphantom : PhantomDrop (W.gpuSamples g)
      · obtain ⟨pre, x, post, hsplit, hdrops, ⟨b, hb⟩, -⟩ := hphantom
        obtain ⟨v, hv, hdrop⟩ := onClockDrop_of_firstDrop ⟨pre, post, hsplit, hdrops⟩ hb g
          (reportedRows (W.gpuSamples g))
        exact .inr (.inl (hhonest v hv (.inl hdrop)))
      · exact .inr (.inr hphantom)
    · intro hcond v hv hverdict
      obtain ⟨d, b, ⟨pre, post, hsplit, hdrops⟩, hb⟩ :=
        clockVerdict_onClockDrop hv (hverdict.imp_right And.left)
      rcases hcond with hcond | hcond | hcond
      · exact absurd hactive hcond
      · exact hcond
      · obtain ⟨c, m, hc, hm, -⟩ := exists_of_dropTest hdrops.drops
        rw [hsplit] at hcond ⊢
        by_contra hnot
        refine hcond ⟨pre, d, post, rfl, hdrops, ⟨b, hb⟩, c, m, hc, hm, fun h => ?_⟩
        exact hnot (actualDrop_of_drops hc hm h)
  · refine iff_of_true (fun v hv hverdict => ?_) (.inl hactive)
    rw [suspectedThrottling, throttleVerdict, if_pos hactive] at hv
    cases hv
    rcases hverdict with hdrop | ⟨-, hnil⟩
    · unfold ThrottleVerdict.OnClockDrop at hdrop
      rw [String.toList_append] at hdrop
      obtain ⟨t, ht⟩ := hdrop
      cases ht
    · exact absurd hnil hactive

/-- Two readings of the same clock at 85 °C. -/
def idlePair (clock : Number) : TelemetryWindow Number :=
  heatWindow [heatRow clock 85 0, heatRow clock 85 0]

theorem not_actualDrop_idlePair (clock : Number) : ¬ ActualDrop ((idlePair clock).gpuSamples 0) := by
  rintro ⟨a, c, hsub, hdrops⟩
  have hreadings : ∀ q ∈ readings ((idlePair clock).gpuSamples 0), q = clock := by
    intro q hq
    have hclocks : clocks ((idlePair clock).gpuSamples 0) = [clock, clock] := rfl
    have hmem := (List.mem_filter.1 hq).1
    rw [hclocks] at hmem
    simpa using hmem
  have hlower := hdrops.lower
  rw [hreadings a (hsub.subset List.mem_cons_self),
    hreadings c (hsub.subset (List.mem_cons_of_mem _ List.mem_cons_self)), Double.lt_self] at hlower
  cases hlower

/-- The verdict rests on a clock drop and is "suspected", without a drop or a reason of the
    driver. -/
structure FalseDrop (W : TelemetryWindow Number) (g : ℕ) : Prop where
  still : ¬ ActualDrop (W.gpuSamples g)
  silent : NoDriverReason (W.gpuSamples g)
  verdict : ∃ v, suspectedThrottling W g = .ok v ∧ v.OnClockDrop ∧ v.verdict = .suspected

theorem falseDrop_idlePair {clock : Number} (h : suspectedThrottling (idlePair clock) 0 =
    .ok ⟨0, .suspected, "clock_drop_with_high_temperature", 8 / 10, 2⟩) :
    FalseDrop (idlePair clock) 0 where
  still := not_actualDrop_idlePair clock
  silent := noDriverReason_heatRow (List.forall_mem_cons.2 ⟨⟨_, _, _, rfl⟩,
    List.forall_mem_singleton.2 ⟨_, _, _, rfl⟩⟩)
  verdict := ⟨_, h, by unfold ThrottleVerdict.OnClockDrop; decide, rfl⟩

/-- Two readings of zero, or of infinity, on a card that is warm. -/
theorem zero_clock_drop :
    FalseDrop (idlePair (.int 0)) 0 ∧ FalseDrop (idlePair (.float (.inf false))) 0 :=
  ⟨falseDrop_idlePair (by decide +kernel), falseDrop_idlePair (by decide +kernel)⟩

end Binary64

end SweatMeter
