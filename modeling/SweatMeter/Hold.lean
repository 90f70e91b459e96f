/-
  A signal that is known by samples of it, and its integral.

  A sample is a time and a value.  Up to the next sample the signal is held at the
  value, and before the first one it is zero (`hold`).  Over the time of the samples,
  its integral is the sum of the rectangles to the right of them (`integral_hold`).
-/
import Mathlib.MeasureTheory.Integral.IntervalIntegral.Basic

namespace Hold

open MeasureTheory

/-- The value of the last of these samples up to this time. -/
noncomputable def hold (samples : List (ℝ × ℝ)) (t : ℝ) : ℝ :=
  ((samples.filter fun p => p.1 ≤ t).getLast?.map Prod.snd).getD 0

/-- Every value but the last, times the time to the next sample. -/
noncomputable def leftSum : List (ℝ × ℝ) → ℝ
  | a :: b :: samples => a.2 * (b.1 - a.1) + leftSum (b :: samples)
  | _ => 0

variable {a b : ℝ × ℝ} {samples : List (ℝ × ℝ)} {t : ℝ}

theorem hold_snoc (samples : List (ℝ × ℝ)) (a : ℝ × ℝ) (t : ℝ) :
    hold (samples ++ [a]) t = if a.1 ≤ t then a.2 else hold samples t := by
  rw [hold, List.filter_append]
  split_ifs with ha
  · simp [ha]
  · simp [ha, hold]

/-- Samples before the first one up to the time do not matter. -/
theorem hold_cons_cons (hb : b.1 ≤ t) : hold (a :: b :: samples) t = hold (b :: samples) t := by
  by_cases ha : a.1 ≤ t <;> simp [hold, ha, hb]

/-- Nor do samples after it. -/
theorem hold_cons_of_lt (ha : a.1 ≤ t) (h : ∀ p ∈ samples, t < p.1) :
    hold (a :: samples) t = a.2 := by
  have hnil : samples.filter (fun p => p.1 ≤ t) = [] := by
    rw [List.filter_eq_nil_iff]
    intro p hp
    simpa using h p hp
  simp [hold, ha, hnil]

/-- The signal has no values but those of the samples, from the first one on. -/
theorem exists_hold (ha : a.1 ≤ t) : ∃ p ∈ a :: samples, hold (a :: samples) t = p.2 := by
  have hne : (a :: samples).filter (fun p => p.1 ≤ t) ≠ [] := by simp [ha]
  refine ⟨((a :: samples).filter fun p => p.1 ≤ t).getLast hne, ?_, ?_⟩
  · exact List.mem_of_mem_filter (List.getLast_mem hne)
  · rw [hold, List.getLast?_eq_some_getLast hne]
    rfl

/-! ## Integrability -/

theorem measurable_hold (samples : List (ℝ × ℝ)) : Measurable (hold samples) := by
  induction samples using List.reverseRecOn with
  | nil => exact measurable_const
  | append_singleton samples a ih =>
    have hite : hold (samples ++ [a]) = fun t => if a.1 ≤ t then a.2 else hold samples t :=
      funext (hold_snoc samples a)
    rw [hite]
    exact Measurable.ite measurableSet_Ici measurable_const ih

theorem exists_bound (samples : List (ℝ × ℝ)) : ∃ M, ∀ t, ‖hold samples t‖ ≤ M := by
  induction samples using List.reverseRecOn with
  | nil => exact ⟨0, fun t => by simp [hold]⟩
  | append_singleton samples a ih =>
    obtain ⟨M, hM⟩ := ih
    refine ⟨max M ‖a.2‖, fun t => ?_⟩
    rw [hold_snoc]
    split_ifs
    · exact le_max_right _ _
    · exact (hM t).trans (le_max_left _ _)

theorem intervalIntegrable_hold (samples : List (ℝ × ℝ)) (s e : ℝ) :
    IntervalIntegrable (hold samples) volume s e := by
  obtain ⟨M, hM⟩ := exists_bound samples
  have hfinite (x y : ℝ) : volume (Set.Ioc x y) ≠ ⊤ := measure_Ioc_lt_top.ne
  have hon (x y : ℝ) : IntegrableOn (hold samples) (Set.Ioc x y) :=
    Measure.integrableOn_of_bounded (hfinite x y) (measurable_hold samples).aestronglyMeasurable
      (Filter.Eventually.of_forall hM)
  exact ⟨hon s e, hon e s⟩

/-! ## The integral -/

/-- **The integral is the sum of the rectangles.** -/
theorem integral_hold (h : (a :: samples).Pairwise fun p q => p.1 ≤ q.1) :
    ∫ t in a.1..((a :: samples).getLast (List.cons_ne_nil _ _)).1, hold (a :: samples) t =
      leftSum (a :: samples) := by
  induction samples generalizing a with
  | nil => simp [leftSum]
  | cons b samples ih =>
    obtain ⟨ha, hrest⟩ := List.pairwise_cons.1 h
    have hab : a.1 ≤ b.1 := ha b List.mem_cons_self
    have hlast : b.1 ≤ ((b :: samples).getLast (List.cons_ne_nil _ _)).1 :=
      hrest.rel_getLast_of_rel_getLast_getLast List.mem_cons_self le_rfl
    have hfirst : ∫ t in a.1..b.1, hold (a :: b :: samples) t = a.2 * (b.1 - a.1) := by
      have hconst : Set.EqOn (hold (a :: b :: samples)) (fun _ => a.2) (Set.Ioo a.1 b.1) := by
        intro t ht
        refine hold_cons_of_lt ht.1.le fun p hp => ?_
        rcases List.mem_cons.1 hp with rfl | hp
        · exact ht.2
        · exact ht.2.trans_le ((List.pairwise_cons.1 hrest).1 p hp)
      rw [intervalIntegral.integral_congr_Ioo_of_le hab hconst, intervalIntegral.integral_const,
        smul_eq_mul, mul_comm]
    have hlater : ∫ t in b.1..((b :: samples).getLast (List.cons_ne_nil _ _)).1,
        hold (a :: b :: samples) t = leftSum (b :: samples) := by
      rw [← ih hrest]
      refine intervalIntegral.integral_congr fun t ht => hold_cons_cons ?_
      rw [Set.uIcc_of_le hlast] at ht
      exact ht.1
    rw [List.getLast_cons (List.cons_ne_nil _ _), leftSum, ← hfirst, ← hlater]
    exact (intervalIntegral.integral_add_adjacent_intervals (intervalIntegrable_hold _ _ _)
      (intervalIntegrable_hold _ _ _)).symm

/-- The integral of a signal within bounds. -/
theorem integral_hold_bounds {lo hi : ℝ} (h : ∀ p ∈ a :: samples, lo ≤ p.2 ∧ p.2 ≤ hi) {e : ℝ}
    (he : a.1 ≤ e) : lo * (e - a.1) ≤ ∫ t in a.1..e, hold (a :: samples) t ∧
      ∫ t in a.1..e, hold (a :: samples) t ≤ hi * (e - a.1) := by
  have hbounds : ∀ t ∈ Set.Icc a.1 e, lo ≤ hold (a :: samples) t ∧ hold (a :: samples) t ≤ hi := by
    intro t ht
    obtain ⟨p, hp, heq⟩ := @exists_hold a samples t ht.1
    rw [heq]
    exact h p hp
  have hconst (c : ℝ) : ∫ _ in a.1..e, c = c * (e - a.1) := by
    rw [intervalIntegral.integral_const, smul_eq_mul, mul_comm]
  rw [← hconst lo, ← hconst hi]
  exact ⟨intervalIntegral.integral_mono_on he intervalIntegrable_const
      (intervalIntegrable_hold _ _ _) fun t ht => (hbounds t ht).1,
    intervalIntegral.integral_mono_on he (intervalIntegrable_hold _ _ _)
      intervalIntegrable_const fun t ht => (hbounds t ht).2⟩

end Hold
