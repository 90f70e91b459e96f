/-
  What the energy of a window is: the integral of a power.

  A snapshot tells the power of a device at its instant, zero if it tells none, and the
  power is held up to the next snapshot.  The energy is the integral of that signal over
  the time of the window (`energy_integral`), so it is within the bounds of the power
  times that time.
-/
import SweatMeter.Hold
import SweatMeter.MissingData

namespace SweatMeter

open Py

variable (Z : Zones) (g : ℕ)

/-- The instant of a snapshot, in seconds. -/
noncomputable def seconds (x : TelemetrySnapshot ℚ) : ℝ := Z.instant x.timestamp / 1000000

/-- The power of a device, at the snapshots. -/
noncomputable def powerSamples (xs : List (TelemetrySnapshot ℚ)) : List (ℝ × ℝ) :=
  xs.map fun x => (seconds Z x, (reportedPower g x : ℝ))

variable {Z g} {xs : List (TelemetrySnapshot ℚ)}

theorem Chronological.pairwise_powerSamples (h : Chronological Z xs) :
    (powerSamples Z g xs).Pairwise fun p q => p.1 ≤ q.1 := by
  refine List.pairwise_map.2 (h.ordered.imp fun {a b} hab => ?_)
  have hcast : (Z.instant a.timestamp : ℝ) ≤ Z.instant b.timestamp := Int.cast_le.2 hab
  simp only [seconds]
  linarith

/-- The terms of the window are the rectangles of the signal. -/
theorem Chronological.energySum_eq (h : Chronological Z xs) :
    (energySum Z g xs : ℝ) = Hold.leftSum (powerSamples Z g xs) := by
  induction xs with
  | nil => simp [energySum, pairwise, powerSamples, Hold.leftSum]
  | cons a xs ih =>
    have hxs : Chronological Z xs := h.sublist (List.sublist_cons_self _ _)
    cases xs with
    | nil => simp [energySum, pairwise, powerSamples, Hold.leftSum]
    | cons b xs =>
      have hab : Z.instant a.timestamp ≤ Z.instant b.timestamp :=
        (List.pairwise_cons.1 h.ordered).1 b List.mem_cons_self
      have hsum : Hold.leftSum (powerSamples Z g (a :: b :: xs)) =
          reportedPower g a * (seconds Z b - seconds Z a) +
            Hold.leftSum (powerSamples Z g (b :: xs)) := rfl
      rw [energySum_cons, rectangle_getD, max_eq_right (by omega), hsum, ← ih hxs]
      push_cast
      rw [seconds, seconds]
      ring

/-- The energy of a series as an integral, and its bounds. -/
theorem Chronological.energySum_integral (h : Chronological Z xs) (hne : xs ≠ []) :
    ∃ first ∈ xs, ∃ last ∈ xs, (∀ x ∈ xs, seconds Z first ≤ seconds Z x ∧
        seconds Z x ≤ seconds Z last) ∧
      (energySum Z g xs : ℝ) =
        ∫ t in seconds Z first..seconds Z last, Hold.hold (powerSamples Z g xs) t ∧
      ∀ lo hi : ℚ, (∀ x ∈ xs, lo ≤ reportedPower g x ∧ reportedPower g x ≤ hi) →
        lo * (seconds Z last - seconds Z first) ≤ (energySum Z g xs : ℝ) ∧
          (energySum Z g xs : ℝ) ≤ hi * (seconds Z last - seconds Z first) := by
  have hpairs := h.pairwise_powerSamples (g := g)
  rw [h.energySum_eq]
  cases xs with
  | nil => exact absurd rfl hne
  | cons a xs =>
    have hlast : ((powerSamples Z g (a :: xs)).getLast (by simp [powerSamples])).1 =
        seconds Z ((a :: xs).getLast hne) := by
      simp only [powerSamples, List.getLast_map]
    have hspan : ∀ x ∈ a :: xs, seconds Z a ≤ seconds Z x ∧
        seconds Z x ≤ seconds Z ((a :: xs).getLast hne) := by
      have hseconds := List.pairwise_map.1 hpairs
      intro x hx
      exact ⟨hseconds.rel_head_of_rel_head_head hx le_rfl,
        hseconds.rel_getLast_of_rel_getLast_getLast hx le_rfl⟩
    have heq : Hold.leftSum (powerSamples Z g (a :: xs)) =
        ∫ t in seconds Z a..seconds Z ((a :: xs).getLast hne),
          Hold.hold (powerSamples Z g (a :: xs)) t := by
      rw [← hlast]
      exact (Hold.integral_hold hpairs).symm
    refine ⟨a, List.mem_cons_self, _, List.getLast_mem hne, hspan, heq, fun lo hi hbounds => ?_⟩
    have hpowers : ∀ p ∈ powerSamples Z g (a :: xs), (lo : ℝ) ≤ p.2 ∧ p.2 ≤ hi := by
      rw [powerSamples, List.forall_mem_map]
      intro x hx
      exact ⟨Rat.cast_le.2 (hbounds x hx).1, Rat.cast_le.2 (hbounds x hx).2⟩
    rw [heq]
    exact @Hold.integral_hold_bounds _ _ lo hi hpowers _ (hspan _ (List.getLast_mem hne)).1

/-- **Energy is the integral of the power.**  The power of a device is what the last snapshot
    up to the time reports, or zero where it reports none.  The window's energy is the integral
    of it from the first instant to the last, and within its bounds times that time. -/
theorem energy_integral (S : Sorter Z.lt) (hutc : ∀ x ∈ xs, Z.IsUtc x.timestamp) (hne : xs ≠ []) :
    ∃ first ∈ xs, ∃ last ∈ xs, (∀ x ∈ xs, seconds Z first ≤ seconds Z x ∧
        seconds Z x ≤ seconds Z last) ∧
      ((((TelemetryWindow.make S xs).energyJoules Z g).getD 0 : ℚ) : ℝ) =
        ∫ t in seconds Z first..seconds Z last,
          Hold.hold (powerSamples Z g (TelemetryWindow.make S xs).samples) t ∧
      ∀ lo hi : ℚ, (∀ x ∈ xs, lo ≤ reportedPower g x ∧ reportedPower g x ≤ hi) →
        lo * (seconds Z last - seconds Z first) ≤
            ((((TelemetryWindow.make S xs).energyJoules Z g).getD 0 : ℚ) : ℝ) ∧
          ((((TelemetryWindow.make S xs).energyJoules Z g).getD 0 : ℚ) : ℝ) ≤
            hi * (seconds Z last - seconds Z first) := by
  have hperm := samples_perm S xs
  have hne' : (TelemetryWindow.make S xs).samples ≠ [] := fun h => hne (h ▸ hperm).symm.eq_nil
  obtain ⟨first, hfirst, last, hlast, hspan, hintegral, hbounds⟩ :=
    (chronological_make S hutc).energySum_integral (g := g) hne'
  rw [energyJoules_make S hutc]
  exact ⟨first, hperm.mem_iff.1 hfirst, last, hperm.mem_iff.1 hlast,
    fun x hx => hspan x (hperm.mem_iff.2 hx), hintegral,
    fun lo hi h => hbounds lo hi fun x hx => h x (hperm.mem_iff.1 hx)⟩

/-- 100 W for two seconds, and nothing for another one. -/
theorem energy_integral_metered :
    ∫ t in (0 : ℝ)..3, Hold.hold (powerSamples utcZones 0 meteredSamples) t = 200 := by
  have hchron : Chronological utcZones meteredSamples := by
    constructor
    · intro x _; exact rfl
    · simp [meteredSamples, Zones.instant, utcZones]
  obtain ⟨first, hfirst, last, hlast, hspan, hintegral, -⟩ := energy_integral (g := 0)
    (Sorter.insertion utcZones.lt) hchron.utc (by simp [meteredSamples])
  have henergy : (TelemetryWindow.make (Sorter.insertion utcZones.lt) meteredSamples).energyJoules
      utcZones 0 = some 200 := by
    decide +kernel
  have hseconds : ∀ x ∈ meteredSamples, 0 ≤ seconds utcZones x ∧ seconds utcZones x ≤ 3 := by
    simp [meteredSamples, seconds, Zones.instant, utcZones]
    norm_num
  have hzero : seconds utcZones first = 0 := by
    refine le_antisymm ?_ (hseconds first hfirst).1
    refine (hspan (meteredSamples[0]) (by simp [meteredSamples])).1.trans_eq ?_
    simp [meteredSamples, seconds, Zones.instant, utcZones]
  have hthree : seconds utcZones last = 3 := by
    refine le_antisymm (hseconds last hlast).2 ?_
    refine le_trans ?_ (hspan (meteredSamples[2]) (by simp [meteredSamples])).2
    simp [meteredSamples, seconds, Zones.instant, utcZones]
    norm_num
  rw [hchron.samples, henergy, hzero, hthree] at hintegral
  rw [← hintegral]
  simp

end SweatMeter
