/-
  The energy of a window.

  On snapshots in UTC and in chronological order the window's energy terms are
  the left rectangles of the series (`leftRectangle`): an interval of positive
  length contributes the power its first snapshot reports.  Cutting the series
  at a snapshot that both parts keep cuts the terms in two (`energy_additive`).
-/
import Mathlib.Algebra.BigOperators.Group.Finset.Basic
import SweatMeter.Window

namespace SweatMeter

open Py

variable {Z : Zones} (S : Sorter Z.lt)

/-- Snapshots in UTC, in chronological order. -/
structure Chronological (Z : Zones) (xs : List (TelemetrySnapshot ℚ)) : Prop where
  utc : ∀ x ∈ xs, Z.IsUtc x.timestamp
  ordered : xs.Pairwise fun a b => Z.instant a.timestamp ≤ Z.instant b.timestamp

/-- The power snapshot `a` reports for device `g`, over the time from `a` to `b`. -/
def rectangle (Z : Zones) (g : ℕ) (a b : TelemetrySnapshot ℚ) : Option ℚ :=
  if Z.instant a.timestamp < Z.instant b.timestamp then
    ((a.gpu g).bind fun x => x.measurement .powerWatts).map fun w =>
      w * (((Z.instant b.timestamp - Z.instant a.timestamp : ℤ) : ℚ) / 1000000)
  else none

/-- The rectangle between the snapshots at positions `i` and `i + 1`. -/
def leftRectangle (Z : Zones) (g : ℕ) (xs : List (TelemetrySnapshot ℚ)) (i : ℕ) : Option ℚ :=
  match xs[i]?, xs[i + 1]? with
  | some a, some b => rectangle Z g a b
  | _, _ => none

/-! ## The terms -/

variable {xs : List (TelemetrySnapshot ℚ)}

/-- A chronological series is not reordered. -/
theorem Chronological.samples (h : Chronological Z xs) :
    (TelemetryWindow.make S xs).samples = xs := by
  refine S.sorted_of_pairwise (Z.consistent_of_isUtc ?_) ?_
  · intro d hd
    obtain ⟨x, hx, rfl⟩ := List.mem_map.1 hd
    exact h.utc x hx
  · refine h.ordered.imp_of_mem fun {a b} ha hb hab => ?_
    rw [(h.utc b hb).lt_eq (h.utc a ha), decide_eq_false_iff_not]
    omega

theorem Chronological.sublist {ys : List (TelemetrySnapshot ℚ)} (h : Chronological Z xs)
    (hys : ys.Sublist xs) : Chronological Z ys :=
  ⟨fun x hx => h.utc x (hys.subset hx), h.ordered.sublist hys⟩

theorem energyTerm_eq {a b : TelemetrySnapshot ℚ} (g : ℕ) (ha : Z.IsUtc a.timestamp)
    (hb : Z.IsUtc b.timestamp) : TelemetryWindow.energyTerm Z g (a, b) = rectangle Z g a b := by
  simp only [TelemetryWindow.energyTerm, rectangle, hb.sub_eq ha]
  by_cases hlt : Z.instant a.timestamp < Z.instant b.timestamp
  · rw [if_neg (by omega), if_pos hlt]
  · rw [if_pos (by omega), if_neg hlt]

theorem Chronological.energyTerms_eq (h : Chronological Z xs) (g : ℕ) :
    (TelemetryWindow.make S xs).energyTerms Z g =
      (pairwise xs).filterMap fun p => rectangle Z g p.1 p.2 := by
  rw [TelemetryWindow.energyTerms, h.samples]
  refine List.filterMap_congr ?_
  intro p hp
  obtain ⟨h1, h2⟩ := mem_of_mem_pairwise hp
  exact energyTerm_eq g (h.utc _ h1) (h.utc _ h2)

/-- The neighbours of a series, by position. -/
theorem filterMap_pairwise (g : ℕ) (xs : List (TelemetrySnapshot ℚ)) :
    (pairwise xs).filterMap (fun p => rectangle Z g p.1 p.2) =
      (List.range (xs.length - 1)).filterMap (leftRectangle Z g xs) := by
  induction xs with
  | nil => rfl
  | cons a xs ih =>
    cases xs with
    | nil => rfl
    | cons b xs =>
      have hshift : leftRectangle Z g (a :: b :: xs) ∘ Nat.succ = leftRectangle Z g (b :: xs) :=
        funext fun i => by simp [leftRectangle]
      have hzero : leftRectangle Z g (a :: b :: xs) 0 = rectangle Z g a b := rfl
      have hlen : (a :: b :: xs).length - 1 = ((b :: xs).length - 1) + 1 := by simp
      rw [hlen, List.range_succ_eq_map, List.filterMap_cons, List.filterMap_map, hshift, hzero,
        ← ih]
      rfl

/-- A sum over the positions that yield something. -/
theorem sum_filterMap_range (f : ℕ → Option ℚ) (n : ℕ) :
    ((List.range n).filterMap f).sum = ∑ i ∈ Finset.range n, (f i).getD 0 := by
  induction n with
  | zero => rfl
  | succ n ih =>
    rw [List.range_succ, List.filterMap_append, List.sum_append, ih, Finset.sum_range_succ]
    congr 1
    cases h : f n <;> simp [h]

/-- The energy of a window, from its terms. -/
theorem energyJoules_append {W V U : TelemetryWindow ℚ} {g : ℕ}
    (h : W.energyTerms Z g = V.energyTerms Z g ++ U.energyTerms Z g) :
    W.energyJoules Z g = Option.merge (· + ·) (V.energyJoules Z g) (U.energyJoules Z g) := by
  simp only [TelemetryWindow.energyJoules, h, List.append_eq_nil_iff, List.sum_append]
  by_cases hV : V.energyTerms Z g = [] <;> by_cases hU : U.energyTerms Z g = [] <;>
    simp [hV, hU, Option.merge]

/-- **Energy is the left-rectangle sum, and it is additive.**  For snapshots in
    UTC and in chronological order, the energy is unsupported exactly if no
    interval of positive length starts with a power reading, and otherwise the
    sum of power times length over those that do.  The terms of the window are
    those of its first part followed by those of its second, and counts and
    energies add up, wherever it is cut at a snapshot that both parts keep. -/
theorem energy_additive (S : Sorter Z.lt) (h : Chronological Z xs) (g : ℕ) :
    (((TelemetryWindow.make S xs).energyJoules Z g = none ↔
        ∀ i < xs.length - 1, leftRectangle Z g xs i = none) ∧
      ((TelemetryWindow.make S xs).energyJoules Z g).getD 0 =
        ∑ i ∈ Finset.range (xs.length - 1), (leftRectangle Z g xs i).getD 0) ∧
    ∀ k < xs.length,
      (TelemetryWindow.make S xs).energyTerms Z g =
        (TelemetryWindow.make S (xs.take (k + 1))).energyTerms Z g ++
          (TelemetryWindow.make S (xs.drop k)).energyTerms Z g ∧
      (TelemetryWindow.make S xs).supportedSampleCount Z .energyJoules g =
        (TelemetryWindow.make S (xs.take (k + 1))).supportedSampleCount Z .energyJoules g +
          (TelemetryWindow.make S (xs.drop k)).supportedSampleCount Z .energyJoules g ∧
      (TelemetryWindow.make S xs).energyJoules Z g = Option.merge (· + ·)
        ((TelemetryWindow.make S (xs.take (k + 1))).energyJoules Z g)
        ((TelemetryWindow.make S (xs.drop k)).energyJoules Z g) := by
  have hterms := h.energyTerms_eq S g
  constructor
  · rw [filterMap_pairwise] at hterms
    rw [TelemetryWindow.energyJoules, hterms]
    constructor
    · simp only [ite_eq_left_iff, reduceCtorEq, imp_false, not_not, List.filterMap_eq_nil_iff,
        List.mem_range]
    · split_ifs with hnil
      · rw [← sum_filterMap_range, hnil]; rfl
      · exact sum_filterMap_range _ _
  · intro k hk
    have hcut : (TelemetryWindow.make S xs).energyTerms Z g =
        (TelemetryWindow.make S (xs.take (k + 1))).energyTerms Z g ++
          (TelemetryWindow.make S (xs.drop k)).energyTerms Z g := by
      have hxs : xs.take k ++ xs[k] :: xs.drop (k + 1) = xs := by
        rw [← List.drop_eq_getElem_cons hk, List.take_append_drop]
      rw [hterms, (h.sublist (List.take_sublist _ _)).energyTerms_eq S g,
        (h.sublist (List.drop_sublist _ _)).energyTerms_eq S g, ← List.filterMap_append,
        List.drop_eq_getElem_cons hk, List.take_succ_eq_append_getElem hk, ← pairwise_append_cons,
        hxs]
    refine ⟨hcut, ?_, energyJoules_append hcut⟩
    simp only [TelemetryWindow.supportedSampleCount, hcut, List.length_append]

/-- Every zone is UTC. -/
def utcZones : Zones where
  utcoffset _ _ _ := 0
  utc _ _ := rfl

/-- 100 W for two seconds, then nothing measured from an idle device. -/
def meteredSamples : List (TelemetrySnapshot ℚ) :=
  [(0, 100), (2000000, 0), (3000000, 50)].map fun p =>
    { timestamp := ⟨0, p.1, false⟩
      gpus := [{ index := 0, measurement := fun f => if f = .powerWatts then some p.2 else none }] }

/-- The measured zero of the second interval counts. -/
theorem energy_additive_metered :
    (TelemetryWindow.make (Sorter.insertion utcZones.lt) meteredSamples).energyJoules utcZones 0 =
        some 200 ∧
      (TelemetryWindow.make (Sorter.insertion utcZones.lt) (meteredSamples.drop 1)).energyJoules
        utcZones 0 = some 0 := by
  have h : Chronological utcZones meteredSamples := by
    constructor
    · intro x _; exact rfl
    · simp [meteredSamples, Zones.instant, utcZones]
  have hcut := ((energy_additive (Sorter.insertion utcZones.lt) h 0).2 1 (by decide)).2.2
  exact ⟨hcut.trans (by decide +kernel), by decide +kernel⟩

end SweatMeter
