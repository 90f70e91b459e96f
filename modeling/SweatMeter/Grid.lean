/-
  Grids: the points at whole multiples of a step from an origin.

  The least point after a point `x` of the grid is `x + s`
  (`isLeast_add_step`), and the least one after any `y ≥ x` is reached from `x`
  by rounding down the number of steps in between (`isLeast_catch_up`).  Points
  that lie in different cells of the grid are few in any period (`length_mul_lt`).
-/
import Mathlib.Algebra.Order.Floor.Ring
import Mathlib.Order.Bounds.Basic
import Mathlib.Tactic.Linarith
import Mathlib.Tactic.Ring

variable {α : Type*}

/-- The points `o + k * s`. -/
def Grid [Ring α] (o s : α) : Set α := {x | ∃ k : ℤ, x = o + k * s}

namespace Grid

section
variable [CommRing α] {o s x : α}

theorem add_mul_mem (hx : x ∈ Grid o s) (m : ℤ) : x + m * s ∈ Grid o s := by
  rcases hx with ⟨k, rfl⟩
  refine ⟨k + m, ?_⟩
  push_cast
  ring

theorem add_step_mem (hx : x ∈ Grid o s) : x + s ∈ Grid o s := by
  simpa using add_mul_mem hx 1

end

variable [Field α] [LinearOrder α] [IsStrictOrderedRing α] {o s x y : α}

/-- The least point of the grid after one of its points. -/
theorem isLeast_add_step (hs : 0 < s) (hx : x ∈ Grid o s) :
    IsLeast {g ∈ Grid o s | x < g} (x + s) := by
  refine ⟨⟨add_step_mem hx, by linarith⟩, ?_⟩
  rintro g ⟨⟨j, rfl⟩, hlt⟩
  rcases hx with ⟨k, rfl⟩
  have hkj : (k : α) < j := lt_of_mul_lt_mul_right (by linarith) hs.le
  have hle : ((k + 1 : ℤ) : α) ≤ j := Int.cast_le.2 (Int.add_one_le_iff.2 (Int.cast_lt.1 hkj))
  have hmul := mul_le_mul_of_nonneg_right hle hs.le
  push_cast at hmul
  linarith

/-- The points of an increasing list have increasing indices. -/
theorem indices_iff (hs : 0 < s) {l : List α} :
    (∃ ks : List ℤ, ks.Pairwise (· < ·) ∧ l = ks.map fun k : ℤ => o + k * s) ↔
      (∀ x ∈ l, x ∈ Grid o s) ∧ l.Pairwise (· < ·) := by
  constructor
  · rintro ⟨ks, hks, rfl⟩
    constructor
    · intro x hx
      rcases List.mem_map.1 hx with ⟨k, -, rfl⟩
      exact ⟨k, rfl⟩
    · refine List.pairwise_map.2 (hks.imp ?_)
      intro j k hlt
      have hmul := mul_lt_mul_of_pos_right (Int.cast_lt (R := α).2 hlt) hs
      linarith
  · rintro ⟨hgrid, hlt⟩
    induction l with
    | nil => exact ⟨[], .nil, rfl⟩
    | cons x l ih =>
      rcases List.pairwise_cons.1 hlt with ⟨hx, hl⟩
      rcases ih (fun y hy => hgrid y (List.mem_cons_of_mem _ hy)) hl with ⟨ks, hks, rfl⟩
      rcases hgrid x List.mem_cons_self with ⟨k, rfl⟩
      refine ⟨k :: ks, List.pairwise_cons.2 ⟨?_, hks⟩, rfl⟩
      intro j hj
      have hlt := hx _ (List.mem_map_of_mem hj)
      exact Int.cast_lt.1 (lt_of_mul_lt_mul_right (by linarith : (k : α) * s < j * s) hs.le)

variable [FloorRing α]

/-- The least point of the grid after `y`, from a point before it. -/
theorem isLeast_catch_up (hs : 0 < s) (hx : x ∈ Grid o s) (y : α) :
    IsLeast {g ∈ Grid o s | y < g} (x + ((⌊(y - x) / s⌋ + 1 : ℤ) : α) * s) := by
  refine ⟨⟨add_mul_mem hx _, ?_⟩, ?_⟩
  · have hfloor := (div_lt_iff₀ hs).1 (Int.lt_floor_add_one ((y - x) / s))
    push_cast
    linarith
  · rintro g ⟨⟨j, rfl⟩, hlt⟩
    rcases hx with ⟨k, rfl⟩
    have hdiv : (y - (o + k * s)) / s < ((j - k : ℤ) : α) := by
      rw [div_lt_iff₀ hs]
      push_cast
      linarith
    have hle : ((⌊(y - (o + k * s)) / s⌋ + 1 : ℤ) : α) ≤ ((j - k : ℤ) : α) :=
      Int.cast_le.2 (Int.add_one_le_iff.2 (Int.floor_lt.2 hdiv))
    have hmul := mul_le_mul_of_nonneg_right hle hs.le
    push_cast at hmul ⊢
    linarith

/-- The point reached is at most one step after `y`. -/
theorem catch_up_le (hs : 0 < s) : x + ((⌊(y - x) / s⌋ + 1 : ℤ) : α) * s ≤ y + s := by
  have hfloor := (le_div_iff₀ hs).1 (Int.floor_le ((y - x) / s))
  push_cast
  linarith

/-- Points with a point of the grid between them lie in different cells. -/
theorem floor_lt_floor (hs : 0 < s) {a b : α} (hx : x ∈ Grid o s) (ha : a < x) (hb : x ≤ b) :
    ⌊(a - o) / s⌋ < ⌊(b - o) / s⌋ := by
  rcases hx with ⟨k, rfl⟩
  have hlt : (a - o) / s < k := (div_lt_iff₀ hs).2 (by linarith)
  have hle : (k : α) ≤ (b - o) / s := (le_div_iff₀ hs).2 (by linarith)
  exact (Int.floor_lt.2 hlt).trans_le (Int.le_floor.2 hle)

/-! ## Counting points by their cells -/

/-- Increasing integers are as far apart as their positions. -/
theorem length_le_of_increasing {l : List ℤ} (h : l.Pairwise (· < ·)) {x y : ℤ}
    (hx : ∀ k ∈ l, x ≤ k) (hy : ∀ k ∈ l, k ≤ y) (hne : l ≠ []) : (l.length : ℤ) ≤ y - x + 1 := by
  induction l generalizing x with
  | nil => exact absurd rfl hne
  | cons k l ih =>
    obtain ⟨hk, hl⟩ := List.pairwise_cons.1 h
    have hxk := hx k List.mem_cons_self
    have hky := hy k List.mem_cons_self
    rw [List.length_cons]
    cases l with
    | nil => simp; omega
    | cons j l =>
      have hrest := ih hl (x := k + 1) (fun i hi => hk i hi)
        (fun i hi => hy i (List.mem_cons_of_mem k hi)) (by simp)
      push_cast at hrest ⊢
      omega

/-- Points of a period that lie in different cells are fewer than its cells and two more. -/
theorem length_mul_lt (hs : 0 < s) {a b : α} {l : List α}
    (hl : (l.map fun x => ⌊(x - o) / s⌋).Pairwise (· < ·)) (hab : a ≤ b) (ha : ∀ x ∈ l, a ≤ x)
    (hb : ∀ x ∈ l, x ≤ b) : (l.length : α) * s < b - a + 2 * s := by
  by_cases hnil : l = []
  · subst hnil
    simp only [List.length_nil, Nat.cast_zero, zero_mul]
    linarith
  · have hmono {x y : α} (hxy : x ≤ y) : ⌊(x - o) / s⌋ ≤ ⌊(y - o) / s⌋ :=
      Int.floor_le_floor (div_le_div_of_nonneg_right (by linarith) hs.le)
    have hlen := length_le_of_increasing hl (x := ⌊(a - o) / s⌋) (y := ⌊(b - o) / s⌋)
      (List.forall_mem_map.2 fun x hx => hmono (ha x hx))
      (List.forall_mem_map.2 fun x hx => hmono (hb x hx)) (by simpa using hnil)
    rw [List.length_map] at hlen
    have hlower : (⌊(b - o) / s⌋ : α) * s ≤ b - o := (le_div_iff₀ hs).1 (Int.floor_le _)
    have hupper : a - o < (⌊(a - o) / s⌋ + 1 : α) * s := (div_lt_iff₀ hs).1 (Int.lt_floor_add_one _)
    have hcast : ((l.length : ℤ) : α) ≤ ((⌊(b - o) / s⌋ - ⌊(a - o) / s⌋ + 1 : ℤ) : α) :=
      Int.cast_le.2 hlen
    push_cast at hcast
    have hmul := mul_le_mul_of_nonneg_right hcast hs.le
    linarith

end Grid
