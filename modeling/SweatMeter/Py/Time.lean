/-
  Timezone-aware Python datetimes.

  A datetime is a wall-clock reading with a `fold` flag and a `tzinfo` object;
  objects are told apart by identity, here a number.  Two datetimes that share
  their `tzinfo` are compared and subtracted by wall clock, otherwise by the
  instants they denote.
-/
import Mathlib.Data.Int.Basic
import Mathlib.Order.Defs.LinearOrder
import Mathlib.Tactic.SplitIfs
import SweatMeter.Py.Sort

namespace Py

/-- An aware datetime; the wall clock counts microseconds. -/
structure Datetime where
  tzinfo : ℕ
  wall : ℤ
  fold : Bool
  deriving DecidableEq

/-- What every `tzinfo` object answers for `utcoffset`, in microseconds.
    Object `0` is `datetime.UTC`. -/
structure Zones where
  utcoffset : ℕ → ℤ → Bool → ℤ
  utc : ∀ wall fold, utcoffset 0 wall fold = 0

namespace Zones

variable (Z : Zones)

/-- The instant a datetime denotes. -/
def instant (d : Datetime) : ℤ := d.wall - Z.utcoffset d.tzinfo d.wall d.fold

/-- `a < b`. -/
def lt (a b : Datetime) : Bool :=
  if a.tzinfo = b.tzinfo then a.wall < b.wall else Z.instant a < Z.instant b

/-- `a - b`. -/
def sub (a b : Datetime) : ℤ :=
  if a.tzinfo = b.tzinfo then a.wall - b.wall else Z.instant a - Z.instant b

/-- The same instant expressed in UTC. -/
def toUtc (d : Datetime) : Datetime := ⟨0, Z.instant d, false⟩

@[simp] theorem instant_toUtc (d : Datetime) : Z.instant (Z.toUtc d) = Z.instant d := by
  simp [instant, toUtc, Z.utc]

@[simp] theorem lt_toUtc (a b : Datetime) :
    Z.lt (Z.toUtc a) (Z.toUtc b) = decide (Z.instant a < Z.instant b) :=
  if_pos rfl

@[simp] theorem sub_toUtc (a b : Datetime) :
    Z.sub (Z.toUtc a) (Z.toUtc b) = Z.instant a - Z.instant b := by
  simp [sub, toUtc]

/-- `<` is consistent on datetimes expressed in UTC. -/
theorem consistent_toUtc (ts : List Datetime) : Consistent Z.lt (ts.map Z.toUtc) where
  asymm := by
    intro a ha b hb h
    obtain ⟨x, -, rfl⟩ := List.mem_map.1 ha
    obtain ⟨y, -, rfl⟩ := List.mem_map.1 hb
    simp only [lt_toUtc, decide_eq_true_eq, decide_eq_false_iff_not] at h ⊢; omega
  trans := by
    intro a ha b hb c hc h1 h2
    obtain ⟨x, -, rfl⟩ := List.mem_map.1 ha
    obtain ⟨y, -, rfl⟩ := List.mem_map.1 hb
    obtain ⟨z, -, rfl⟩ := List.mem_map.1 hc
    simp only [lt_toUtc, decide_eq_false_iff_not] at h1 h2 ⊢; omega

/-- The positions of `ts`, stably sorted by instant. -/
def instantOrder (ts : List Datetime) : List ℕ :=
  stableOrder (fun x y : ℤ => x < y) (ts.map Z.instant)

/-- Datetimes expressed in UTC are sorted by instant. -/
theorem order_toUtc (S : Sorter Z.lt) (ts : List Datetime) :
    S.order (ts.map Z.toUtc) = Z.instantOrder ts := by
  rw [S.stable _ (Z.consistent_toUtc ts), instantOrder,
    stableOrder_map Z.lt_toUtc,
    stableOrder_map fun a b => (rfl : _ = decide (Z.instant a < Z.instant b))]

/-! ## Offset zero -/

/-- The datetime has offset zero. -/
def IsUtc (d : Datetime) : Prop := Z.utcoffset d.tzinfo d.wall d.fold = 0

variable {Z}

theorem IsUtc.instant_eq {d : Datetime} (h : Z.IsUtc d) : Z.instant d = d.wall := by
  rw [instant, show Z.utcoffset d.tzinfo d.wall d.fold = 0 from h, Int.sub_zero]

theorem IsUtc.lt_eq {a b : Datetime} (ha : Z.IsUtc a) (hb : Z.IsUtc b) :
    Z.lt a b = decide (Z.instant a < Z.instant b) := by
  unfold lt
  split_ifs
  · rw [ha.instant_eq, hb.instant_eq]
  · rfl

theorem IsUtc.sub_eq {a b : Datetime} (ha : Z.IsUtc a) (hb : Z.IsUtc b) :
    Z.sub a b = Z.instant a - Z.instant b := by
  unfold sub
  split_ifs
  · rw [ha.instant_eq, hb.instant_eq]
  · rfl

variable (Z)

/-- `<` is consistent on datetimes of offset zero, whatever their `tzinfo`. -/
theorem consistent_of_isUtc {ts : List Datetime} (h : ∀ d ∈ ts, Z.IsUtc d) :
    Consistent Z.lt ts where
  asymm := by
    intro a ha b hb hab
    rw [(h a ha).lt_eq (h b hb), decide_eq_true_eq] at hab
    rw [(h b hb).lt_eq (h a ha), decide_eq_false_iff_not]
    omega
  trans := by
    intro a ha b hb c hc hba hcb
    rw [(h b hb).lt_eq (h a ha), decide_eq_false_iff_not] at hba
    rw [(h c hc).lt_eq (h b hb), decide_eq_false_iff_not] at hcb
    rw [(h c hc).lt_eq (h a ha), decide_eq_false_iff_not]
    omega

end Zones

end Py
