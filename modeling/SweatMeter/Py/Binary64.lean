/-
  Arithmetic of Python's numbers in doubles.

  The result of an operation is the double nearest to the exact one, of two the
  one with the even last place, and an infinity beyond the largest double.
  Comparisons are exact, also between an integer and a double.
-/
import Mathlib.Algebra.Order.Field.Power
import Mathlib.Data.Int.Log
import Mathlib.Data.Rat.Floor
import Mathlib.Tactic.FieldSimp
import Mathlib.Tactic.Linarith
import Mathlib.Tactic.NormNum
import SweatMeter.Py.Number

namespace Py

/-! ## Rounding -/

/-- The nearest integer, and between two of them the even one. -/
def roundHalfEven (q : ℚ) : ℤ :=
  if q - ⌊q⌋ < 1 / 2 ∨ (q - ⌊q⌋ = 1 / 2 ∧ ⌊q⌋ % 2 = 0) then ⌊q⌋ else ⌊q⌋ + 1

/-- The last place of the doubles around `q`. -/
def ulp (q : ℚ) : ℚ := 2 ^ max (Int.log 2 |q| - 52) (-1074)

/-- The nearest number with that last place. -/
def rounded (q : ℚ) : ℚ := roundHalfEven (q / ulp q) * ulp q

/-- The nearest double. -/
def nearest (q : ℚ) : Double :=
  if 2 ^ 1024 ≤ |rounded q| then .inf (q < 0) else .finite (rounded q)

namespace Double

/-- `x <= y`. -/
def le : Double → Double → Bool
  | finite q, finite r => q ≤ r
  | inf true, finite _ | finite _, inf false | inf true, inf _ | inf false, inf false => true
  | _, _ => false

/-- `x < y`. -/
def lt : Double → Double → Bool
  | finite q, finite r => q < r
  | inf true, finite _ | finite _, inf false | inf true, inf false => true
  | _, _ => false

/-- `max(x, y)`. -/
def max (x y : Double) : Double := if x.lt y then y else x

/-- The sum, without rounding. -/
def add : Double → Double → Double
  | finite q, finite r => finite (q + r)
  | inf neg, finite _ | finite _, inf neg => inf neg
  | inf neg, inf neg' => if neg = neg' then inf neg else nan
  | _, _ => nan

/-- `sum` of a sequence, without rounding. -/
def sum (xs : List Double) : Double := xs.foldr add (finite 0)

/-- The product with a positive rational, without rounding. -/
def scaled : Double → ℚ → Double
  | finite r, q => finite (r * q)
  | x, _ => x

/-- The quotient by a positive number, without rounding. -/
def quotient : Double → Double → Double
  | finite q, finite r => finite (q / r)
  | finite _, inf _ => finite 0
  | inf neg, finite _ => inf neg
  | _, _ => nan

/-- The double nearest to an exact result. -/
def round : Double → Double
  | finite q => nearest q
  | x => x

@[simp] theorem max_finite (q r : ℚ) : max (finite q) (finite r) = finite (q ⊔ r) := by
  by_cases h : q < r
  · simp [max, lt, h, h.le]
  · simp [max, lt, h, not_lt.1 h]

@[simp] theorem max_nan (x : Double) : max x nan = x := by
  rcases x with _ | (_ | _) | q <;> rfl

@[simp] theorem nan_max (x : Double) : max nan x = nan := rfl

@[simp] theorem max_top {x : Double} (h : x ≠ nan) : max x (inf false) = inf false := by
  rcases x with _ | (_ | _) | q <;> simp [max, lt] at h ⊢

@[simp] theorem top_max (x : Double) : max (inf false) x = inf false := by
  rcases x with _ | (_ | _) | q <;> rfl

@[simp] theorem max_bot (x : Double) : max x (inf true) = x := by
  rcases x with _ | (_ | _) | q <;> rfl

@[simp] theorem bot_max {x : Double} (h : x ≠ nan) : max (inf true) x = x := by
  rcases x with _ | (_ | _) | q <;> simp [max, lt] at h ⊢

/-- A NaN stays where it comes first, and is ignored anywhere else. -/
theorem max_right_comm (z x y : Double) : max (max z x) y = max (max z y) x := by
  rcases z with _ | (_ | _) | s <;> rcases x with _ | (_ | _) | q <;>
    rcases y with _ | (_ | _) | r <;> simp
  · exact sup_comm _ _
  · exact sup_right_comm _ _ _

theorem add_left_comm (x y z : Double) : add x (add y z) = add y (add x z) := by
  rcases x with _ | (_ | _) | q <;> rcases y with _ | (_ | _) | r <;>
    rcases z with _ | (_ | _) | s <;> simp [add]
  ring

theorem sum_finite (qs : List ℚ) : sum (qs.map finite) = finite qs.sum := by
  rw [sum, List.foldr_map]
  exact List.foldr_hom finite fun _ _ => rfl

theorem sum_perm {xs ys : List Double} (h : xs.Perm ys) : sum xs = sum ys :=
  h.foldr_eq' (fun x _ y _ z => add_left_comm y x z) _

theorem lt_self (x : Double) : x.lt x = false := by
  cases x with
  | nan => rfl
  | inf neg => cases neg <;> rfl
  | finite q => simp [lt]

theorem le_of_le_of_lt {x y z : Double} (hxy : x.le y = true) (hyz : y.lt z = true) :
    x.le z = true := by
  rcases x with _ | (_ | _) | q <;> rcases y with _ | (_ | _) | r <;>
    rcases z with _ | (_ | _) | s <;> simp_all [le, lt]
  exact hxy.trans hyz.le

end Double

namespace Number

/-- The value of a number, which an integer need not have as a double. -/
def exact : Number → Double
  | int n => .finite n
  | float x => x

/-- `x < y`. -/
def lt (x y : Number) : Bool := x.exact.lt y.exact

/-- `max(x, y)`. -/
def max (x y : Number) : Number := if x.lt y then y else x

/-- `max` of a sequence. -/
def maximum : List Number → Option Number
  | [] => none
  | x :: xs => some (xs.foldl max x)

/-- `float(x)`. -/
def toDouble : Number → Except Exn Double
  | int n => if doubleLimit ≤ n.natAbs then .error ⟨"OverflowError"⟩ else .ok (nearest n)
  | float x => .ok x

/-- The product with a positive double. -/
def times (x : Number) (q : ℚ) : Except Exn Double := return ((← x.toDouble).scaled q).round

/-- The quotient by a positive number; that of two integers is rounded once. -/
def truediv : Number → Number → Except Exn Double
  | int n, int m => match nearest (n / m) with
    | .inf _ => .error ⟨"OverflowError"⟩
    | x => .ok x
  | x, y => return ((← x.toDouble).quotient (← y.toDouble)).round

theorem exact_eq_nan {c : Option Number} : c.map exact = some .nan ↔ c = some (.float .nan) := by
  rcases c with _ | n | x <;> simp [exact]

@[simp] theorem exact_max (x y : Number) : (x.max y).exact = x.exact.max y.exact := by
  unfold max Double.max lt
  split <;> rfl

/-- A NaN that comes first is the maximum, and any other is ignored. -/
theorem exact_maximum (c : Number) (cs : List Number) : (maximum (c :: cs)).map exact =
    some (if c.exact = .nan then .nan else ((c :: cs).map exact).foldl Double.max (.inf true)) := by
  have hfold : (cs.foldl max c).exact = (cs.map exact).foldl Double.max c.exact := by
    rw [List.foldl_map]
    refine (List.foldl_hom exact ?_).symm
    exact fun x y => (exact_max x y).symm
  rw [maximum, Option.map_some, hfold]
  split_ifs with hnan
  · rw [hnan, List.foldl_fixed' Double.nan_max]
  · rw [List.map_cons, List.foldl_cons, Double.bot_max hnan]

/-- The maximum depends on the order only as far as a NaN comes first. -/
theorem maximum_perm {xs ys : List Number} (h : xs.Perm ys)
    (hhead : xs.head?.map exact = some .nan ↔ ys.head?.map exact = some .nan) :
    (maximum xs).map exact = (maximum ys).map exact := by
  cases xs with
  | nil => rw [List.nil_perm.1 h]
  | cons x xs =>
    cases ys with
    | nil => exact absurd h (List.cons_ne_nil _ _ ∘ List.perm_nil.1)
    | cons y ys =>
      simp only [List.head?_cons, Option.map_some, Option.some.injEq] at hhead
      rw [exact_maximum, exact_maximum]
      by_cases hnan : x.exact = .nan
      · rw [if_pos hnan, if_pos (hhead.1 hnan)]
      · rw [if_neg hnan, if_neg (hhead.not.1 hnan), (h.map exact).foldl_eq'
          fun x _ y _ z => Double.max_right_comm z x y]

end Number

/-! ## Bounds on what is rounded -/

section
variable {q : ℚ} {k : ℤ}

/-- Rounding to an integer does not fall below one that is closer from below. -/
theorem le_roundHalfEven (h : (k : ℚ) - 1 / 2 < q) : k ≤ roundHalfEven q := by
  have hfloor := Int.sub_one_lt_floor q
  unfold roundHalfEven
  split_ifs with hround
  · have hlt : (k : ℚ) < ⌊q⌋ + 1 := by
      rcases hround with hlow | ⟨hhalf, -⟩ <;> linarith
    have : k < ⌊q⌋ + 1 := by exact_mod_cast hlt
    omega
  · have hlt : (k : ℚ) < ⌊q⌋ + 1 + 1 := by
      have := Int.lt_floor_add_one q
      linarith
    have : k < ⌊q⌋ + 1 + 1 := by exact_mod_cast hlt
    omega

/-- Nor does it go beyond one that is closer from above. -/
theorem roundHalfEven_le (h : q < k + 1 / 2) : roundHalfEven q ≤ k := by
  have hfloor := Int.floor_le q
  unfold roundHalfEven
  split_ifs with hround
  · have hlt : (⌊q⌋ : ℚ) < k + 1 := by linarith
    have : ⌊q⌋ < k + 1 := by exact_mod_cast hlt
    omega
  · push Not at hround
    have hhalf : 1 / 2 ≤ q - ⌊q⌋ := hround.1
    have hlt : (⌊q⌋ : ℚ) < k := by linarith
    have : ⌊q⌋ < k := by exact_mod_cast hlt
    omega

theorem ulp_pos (q : ℚ) : 0 < ulp q := zpow_pos (by norm_num) _

/-- A number has at most 53 places. -/
theorem abs_lt_ulp (q : ℚ) : |q| < 2 ^ 53 * ulp q := by
  have hlog : |q| < (2 : ℚ) ^ (Int.log 2 |q| + 1) :=
    mod_cast Int.lt_zpow_succ_log_self Nat.one_lt_two |q|
  have hsplit : (2 : ℚ) ^ 53 * ulp q = 2 ^ (53 + max (Int.log 2 |q| - 52) (-1074)) := by
    rw [zpow_add₀ (by norm_num), ulp]
    norm_cast
  rw [hsplit]
  exact hlog.trans_le (zpow_le_zpow_right₀ (by norm_num) (by omega))

/-- What has no places beyond those of a number is a multiple of its last place. -/
theorem exists_multiple {n : ℤ} (a : ℤ) (hn : -1074 ≤ n) (hq : q ≠ 0) (h : |q| < 2 ^ (n + 53)) :
    ∃ k : ℤ, (a : ℚ) * 2 ^ n = k * ulp q := by
  have hlog : Int.log 2 |q| < n + 53 :=
    (Int.lt_zpow_iff_log_lt Nat.one_lt_two (abs_pos.2 hq)).1 (mod_cast h)
  obtain ⟨k, hk⟩ := Int.eq_ofNat_of_zero_le
    (a := n - max (Int.log 2 |q| - 52) (-1074)) (by omega)
  have hpower : (2 : ℚ) ^ n = 2 ^ k * ulp q := by
    rw [ulp, ← zpow_natCast, ← zpow_add₀ (by norm_num)]
    congr 1
    omega
  refine ⟨a * 2 ^ k, ?_⟩
  rw [hpower]
  push_cast
  ring

/-- Rounding does not fall below a multiple that is less than half a place above. -/
theorem le_rounded {n a : ℤ} (hn : -1074 ≤ n) (hq : q ≠ 0) (hlt : |q| < 2 ^ (n + 53))
    (h : a * 2 ^ n - q < ulp q / 2) : a * 2 ^ n ≤ rounded q := by
  have hulp := ulp_pos q
  obtain ⟨k, hk⟩ := exists_multiple a hn hq hlt
  rw [hk] at h ⊢
  refine mul_le_mul_of_nonneg_right ?_ hulp.le
  have hclose : (k : ℚ) - 1 / 2 < q / ulp q := by
    rw [lt_div_iff₀ hulp]
    linarith
  exact_mod_cast le_roundHalfEven hclose

/-- Nor does it go beyond one that is less than half a place below. -/
theorem rounded_le {n a : ℤ} (hn : -1074 ≤ n) (hq : q ≠ 0) (hlt : |q| < 2 ^ (n + 53))
    (h : q - a * 2 ^ n < ulp q / 2) : rounded q ≤ a * 2 ^ n := by
  have hulp := ulp_pos q
  obtain ⟨k, hk⟩ := exists_multiple a hn hq hlt
  rw [hk] at h ⊢
  refine mul_le_mul_of_nonneg_right ?_ hulp.le
  have hclose : q / ulp q < (k : ℚ) + 1 / 2 := by
    rw [div_lt_iff₀ hulp]
    linarith
  exact_mod_cast roundHalfEven_le hclose

theorem rounded_zero : rounded 0 = 0 := by
  rw [rounded, zero_div]
  simp [roundHalfEven]

/-- An integer of 53 places is a double. -/
theorem rounded_intCast {m : ℤ} (h : |m| < 2 ^ 53) : rounded m = m := by
  rcases eq_or_ne m 0 with rfl | hm
  · exact_mod_cast rounded_zero
  · have hq : (m : ℚ) ≠ 0 := by exact_mod_cast hm
    have hlt : |(m : ℚ)| < 2 ^ ((0 : ℤ) + 53) := by exact_mod_cast h
    have hulp := ulp_pos (m : ℚ)
    have hle := le_rounded (a := m) (by norm_num) hq hlt (by simpa using hulp)
    have hge := rounded_le (a := m) (by norm_num) hq hlt (by simpa using hulp)
    rw [zpow_zero, mul_one] at hle hge
    exact le_antisymm hge hle

/-- What is not large does not overflow. -/
theorem nearest_eq (h : |q| < 2 ^ 53) : nearest q = .finite (rounded q) := by
  rcases eq_or_ne q 0 with rfl | hq
  · rw [nearest, rounded_zero, if_neg (by norm_num)]
  · obtain ⟨hlow, hhigh⟩ := abs_lt.1 h
    have hulp := ulp_pos q
    have hlt : |q| < 2 ^ ((0 : ℤ) + 53) := by exact_mod_cast h
    have hle := rounded_le (a := 2 ^ 53) (by norm_num) hq hlt (by push_cast; linarith)
    have hge := le_rounded (a := -2 ^ 53) (by norm_num) hq hlt (by push_cast; linarith)
    rw [zpow_zero, mul_one] at hle hge
    push_cast at hle hge
    have habs : |rounded q| ≤ 2 ^ 53 := abs_le.2 ⟨hge, hle⟩
    have hlarge : (2 : ℚ) ^ 53 < 2 ^ 1024 := pow_lt_pow_right₀ (by norm_num) (by norm_num)
    exact if_neg (not_le.2 (habs.trans_lt hlarge))

end

/-! ## Numbers that are doubles -/

namespace Number

/-- The number is a double with this value. -/
structure IsDouble (x : Number) (q : ℚ) : Prop where
  toRat : x.toRat = some q
  toDouble : x.toDouble = .ok (.finite q)

variable {x y : Number} {q r : ℚ}

theorem isDouble_float (q : ℚ) : (float (.finite q)).IsDouble q := ⟨rfl, rfl⟩

theorem isDouble_int {n : ℤ} (h : |n| < 2 ^ 53) : (int n).IsDouble n := by
  have hlimit : 2 ^ 53 < doubleLimit := by decide +kernel
  have hq : |(n : ℚ)| < 2 ^ 53 := by exact_mod_cast h
  obtain ⟨hlow, hhigh⟩ := abs_lt.1 h
  refine ⟨rfl, ?_⟩
  rw [toDouble, if_neg (by omega), nearest_eq hq, rounded_intCast h]

theorem IsDouble.exact (h : x.IsDouble q) : x.exact = .finite q := by
  have hvalue := h.toRat
  rcases x with n | _ | _ | r <;> cases hvalue <;> rfl

theorem IsDouble.max (hx : x.IsDouble q) (hy : y.IsDouble r) : (x.max y).IsDouble (q ⊔ r) := by
  have hlt : x.lt y = decide (q < r) := by
    rw [lt, hx.exact, hy.exact]
    rfl
  rw [Number.max, hlt]
  by_cases h : q < r
  · rw [if_pos (decide_eq_true h), sup_eq_right.2 h.le]
    exact hy
  · rw [if_neg (by simp [h]), sup_eq_left.2 (not_lt.1 h)]
    exact hx

/-- The product with a double, where it does not overflow. -/
theorem IsDouble.times (h : x.IsDouble q) (hlt : |q * r| < 2 ^ 53) :
    x.times r = .ok (.finite (rounded (q * r))) := by
  rw [Number.times, h.toDouble, ← nearest_eq hlt]
  rfl

theorem IsDouble.truediv (hx : x.IsDouble q) (hy : y.IsDouble r) (hlt : |q / r| < 2 ^ 53) :
    x.truediv y = .ok (.finite (rounded (q / r))) := by
  have hround : (Double.quotient (.finite q) (.finite r)).round = .finite (rounded (q / r)) :=
    nearest_eq hlt
  unfold Number.truediv
  split
  · rename_i n m
    cases hx.toRat
    cases hy.toRat
    rw [nearest_eq hlt]
  · rw [hx.toDouble, hy.toDouble, ← hround]
    rfl

theorem map_exact_of_doubles {xs : List Number} {qs : List ℚ} (h : List.Forall₂ IsDouble xs qs) :
    xs.map Number.exact = qs.map .finite := by
  induction h with
  | nil => rfl
  | cons hx _ ih => rw [List.map_cons, List.map_cons, hx.exact, ih]

/-- The maximum of doubles is that of their values. -/
theorem maximum_of_doubles {xs : List Number} {qs : List ℚ} (h : List.Forall₂ IsDouble xs qs) :
    (maximum xs).map Number.exact = qs.max?.map .finite := by
  cases h with
  | nil => rfl
  | @cons x q xs qs hx h =>
    rw [exact_maximum, if_neg (by simp [hx.exact]), List.map_cons, List.foldl_cons,
      Double.bot_max (by simp [hx.exact]), hx.exact, map_exact_of_doubles h, List.foldl_map,
      List.max?_cons', Option.map_some]
    refine congrArg some (List.foldl_hom Double.finite ?_)
    exact fun r s => Double.max_finite r s

end Number

end Py
