/-
  Python numbers, ordinary exceptions and the values a duck-typed boundary may
  hand back.

  A float is a NaN, an infinity or a rational number (every double is one).
  Arithmetic here is exact, comparisons included; with rounding to doubles it is in
  `Py.Binary64`.  Integers are unbounded; where Python converts one to a double, an
  integer that rounds beyond the largest double raises `OverflowError`.
-/
import Mathlib.Data.Rat.Defs
import Mathlib.Algebra.Order.Ring.Rat
import SweatMeter.Py.Except

namespace Py

/-- An ordinary exception, by the name of its class. -/
structure Exn where
  name : String
  deriving DecidableEq

inductive Double where
  | nan
  | inf (neg : Bool)
  | finite (q : ℚ)
  deriving DecidableEq

/-- An `int` or a `float`. -/
inductive Number where
  | int (n : ℤ)
  | float (x : Double)
  deriving DecidableEq

/-- The least magnitude that does not round to a finite double. -/
@[irreducible] def doubleLimit : ℕ := 2 ^ 1024 - 2 ^ 970

namespace Number

/-- `math.isfinite`: an integer is converted to a double first. -/
def isfinite : Number → Except Exn Bool
  | int n => if doubleLimit ≤ n.natAbs then .error ⟨"OverflowError"⟩ else .ok true
  | float (.finite _) => .ok true
  | float _ => .ok false

/-- Division by a positive float. -/
def div : Number → ℚ → Number
  | int n, q => float (.finite (n / q))
  | float (.finite r), q => float (.finite (r / q))
  | x, _ => x

/-- The exact value of a finite number. -/
def toRat : Number → Option ℚ
  | int n => some n
  | float (.finite q) => some q
  | float _ => none

/-- `x < q`. -/
def ltRat : Number → ℚ → Bool
  | int n, q => (n : ℚ) < q
  | float (.finite r), q => r < q
  | float (.inf neg), _ => neg
  | float .nan, _ => false

/-- `x > q`. -/
def gtRat : Number → ℚ → Bool
  | int n, q => q < (n : ℚ)
  | float (.finite r), q => q < r
  | float (.inf neg), _ => !neg
  | float .nan, _ => false

theorem toRat_of_isfinite {x : Number} (h : x.isfinite = .ok true) : ∃ q, x.toRat = some q := by
  cases x with
  | int n => exact ⟨n, rfl⟩
  | float d => cases d with
    | finite q => exact ⟨q, rfl⟩
    | nan => cases h
    | inf neg => cases h

theorem ltRat_eq {x : Number} {r : ℚ} (h : x.toRat = some r) (q : ℚ) : x.ltRat q = decide (r < q) := by
  cases x with
  | int n => cases h; rfl
  | float d => cases d <;> cases h; rfl

theorem gtRat_eq {x : Number} {r : ℚ} (h : x.toRat = some r) (q : ℚ) : x.gtRat q = decide (q < r) := by
  cases x with
  | int n => cases h; rfl
  | float d => cases d <;> cases h; rfl

end Number

/-- A value of unknown type, as far as the checks on it can tell values apart. -/
inductive Obj where
  /-- the `UNSUPPORTED` sentinel -/
  | unsupported
  | none
  | bool (b : Bool)
  | num (x : Number)
  | str (s : String)
  /-- by what it decodes to, with replacement characters -/
  | bytes (decoded : String)
  | other
  deriving DecidableEq

/-- The value fits where `isfinite` converts it to a double. -/
def Fits : Obj → Prop
  | .num (.int n) => n.natAbs < doubleLimit
  | _ => True

theorem returns_isfinite {x : Number} : Returns x.isfinite ↔ Fits (.num x) := by
  cases x with
  | int n =>
    simp only [Number.isfinite, Fits]
    split
    · exact iff_of_false (not_returns_error _) (by omega)
    · exact iff_of_true (returns_ok _) (by omega)
  | float d => cases d <;> exact iff_of_true (returns_ok _) trivial

end Py
