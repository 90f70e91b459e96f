/-
  Meters: readers of cumulative counters, which report on the interval since the last
  sample they could take.

  A sample that cannot be taken leaves the baseline, every other one replaces it; so
  the intervals of a run meet end to end (`before_eq`), and what a meter reports of
  them adds up to the difference of the last and the first sample, whatever samples
  are missing in between (`total_eq_sub`).
-/
import Mathlib.Algebra.Group.Basic
import Mathlib.Data.List.Chain
import Mathlib.Data.List.ReduceOption

namespace Meter

/-- One call: the baseline before it, the sample it took, and its result. -/
structure Event (S R : Type*) where
  before : Option S
  sample : Option S
  result : R

variable {S R M : Type*}

/-- The baseline after the call. -/
def Event.after (e : Event S R) : Option S := e.sample.or e.before

/-- The calls of a meter, from this baseline. -/
def log (result : Option S → Option S → R) (before : Option S) : List (Option S) → List (Event S R)
  | [] => []
  | sample :: samples =>
    ⟨before, sample, result before sample⟩ :: log result (sample.or before) samples

/-- The sum of what the calls contribute. -/
def total [Add M] [Zero M] (contribution : Event S R → M) : List (Event S R) → M
  | [] => 0
  | e :: es => contribution e + total contribution es

variable {result : Option S → Option S → R} {before : Option S} {samples : List (Option S)}

theorem map_sample_log (result : Option S → Option S → R) (before : Option S)
    (samples : List (Option S)) : (log result before samples).map Event.sample = samples := by
  induction samples generalizing before with
  | nil => rfl
  | cons sample samples ih => rw [log, List.map_cons, ih]

theorem result_of_mem {e : Event S R} (h : e ∈ log result before samples) :
    e.result = result e.before e.sample := by
  induction samples generalizing before with
  | nil => cases h
  | cons sample samples ih =>
    rcases List.mem_cons.1 h with rfl | h
    · rfl
    · exact ih h

/-- The baseline of a call is the last sample taken before it. -/
theorem before_eq {pre post : List (Event S R)} {e : Event S R}
    (h : log result before samples = pre ++ e :: post) :
    e.before = (pre.map Event.sample).reduceOption.getLast?.or before := by
  induction samples generalizing before pre with
  | nil => simp [log] at h
  | cons sample samples ih =>
    rw [log] at h
    cases pre with
    | nil =>
      cases h
      rfl
    | cons e' pre =>
      rw [List.cons_append, List.cons.injEq] at h
      rcases h with ⟨rfl, h⟩
      rw [ih h]
      cases sample with
      | none => rfl
      | some x =>
        simp only [List.map_cons, List.reduceOption_cons_of_some, List.getLast?_cons]
        cases (pre.map Event.sample).reduceOption.getLast? <;> rfl

/-- An element of a list under a map, and what is before it. -/
theorem split_of_map {E E' : Type*} {f : E → E'} {l : List E} {pre post : List E'} {e : E'}
    (h : l.map f = pre ++ e :: post) :
    ∃ pre' e' post', l = pre' ++ e' :: post' ∧ pre = pre'.map f ∧ e = f e' := by
  rcases List.map_eq_append_iff.1 h with ⟨pre', rest, rfl, rfl, hrest⟩
  rcases List.map_eq_cons_iff.1 hrest with ⟨e', post', rfl, rfl, rfl⟩
  exact ⟨pre', e', post', rfl, rfl, rfl⟩

/-- A relation between successive samples holds from the baseline of a call to its sample. -/
theorem rel_before {Rel : S → S → Prop} {pre post : List (Event S R)} {e : Event S R} {x y : S}
    (hchain : samples.reduceOption.IsChain Rel) (h : log result none samples = pre ++ e :: post)
    (hx : e.before = some x) (hy : e.sample = some y) : Rel x y := by
  have hlast : (pre.map Event.sample).reduceOption.getLast? = some x := by
    rw [← hx, before_eq h, Option.or_none]
  rw [← map_sample_log result none samples, h, List.map_append, List.map_cons, hy,
    List.reduceOption_append, List.reduceOption_cons_of_some] at hchain
  exact (List.isChain_append.1 hchain).2.2 x hlast y rfl

/-! ## What the calls add up to -/

variable [AddCommGroup M] {contribution : Event S R → M} {f : S → M} {Rel : S → S → Prop}

/-- What calls contribute that measure `f` over related samples. -/
structure Measures (result : Option S → Option S → R) (contribution : Event S R → M) (f : S → M)
    (Rel : S → S → Prop) : Prop where
  missing : ∀ before, contribution ⟨before, none, result before none⟩ = 0
  first : ∀ x, contribution ⟨none, some x, result none (some x)⟩ = 0
  interval : ∀ x y, Rel x y →
    contribution ⟨some x, some y, result (some x) (some y)⟩ = f y - f x

theorem total_from (h : Measures result contribution f Rel) {x last : S}
    (hchain : (x :: samples.reduceOption).IsChain Rel)
    (hlast : (x :: samples.reduceOption).getLast? = some last) :
    total contribution (log result (some x) samples) = f last - f x := by
  induction samples generalizing x with
  | nil =>
    cases hlast
    exact (sub_self _).symm
  | cons sample samples ih =>
    cases sample with
    | none =>
      rw [List.reduceOption_cons_of_none] at hchain hlast
      rw [log, total, h.missing, zero_add]
      exact ih hchain hlast
    | some y =>
      rw [List.reduceOption_cons_of_some] at hchain hlast
      rcases List.isChain_cons_cons.1 hchain with ⟨hxy, hchain⟩
      rw [List.getLast?_cons_cons] at hlast
      rw [log, total, h.interval x y hxy]
      rw [Option.some_or, ih hchain hlast]
      exact sub_add_sub_cancel' _ _ _

/-- The contributions add up, whatever samples are missing. -/
theorem total_eq_sub (h : Measures result contribution f Rel) {first last : S}
    (hchain : samples.reduceOption.IsChain Rel) (hfirst : samples.reduceOption.head? = some first)
    (hlast : samples.reduceOption.getLast? = some last) :
    total contribution (log result none samples) = f last - f first := by
  induction samples with
  | nil => cases hfirst
  | cons sample samples ih =>
    cases sample with
    | none =>
      rw [log, total, h.missing, zero_add]
      exact ih hchain hfirst hlast
    | some x =>
      rw [List.reduceOption_cons_of_some] at hchain hfirst hlast
      cases hfirst
      rw [log, total, h.first, zero_add]
      exact total_from h hchain hlast

end Meter
