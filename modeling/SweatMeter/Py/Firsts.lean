/-
  Lists whose elements have keys: the first element of each key, and the
  elements in the order of their keys.
-/
import Mathlib.Data.List.Sort
import Mathlib.Order.Defs.LinearOrder

namespace Py

variable {α κ : Type} (key : α → κ)

/-! ## The first element of each key -/

section Firsts

variable [DecidableEq κ]

/-- The elements with new keys, when these keys have been seen. -/
def firsts (seen : List κ) : List α → List α
  | [] => []
  | a :: as =>
    if key a ∈ seen then firsts seen as else a :: firsts (seen ++ [key a]) as

variable {key}

theorem firsts_cons_of_seen {seen : List κ} {a : α} (h : key a ∈ seen) (as : List α) :
    firsts key seen (a :: as) = firsts key seen as := by
  rw [firsts, if_pos h]

theorem firsts_cons_of_new {seen : List κ} {a : α} (h : key a ∉ seen) (as : List α) :
    firsts key seen (a :: as) = a :: firsts key (seen ++ [key a]) as := by
  rw [firsts, if_neg h]

theorem mem_firsts {seen : List κ} {as : List α} {a : α} :
    a ∈ firsts key seen as ↔
      key a ∉ seen ∧ as.find? (fun b => decide (key b = key a)) = some a := by
  induction as generalizing seen with
  | nil => simp [firsts]
  | cons b as ih =>
    by_cases hb : key b ∈ seen
    · rw [firsts_cons_of_seen hb, ih]
      refine and_congr_right ?_
      intro ha
      have hne : key b ≠ key a := fun h => ha (h ▸ hb)
      rw [List.find?_cons_of_neg (by simpa using hne)]
    · rw [firsts_cons_of_new hb, List.mem_cons, ih]
      by_cases hab : key b = key a
      · rw [List.find?_cons_of_pos (by simpa using hab), hab]
        constructor
        · rintro (rfl | ⟨h, -⟩)
          · exact ⟨hb, rfl⟩
          · exact absurd (List.mem_append_right _ (List.mem_singleton_self _)) h
        · rintro ⟨-, h⟩
          exact Or.inl (Option.some.inj h).symm
      · rw [List.find?_cons_of_neg (by simpa using hab)]
        constructor
        · rintro (rfl | ⟨h, hfind⟩)
          · exact absurd rfl hab
          · exact ⟨fun hs => h (List.mem_append_left _ hs), hfind⟩
        · rintro ⟨h, hfind⟩
          refine Or.inr ⟨?_, hfind⟩
          intro hs
          rcases List.mem_append.1 hs with hs | hs
          · exact h hs
          · exact hab (List.mem_singleton.1 hs).symm

theorem mem_of_mem_firsts {seen : List κ} {as : List α} {a : α} (h : a ∈ firsts key seen as) :
    a ∈ as :=
  List.mem_of_find?_eq_some (mem_firsts.1 h).2

/-- The elements kept have distinct keys. -/
theorem pairwise_firsts (seen : List κ) (as : List α) :
    (firsts key seen as).Pairwise fun a b => key a ≠ key b := by
  induction as generalizing seen with
  | nil => exact .nil
  | cons a as ih =>
    by_cases ha : key a ∈ seen
    · rw [firsts_cons_of_seen ha]
      exact ih seen
    · rw [firsts_cons_of_new ha, List.pairwise_cons]
      refine ⟨?_, ih _⟩
      intro b hb h
      exact (mem_firsts.1 hb).1 (h ▸ List.mem_append_right _ (List.mem_singleton_self _))

/-- Nothing is dropped exactly if the keys are new and distinct. -/
theorem firsts_eq_self {seen : List κ} {as : List α} :
    firsts key seen as = as ↔
      (∀ a ∈ as, key a ∉ seen) ∧ as.Pairwise fun a b => key a ≠ key b := by
  constructor
  · intro h
    refine ⟨?_, h ▸ pairwise_firsts seen as⟩
    intro a ha
    rw [← h] at ha
    exact (mem_firsts.1 ha).1
  · rintro ⟨hnew, hdistinct⟩
    induction as generalizing seen with
    | nil => rfl
    | cons a as ih =>
      obtain ⟨ha, hrest⟩ := List.pairwise_cons.1 hdistinct
      rw [firsts_cons_of_new (hnew a List.mem_cons_self), ih _ hrest]
      intro b hb hs
      rcases List.mem_append.1 hs with hs | hs
      · exact hnew b (List.mem_cons_of_mem _ hb) hs
      · exact ha b hb (List.mem_singleton.1 hs).symm

end Firsts

/-! ## In the order of the keys -/

section SortBy

variable [LinearOrder κ]

/-- Sorting distinct keys leaves them strictly increasing. -/
theorem pairwise_insertionSort_lt {as : List α} (h : as.Pairwise fun a b => key a ≠ key b) :
    (as.insertionSort fun a b => key a ≤ key b).Pairwise fun a b => key a < key b := by
  have hperm := (List.perm_insertionSort (fun a b : α => key a ≤ key b) as).symm
  have hdistinct := (hperm.pairwise_iff fun h => h.symm).1 h
  have : Std.Total fun a b : α => key a ≤ key b := ⟨fun a b => le_total _ _⟩
  have : IsTrans α fun a b => key a ≤ key b := ⟨fun a b c => le_trans⟩
  exact ((List.pairwise_insertionSort _ as).and hdistinct).imp fun h => lt_of_le_of_ne h.1 h.2

/-- Elements with distinct keys are sorted alike, in whatever order they come. -/
theorem insertionSort_eq_of_perm {as bs : List α} (hperm : as.Perm bs)
    (h : as.Pairwise fun a b => key a ≠ key b) :
    as.insertionSort (fun a b => key a ≤ key b) = bs.insertionSort fun a b => key a ≤ key b := by
  have hbs : bs.Pairwise fun a b => key a ≠ key b := (hperm.pairwise_iff fun h => h.symm).1 h
  have hsorted := (List.perm_insertionSort (fun a b : α => key a ≤ key b) as).trans
    (hperm.trans (List.perm_insertionSort (fun a b : α => key a ≤ key b) bs).symm)
  refine hsorted.eq_of_pairwise (fun a b _ _ hab hba => ?_) (pairwise_insertionSort_lt key h)
    (pairwise_insertionSort_lt key hbs)
  exact absurd hba (lt_asymm hab)

end SortBy

end Py
