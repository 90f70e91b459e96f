/-
  Python's `sorted` with a key function.

  `sorted` compares keys with `<` only, permutes its input, and is stable where
  `<` is a consistent order on the keys.  Nothing more is promised: with an
  inconsistent `<` the result is some permutation.  A `Sorter` is any function
  that keeps this contract, given by the permutation of positions it chooses.
-/
import Mathlib.Data.List.Sort

namespace Py

variable {κ κ' α : Type}

/-- `<` is a strict weak order on the elements of `ks`. -/
structure Consistent (lt : κ → κ → Bool) (ks : List κ) : Prop where
  asymm : ∀ a ∈ ks, ∀ b ∈ ks, lt a b = true → lt b a = false
  trans : ∀ a ∈ ks, ∀ b ∈ ks, ∀ c ∈ ks, lt b a = false → lt c b = false → lt c a = false

/-- The key at position `j` is not below the key at position `i`. -/
def notAfter (lt : κ → κ → Bool) (ks : List κ) (i j : ℕ) : Bool :=
  match ks[i]?, ks[j]? with
  | some a, some b => !lt b a
  | _, _ => true

/-- The positions of `ks`, stably sorted by key. -/
def stableOrder (lt : κ → κ → Bool) (ks : List κ) : List ℕ :=
  (List.range ks.length).insertionSort fun i j => notAfter lt ks i j

theorem stableOrder_perm (lt : κ → κ → Bool) (ks : List κ) :
    (stableOrder lt ks).Perm (List.range ks.length) :=
  List.perm_insertionSort ..

/-- The stable order depends on the outcomes of the comparisons only. -/
theorem stableOrder_map {lt : κ → κ → Bool} {lt' : κ' → κ' → Bool} {f : κ → κ'}
    (h : ∀ a b, lt' (f a) (f b) = lt a b) (ks : List κ) :
    stableOrder lt' (ks.map f) = stableOrder lt ks := by
  have hrel : notAfter lt' (ks.map f) = notAfter lt ks := by
    funext i j
    simp only [notAfter, List.getElem?_map]
    cases ks[i]? <;> cases ks[j]? <;> simp [h]
  rw [stableOrder, stableOrder, hrel, List.length_map]

/-- A sorting function that keeps Python's contract for `<`. -/
structure Sorter (lt : κ → κ → Bool) where
  order : List κ → List ℕ
  perm : ∀ ks, (order ks).Perm (List.range ks.length)
  stable : ∀ ks, Consistent lt ks → order ks = stableOrder lt ks

/-- Insertion sort keeps the contract. -/
def Sorter.insertion (lt : κ → κ → Bool) : Sorter lt where
  order := stableOrder lt
  perm := stableOrder_perm lt
  stable _ _ := rfl

variable {lt : κ → κ → Bool} (S : Sorter lt)

/-- `sorted(xs, key=key)`. -/
def Sorter.sorted (key : α → κ) (xs : List α) : List α :=
  (S.order (xs.map key)).filterMap fun i => xs[i]?

/-- `sorted` picks every element once, in the order of the positions. -/
theorem Sorter.sorted_eq_map (key : α → κ) (xs : List α) (d : α) :
    S.sorted key xs = (S.order (xs.map key)).map fun i => xs.getD i d := by
  refine List.filterMap_eq_map_iff_forall_eq_some.2 ?_
  intro i hi
  have hlt : i < xs.length := by
    rw [(S.perm _).mem_iff, List.mem_range, List.length_map] at hi; exact hi
  simp [List.getD_eq_getElem?_getD, List.getElem?_eq_getElem hlt]

theorem Sorter.nodup (ks : List κ) : (S.order ks).Nodup :=
  (S.perm ks).nodup_iff.2 List.nodup_range

theorem Sorter.mem_order {ks : List κ} {i : ℕ} : i ∈ S.order ks ↔ i < ks.length := by
  rw [(S.perm ks).mem_iff, List.mem_range]

theorem filterMap_range_getElem? (xs : List α) :
    (List.range xs.length).filterMap (fun i => xs[i]?) = xs := by
  induction xs with
  | nil => rfl
  | cons x xs ih =>
    rw [List.length_cons, List.range_succ_eq_map, List.filterMap_cons, List.filterMap_map]
    exact congrArg (x :: ·) ih

/-- A list whose keys are in order already is left as it is. -/
theorem Sorter.sorted_of_pairwise {key : α → κ} {xs : List α}
    (hcons : Consistent lt (xs.map key))
    (hxs : xs.Pairwise fun a b => lt (key b) (key a) = false) : S.sorted key xs = xs := by
  have horder : S.order (xs.map key) = List.range xs.length := by
    rw [S.stable _ hcons, stableOrder, List.length_map]
    refine List.Pairwise.insertionSort_eq ?_
    rw [List.pairwise_iff_getElem]
    intro i j hi hj hij
    rw [List.length_range] at hi hj
    have hlt := List.pairwise_iff_getElem.1 hxs i j hi hj hij
    simp [notAfter, hi, hj, hlt]
  rw [Sorter.sorted, horder, filterMap_range_getElem?]

theorem Sorter.sorted_perm (key : α → κ) (xs : List α) : (S.sorted key xs).Perm xs := by
  have hperm := (S.perm (xs.map key)).filterMap fun i => xs[i]?
  rw [List.length_map, filterMap_range_getElem?] at hperm
  exact hperm

/-- On keys where `<` is consistent, `sorted` is insertion sort. -/
theorem Sorter.sorted_eq_insertionSort {key : α → κ} {xs : List α} (r : α → α → Prop)
    [DecidableRel r] (hcons : Consistent lt (xs.map key))
    (hr : ∀ a ∈ xs, ∀ b ∈ xs, lt (key b) (key a) = false ↔ r a b) :
    S.sorted key xs = xs.insertionSort r := by
  cases xs with
  | nil => simpa using (S.sorted_perm key []).eq_nil
  | cons d xs =>
    have hget : ∀ i ∈ List.range (d :: xs).length,
        ∃ h : i < (d :: xs).length, (d :: xs).getD i d = (d :: xs)[i] := by
      intro i hi
      have hlt := List.mem_range.1 hi
      exact ⟨hlt, by simp [List.getD_eq_getElem?_getD, List.getElem?_eq_getElem hlt]⟩
    have hrange : (List.range (d :: xs).length).map (fun i => (d :: xs).getD i d) = d :: xs := by
      refine List.ext_getElem (by simp) fun i h1 h2 => ?_
      rw [List.getElem_map, List.getElem_range, (hget i (List.mem_range.2 h2)).2]
    rw [S.sorted_eq_map key (d :: xs) d, S.stable _ hcons, stableOrder, List.length_map]
    rw [List.map_insertionSort _ r, hrange]
    intro i hi j hj
    obtain ⟨hilt, hi⟩ := hget i hi
    obtain ⟨hjlt, hj⟩ := hget j hj
    rw [hi, hj, ← hr _ (List.getElem_mem hilt) _ (List.getElem_mem hjlt)]
    simp only [notAfter, List.getElem?_map, List.getElem?_eq_getElem hilt,
      List.getElem?_eq_getElem hjlt, Option.map_some, Bool.not_eq_true']

/-! ## Inserted elements -/

/-- The second list is the first with elements satisfying `p` inserted anywhere. -/
inductive Inserted (p : α → Prop) : List α → List α → Prop
  | nil : Inserted p [] []
  | keep {xs ys : List α} (x : α) : Inserted p xs ys → Inserted p (x :: xs) (x :: ys)
  | insert {xs ys : List α} (z : α) : p z → Inserted p xs ys → Inserted p xs (z :: ys)

namespace Inserted

variable {p : α → Prop} {r : α → α → Prop} [DecidableRel r] {xs ys : List α}

theorem refl : ∀ xs : List α, Inserted p xs xs
  | [] => .nil
  | x :: xs => .keep x (refl xs)

theorem sublist (h : Inserted p xs ys) : xs.Sublist ys := by
  induction h with
  | nil => exact .slnil
  | keep x _ ih => exact ih.cons_cons x
  | insert z _ _ ih => exact ih.cons z

theorem forall_of_nil (h : Inserted p [] ys) : ∀ z ∈ ys, p z := by
  generalize hxs : ([] : List α) = xs at h
  induction h with
  | nil => simp
  | keep x _ _ => cases hxs
  | insert z hz _ ih =>
    intro y hy
    rcases List.mem_cons.1 hy with rfl | hy
    · exact hz
    · exact ih hxs y hy

theorem orderedInsert_right {z : α} (hz : p z) (h : Inserted p xs ys) :
    Inserted p xs (ys.orderedInsert r z) := by
  induction h with
  | nil => exact .insert z hz .nil
  | keep x h ih =>
    rw [List.orderedInsert]
    split_ifs
    · exact .insert z hz (.keep x h)
    · exact .keep x ih
  | insert y hy h ih =>
    rw [List.orderedInsert]
    split_ifs
    · exact .insert z hz (.insert y hy h)
    · exact .insert y hy ih

/-- Into a list that is in order, an element goes at the same place. -/
theorem orderedInsert_both [IsTrans α r] (a : α) (h : Inserted p xs ys) (hys : ys.Pairwise r) :
    Inserted p (xs.orderedInsert r a) (ys.orderedInsert r a) := by
  induction h with
  | nil => exact .keep a .nil
  | keep x h ih =>
    simp only [List.orderedInsert]
    split_ifs
    · exact .keep a (.keep x h)
    · exact .keep x (ih hys.of_cons)
  | @insert xs ys z hz h ih =>
    obtain ⟨hz', hys⟩ := List.pairwise_cons.1 hys
    by_cases haz : r a z
    · -- then `a` is below the first element of `xs` as well
      have hfront : xs.orderedInsert r a = a :: xs := by
        cases xs with
        | nil => rfl
        | cons x xs =>
          have hax : r a x := IsTrans.trans _ _ _ haz (hz' x (h.sublist.subset List.mem_cons_self))
          rw [List.orderedInsert, if_pos hax]
      rw [hfront, List.orderedInsert, if_pos haz]
      exact .keep a (.insert z hz h)
    · rw [List.orderedInsert, if_neg haz]
      exact .insert z hz (ih hys)

/-- A stable sort keeps what was inserted apart. -/
theorem insertionSort [Std.Total r] [IsTrans α r] (h : Inserted p xs ys) :
    Inserted p (xs.insertionSort r) (ys.insertionSort r) := by
  induction h with
  | nil => exact .nil
  | keep x _ ih => exact ih.orderedInsert_both x (List.pairwise_insertionSort r _)
  | insert z hz _ ih => exact ih.orderedInsert_right hz

variable {β : Type} {f : α → Option β}

/-- What inserted elements yield is inserted among what the others yield. -/
theorem filterMap {q : β → Prop} (h : Inserted p xs ys)
    (hf : ∀ z, p z → ∀ b, f z = some b → q b) :
    Inserted q (xs.filterMap f) (ys.filterMap f) := by
  induction h with
  | nil => exact .nil
  | keep x _ ih =>
    rw [List.filterMap_cons, List.filterMap_cons]
    cases f x with
    | none => exact ih
    | some b => exact .keep b ih
  | insert z hz _ ih =>
    rw [List.filterMap_cons]
    cases hb : f z with
    | none => exact ih
    | some b => exact .insert b (hf z hz b hb) ih

/-- Inserted elements that yield nothing leave what is yielded. -/
theorem filterMap_eq (h : Inserted p xs ys) (hf : ∀ z, p z → f z = none) :
    ys.filterMap f = xs.filterMap f := by
  induction h with
  | nil => rfl
  | keep x _ ih => rw [List.filterMap_cons, List.filterMap_cons, ih]
  | insert z hz _ ih => rw [List.filterMap_cons, hf z hz, ih]

theorem filter_eq {f : α → Bool} (h : Inserted p xs ys) (hf : ∀ z, p z → f z = false) :
    ys.filter f = xs.filter f := by
  rw [← List.filterMap_eq_filter]
  exact h.filterMap_eq fun z hz => by simp [Option.guard, hf z hz]

end Inserted

/-! ## Two arrangements -/

/-- Two distinct elements stand in one order only. -/
theorem not_swapped {l : List ℕ} (hl : l.Nodup) {a b : ℕ} (h1 : [a, b].Sublist l) :
    ¬ [b, a].Sublist l := by
  induction l with
  | nil => cases h1
  | cons x l ih =>
    obtain ⟨hx, hl⟩ := List.nodup_cons.1 hl
    intro h2
    cases h1 with
    | cons _ h1 =>
      cases h2 with
      | cons _ h2 => exact ih hl h1 h2
      | cons_cons _ h2 => exact hx (h1.subset (by simp))
    | cons_cons _ h1 =>
      cases h2 with
      | cons _ h2 => exact hx (h2.subset (by simp))
      | cons_cons _ h2 => exact hx (h1.subset (by simp))

/-- Two arrangements of the same distinct elements differ in the order of two of them. -/
theorem exists_swapped {P Q : List ℕ} (hPQ : P.Perm Q) (hQ : Q.Nodup) (hne : P ≠ Q) :
    ∃ i j, [i, j].Sublist P ∧ [j, i].Sublist Q := by
  by_contra hno
  push Not at hno
  have total : ∀ {a b : ℕ}, [a, b].Sublist P → [a, b].Sublist Q := by
    intro a b hab
    have hnd : a ≠ b := by
      have := hab.nodup (hPQ.nodup_iff.2 hQ)
      simpa using this
    have ha : a ∈ Q := hPQ.subset (hab.subset (by simp))
    have hb : b ∈ Q := hPQ.subset (hab.subset (by simp))
    obtain ⟨l, r, rfl⟩ := List.append_of_mem ha
    rcases List.mem_append.1 hb with h | h
    · exact absurd
        ((List.singleton_sublist.2 h).append (List.singleton_sublist.2 List.mem_cons_self))
        (hno a b hab)
    · rcases List.mem_cons.1 h with rfl | h
      · exact absurd rfl hnd
      · exact List.Sublist.trans (List.Sublist.cons_cons a (List.singleton_sublist.2 h))
          (List.sublist_append_right l _)
  have antisymm : ∀ a b, a ∈ P → b ∈ Q → [a, b].Sublist Q → [b, a].Sublist Q → a = b := by
    intro a b _ _ h1 h2
    exact absurd h2 (not_swapped hQ h1)
  exact hne (List.Perm.eq_of_pairwise antisymm (List.pairwise_iff_forall_sublist.2 total)
    (List.pairwise_iff_forall_sublist.2 fun h => h) hPQ)

/-! ## Neighbours -/

/-- `itertools.pairwise`. -/
def pairwise (xs : List α) : List (α × α) := xs.zip xs.tail

theorem pairwise_map {β : Type} (f : α → β) (xs : List α) :
    pairwise (xs.map f) = (pairwise xs).map (Prod.map f f) := by
  rw [pairwise, pairwise, ← List.map_tail, List.zip_map]

/-- The neighbours of a list, split at one of its elements. -/
theorem pairwise_append_cons (xs ys : List α) (a : α) :
    pairwise (xs ++ a :: ys) = pairwise (xs ++ [a]) ++ pairwise (a :: ys) := by
  induction xs with
  | nil => simp [pairwise]
  | cons x xs ih =>
    cases xs with
    | nil => simp [pairwise]
    | cons y xs =>
      simp only [pairwise, List.cons_append, List.tail_cons, List.zip_cons_cons] at ih ⊢
      rw [ih]

theorem mem_of_mem_pairwise {xs : List α} {p : α × α} (h : p ∈ pairwise xs) :
    p.1 ∈ xs ∧ p.2 ∈ xs :=
  ⟨(List.of_mem_zip h).1, List.mem_of_mem_tail (List.of_mem_zip h).2⟩

/-- In a list without repetition every element starts at most one pair. -/
theorem pairwise_inj {xs : List α} (hx : xs.Nodup) {p q : α × α} (hp : p ∈ pairwise xs)
    (hq : q ∈ pairwise xs) (h : p.1 = q.1) : p = q := by
  obtain ⟨i, hi, rfl⟩ := List.getElem_of_mem hp
  obtain ⟨j, hj, rfl⟩ := List.getElem_of_mem hq
  simp only [pairwise, List.getElem_zip] at h
  obtain rfl := (hx.getElem_inj_iff).1 h
  rfl

theorem map_fst_zip_sublist : ∀ xs ys : List α, ((xs.zip ys).map Prod.fst).Sublist xs
  | [], _ => by simp
  | _ :: _, [] => by simp
  | x :: xs, _ :: ys => (map_fst_zip_sublist xs ys).cons_cons x

theorem nodup_pairwise {xs : List α} (hx : xs.Nodup) : (pairwise xs).Nodup :=
  List.Nodup.of_map Prod.fst (hx.sublist (map_fst_zip_sublist xs xs.tail))

/-- Selecting the only element that yields something. -/
theorem filterMap_single {β : Type} {xs : List α} (hx : xs.Nodup) {f : α → Option β} {a : α}
    (ha : a ∈ xs) (hne : ∀ b ∈ xs, b ≠ a → f b = none) : xs.filterMap f = (f a).toList := by
  obtain ⟨l, r, rfl⟩ := List.append_of_mem ha
  have hnd := List.nodup_append.1 hx
  have hl : l.filterMap f = [] := List.filterMap_eq_nil_iff.2 fun b hb =>
    hne b (by simp [hb]) (hnd.2.2 b hb a (by simp))
  have hr : r.filterMap f = [] := List.filterMap_eq_nil_iff.2 fun b hb =>
    hne b (by simp [hb]) fun h => (List.nodup_cons.1 hnd.2.1).1 (h ▸ hb)
  rw [List.filterMap_append, hl, List.nil_append, List.filterMap_cons, hr]
  cases f a <;> rfl

/-- Selecting the only two elements that yield something. -/
theorem filterMap_pair {β : Type} {xs : List ℕ} (hx : xs.Nodup) {f : ℕ → Option β} {a b : ℕ}
    (hab : [a, b].Sublist xs) (hne : ∀ c ∈ xs, c ≠ a → c ≠ b → f c = none) :
    xs.filterMap f = (f a).toList ++ (f b).toList := by
  induction xs with
  | nil => cases hab
  | cons x xs ih =>
    obtain ⟨hx', hnd⟩ := List.nodup_cons.1 hx
    cases hab with
    | cons _ h =>
      have hxa : x ≠ a := fun h' => hx' (h' ▸ h.subset (by simp))
      have hxb : x ≠ b := fun h' => hx' (h' ▸ h.subset (by simp))
      rw [List.filterMap_cons, hne x (by simp) hxa hxb]
      exact ih hnd h fun c hc => hne c (by simp [hc])
    | cons_cons _ h =>
      have hb : xs.filterMap f = (f b).toList :=
        filterMap_single hnd (h.subset (by simp)) fun c hc hcb =>
          hne c (by simp [hc]) (fun h' => hx' (h' ▸ hc)) hcb
      rw [List.filterMap_cons, hb]
      cases f a <;> rfl

end Py
