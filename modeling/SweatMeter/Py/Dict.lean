/-
  Python dictionaries with string keys, up to insertion order.

  Two dictionaries are equal if they hold the same entries, and `toList` lists
  the entries by key, as `sorted(d.items())` does.
-/
import Std.Data.ExtTreeMap
import Mathlib.Data.List.Pairwise
import Mathlib.Data.String.Basic

namespace Py

/-- A dictionary with string keys. -/
abbrev Dict (ν : Type) := Std.ExtTreeMap String ν

namespace Dict

variable {ν : Type} (d : Dict ν)

/-- `d[k] = v`. -/
def set (k : String) (v : ν) : Dict ν := d.insert k v

/-- `d.setdefault(k, v)`. -/
def setdefault (k : String) (v : ν) : Dict ν := d.insertIfNew k v

/-- `d.update(e)`, with `e` given by its items. -/
def update (e : List (String × ν)) : Dict ν := e.foldl (fun d p => d.set p.1 p.2) d

/-- `sorted(d.items())`. -/
def sortedItems : List (String × ν) := d.toList

/-- `dict(items)`. -/
def ofItems (items : List (String × ν)) : Dict ν := update ∅ items

/-! ## Keys -/

variable {k : String}

@[simp] theorem mem_set (a : String) (v : ν) : k ∈ d.set a v ↔ a = k ∨ k ∈ d := by
  rw [set, Std.ExtTreeMap.mem_insert, compare_eq_iff_eq]

@[simp] theorem mem_setdefault (a : String) (v : ν) : k ∈ d.setdefault a v ↔ a = k ∨ k ∈ d := by
  rw [setdefault, Std.ExtTreeMap.mem_insertIfNew, compare_eq_iff_eq]

@[simp] theorem mem_update (e : List (String × ν)) :
    k ∈ d.update e ↔ k ∈ d ∨ ∃ p ∈ e, p.1 = k := by
  induction e generalizing d with
  | nil => simp [update]
  | cons p e ih =>
    have hcons : d.update (p :: e) = (d.set p.1 p.2).update e := rfl
    rw [hcons, ih, mem_set]
    constructor
    · rintro ((h | h) | ⟨q, hq, h⟩)
      · exact Or.inr ⟨p, List.mem_cons_self, h⟩
      · exact Or.inl h
      · exact Or.inr ⟨q, List.mem_cons_of_mem _ hq, h⟩
    · rintro (h | ⟨q, hq, h⟩)
      · exact Or.inl (Or.inr h)
      · rcases List.mem_cons.1 hq with rfl | hq
        · exact Or.inl (Or.inl h)
        · exact Or.inr ⟨q, hq, h⟩

theorem ofItems_eq_ofList (items : List (String × ν)) : ofItems items = .ofList items := by
  rw [Std.ExtTreeMap.ofList_eq_foldl]
  rfl

/-- `dict(sorted(d.items()))` is `d`. -/
@[simp] theorem ofItems_sortedItems : ofItems d.sortedItems = d := by
  rw [ofItems_eq_ofList]
  refine Std.ExtTreeMap.ext_getElem? ?_
  intro k
  cases hk : d[k]? with
  | some v =>
    have hmem : (k, v) ∈ d.toList := Std.ExtTreeMap.mem_toList_iff_getElem?_eq_some.2 hk
    exact Std.ExtTreeMap.getElem?_ofList_of_mem (compare_eq_iff_eq.2 rfl)
      Std.ExtTreeMap.distinct_keys_toList hmem
  | none =>
    refine Std.ExtTreeMap.getElem?_ofList_of_contains_eq_false ?_
    rw [List.contains_eq_mem, decide_eq_false_iff_not]
    intro hmem
    obtain ⟨⟨a, v⟩, hp, rfl⟩ := List.mem_map.1 hmem
    have hv := Std.ExtTreeMap.mem_toList_iff_getElem?_eq_some.1 hp
    rw [hk] at hv
    cases hv

/-- One update after another. -/
theorem update_append (e f : List (String × ν)) : d.update (e ++ f) = (d.update e).update f := by
  rw [update, List.foldl_append]
  rfl

/-! ## Values -/

theorem getElem?_set (a : String) (v : ν) : (d.set a v)[k]? = if a = k then some v else d[k]? := by
  rw [set, Std.ExtTreeMap.getElem?_insert]
  simp only [compare_eq_iff_eq]

theorem getElem?_set_of_ne {a : String} (v : ν) (h : a ≠ k) : (d.set a v)[k]? = d[k]? := by
  rw [getElem?_set, if_neg h]

theorem getElem?_setdefault (a : String) (v : ν) :
    (d.setdefault a v)[k]? = if a = k then some (d[k]?.getD v) else d[k]? := by
  rw [setdefault, Std.ExtTreeMap.getElem?_insertIfNew]
  by_cases h : a = k
  · subst h
    cases hv : d[a]? with
    | none =>
      have hmem : a ∉ d := by
        rw [Std.ExtTreeMap.mem_iff_isSome_getElem?, hv]
        exact Bool.false_ne_true
      simp [hmem]
    | some w =>
      have hmem : a ∈ d := by
        rw [Std.ExtTreeMap.mem_iff_isSome_getElem?, hv]
        rfl
      simp [hmem]
  · simp [h]

theorem getElem?_setdefault_of_ne {a : String} (v : ν) (h : a ≠ k) :
    (d.setdefault a v)[k]? = d[k]? := by
  rw [getElem?_setdefault, if_neg h]

/-- `setdefault` keeps the values there are. -/
theorem getElem?_setdefault_of_some {w : ν} (a : String) (v : ν) (h : d[k]? = some w) :
    (d.setdefault a v)[k]? = some w := by
  rw [getElem?_setdefault, h]
  split <;> rfl

/-! ## Items -/

/-- A loop that sets the items of some of its elements. -/
theorem foldl_eq_update {T : Type} {f : Dict ν → T → Dict ν} {item : T → Option (String × ν)}
    (hnone : ∀ d x, item x = none → f d x = d)
    (hsome : ∀ d x p, item x = some p → f d x = d.set p.1 p.2) (xs : List T) :
    xs.foldl f d = d.update (xs.filterMap item) := by
  induction xs generalizing d with
  | nil => rfl
  | cons x xs ih =>
    rw [List.foldl_cons]
    cases hx : item x with
    | none => rw [hnone d x hx, List.filterMap_cons_none hx, ih]
    | some p =>
      rw [hsome d x p hx, List.filterMap_cons_some hx, ih]
      rfl

theorem getElem?_update_congr {d d' : Dict ν} (h : d[k]? = d'[k]?) (e : List (String × ν)) :
    (d.update e)[k]? = (d'.update e)[k]? := by
  induction e generalizing d d' with
  | nil => exact h
  | cons p e ih =>
    have hset : (d.set p.1 p.2)[k]? = (d'.set p.1 p.2)[k]? := by
      rw [getElem?_set, getElem?_set, h]
    exact ih hset

/-- A value is an old one or that of an item. -/
theorem mem_of_getElem?_update {e : List (String × ν)} {v : ν} (h : (d.update e)[k]? = some v) :
    d[k]? = some v ∨ (k, v) ∈ e := by
  induction e generalizing d with
  | nil => exact .inl h
  | cons p e ih =>
    rcases ih (d.set p.1 p.2) h with hset | hmem
    · rw [getElem?_set] at hset
      split_ifs at hset with hp
      · cases hset
        exact .inr (hp ▸ List.mem_cons_self)
      · exact .inl hset
    · exact .inr (.tail _ hmem)

/-- Items with other keys do not matter. -/
theorem getElem?_update_of_ne {e : List (String × ν)} (h : ∀ p ∈ e, p.1 ≠ k) :
    (d.update e)[k]? = d[k]? := by
  induction e generalizing d with
  | nil => rfl
  | cons p e ih =>
    obtain ⟨hp, he⟩ := List.forall_mem_cons.1 h
    exact (ih (d := d.set p.1 p.2) he).trans (getElem?_set_of_ne d p.2 hp)

/-- The item of a key, if all its items have one value. -/
theorem getElem?_update_of_mem {e : List (String × ν)} {v : ν} (hmem : (k, v) ∈ e)
    (hunique : ∀ w, (k, w) ∈ e → w = v) : (d.update e)[k]? = some v := by
  induction e generalizing d with
  | nil => cases hmem
  | cons p e ih =>
    have hcons : d.update (p :: e) = (d.set p.1 p.2).update e := rfl
    rw [hcons]
    by_cases hlater : ∃ w, (k, w) ∈ e
    · obtain ⟨w, hw⟩ := hlater
      have hwv := hunique w (.tail _ hw)
      exact ih _ (hwv ▸ hw) fun w hw => hunique w (.tail _ hw)
    · have hp : p = (k, v) := by
        rcases List.mem_cons.1 hmem with h | h
        · exact h.symm
        · exact absurd ⟨v, h⟩ hlater
      rw [getElem?_update_of_ne, hp, getElem?_set, if_pos rfl]
      rintro ⟨a, w⟩ hq rfl
      exact hlater ⟨w, hq⟩

/-- `d.update(e)`, for a dictionary `e`. -/
theorem getElem?_update_sortedItems (e : Dict ν) :
    (d.update e.sortedItems)[k]? = e[k]?.or d[k]? := by
  cases he : e[k]? with
  | none =>
    refine getElem?_update_of_ne d ?_
    rintro ⟨a, v⟩ hp rfl
    have hv := Std.ExtTreeMap.mem_toList_iff_getElem?_eq_some.1 hp
    rw [he] at hv
    cases hv
  | some v =>
    refine getElem?_update_of_mem d (Std.ExtTreeMap.mem_toList_iff_getElem?_eq_some.2 he) ?_
    intro w hw
    have hv := Std.ExtTreeMap.mem_toList_iff_getElem?_eq_some.1 hw
    rw [he] at hv
    exact (Option.some.inj hv).symm

/-- The value of a key, if its items agree. -/
theorem getElem?_ofItems {e : List (String × ν)} {value : Option ν}
    (h : ∀ v, (k, v) ∈ e ↔ value = some v) : (ofItems e)[k]? = value := by
  cases value with
  | none =>
    have hother : ∀ p ∈ e, p.1 ≠ k := by
      rintro ⟨a, v⟩ hp rfl
      cases (h v).1 hp
    rw [ofItems, getElem?_update_of_ne _ hother, Std.ExtTreeMap.getElem?_empty]
  | some v =>
    exact getElem?_update_of_mem _ ((h v).2 rfl) fun w hw => (Option.some.inj ((h w).1 hw)).symm

/-- Items with distinct keys may come in any order. -/
theorem update_perm {e e' : List (String × ν)} (hperm : e.Perm e')
    (h : e.Pairwise fun p q => p.1 ≠ q.1) : d.update e = d.update e' := by
  refine hperm.foldl_eq' ?_ d
  intro p hp q hq z
  by_cases heq : p = q
  · rw [heq]
  · have : Std.Symm fun p q : String × ν => p.1 ≠ q.1 := ⟨fun _ _ hne => hne.symm⟩
    have hne : p.1 ≠ q.1 := h.forall hp hq heq
    refine Std.ExtTreeMap.ext_getElem? fun k => ?_
    simp only [getElem?_set]
    split_ifs with hq hp
    · exact absurd (hp.trans hq.symm) hne
    · rfl
    · rfl
    · rfl

end Dict

end Py
