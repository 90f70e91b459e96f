/-
  What `_normalize_gpu_samples` does with a tuple of any objects.

  Each position either gives one row or is rejected with one reason
  (`rejection`).  The rows are the first ones of their indices in normal form, so
  the rejected positions may as well not be there, and the rows themselves are
  kept as they are.
-/
import SweatMeter.Scripted
import SweatMeter.SmiDiagnostics

namespace SweatMeter

open Py

/-! ## Positions -/

/-- The key and the reason of an element that is rejected after these indices. -/
def rejection (position : ℕ) (seen : List ℤ) : Option GpuRow → Option (String × String)
  | none => some (s!"gpu.sample.{position}", "malformed_reading")
  | some row => match rowIndex (some row) with
    | none => some (s!"gpu.sample.{position}.index", "malformed_value")
    | some i =>
      if i ∈ seen then some (s!"gpu.sample.{position}.index", "duplicate_gpu_index") else none

/-- The rejection of a position, if it is rejected. -/
def rejectionAt (vs : List (Option GpuRow)) (j : ℕ) : Option (String × String) :=
  vs[j]?.bind (rejection j ((vs.take j).filterMap rowIndex))

/-- The diagnostics with a rejection noted. -/
def noted (rejection : Option (String × String)) (r : Dict String) : Dict String :=
  match rejection with
  | some (key, reason) => r.set key reason
  | none => r

/-- The sample is the row, with each measurement that is a finite number within the
    range of its field. -/
structure Normalized (row : GpuRow) (s : GpuSample Number) : Prop where
  index : row.index = .ok (.num (.int s.index))
  measurement : ∀ f x, s.measurement f = some x ↔ ∃ q, row.measurement f = .ok (.num x) ∧
    x.toRat = some q ∧ f.minimum ≤ q ∧ ∀ b ∈ f.maximum, q ≤ b
  uuid : row.uuid.map nonEmptyText = .ok s.uuid
  throttleReasons : row.throttleReasons.map (List.filterMap nonEmptyText) = .ok s.throttleReasons
  available : row.throttleReasonsAvailable.map (fun a => decide (a = .bool true)) =
    .ok s.throttleReasonsAvailable

/-- The sample comes from this position, the first one with its index. -/
structure Origin (vs : List (Option GpuRow)) (s : GpuSample Number) (j : ℕ) : Prop where
  row : ∃ row, vs[j]? = some (some row) ∧ Normalized row s
  first : ∀ k < j, vs[k]?.bind rowIndex ≠ some s.index

/-- A `GpuSample` with stored attributes, iterable throttle reasons and integers
    within the range of a double. -/
structure Stored (row : GpuRow) : Prop where
  index : ∃ v, row.index = .ok v ∧ Fits v
  measurement : ∀ f, ∃ v, row.measurement f = .ok v ∧ Fits v
  uuid : Returns row.uuid
  throttleReasons : Returns row.throttleReasons
  available : Returns row.throttleReasonsAvailable

variable {vs : List (Option GpuRow)} {i : ℤ} {k : ℕ} {row : GpuRow} {key : String}

theorem rowIndex_eq_some : rowIndex (some row) = some i ↔
    0 ≤ i ∧ row.index = .ok (.num (.int i)) := by
  constructor
  · intro h
    refine ⟨rowIndex_nonneg h, ?_⟩
    cases ho : row.index with
    | error e => simp [rowIndex, ho] at h
    | ok o =>
      rw [rowIndex_of_ok ho] at h
      unfold validIndex at h
      split at h
      · split_ifs at h
        cases h
        rfl
      · cases h
  · rintro ⟨hi, ho⟩
    rw [rowIndex_of_ok ho, validIndex, if_neg (by omega)]

/-! ## The first rows -/

theorem Stored.normalizable (h : Stored row) (hi : rowIndex (some row) = some i) :
    Normalizable i row := by
  refine ⟨h.measurement, fun _ => ?_, h.uuid, h.throttleReasons, h.available⟩
  obtain ⟨v, hv, hfits⟩ := h.index
  rw [(rowIndex_eq_some.1 hi).2] at hv
  cases hv
  exact printable_of_fits hfits

theorem rowsNormalizable_of_stored (h : ∀ row, some row ∈ vs → Stored row) :
    RowsNormalizable vs := by
  refine ⟨fun row hrow => ?_, fun i row howner => ?_⟩
  · obtain ⟨v, hv, -⟩ := (h row hrow).index
    exact ⟨v, hv⟩
  · obtain ⟨hmem, hi⟩ := owner_eq_some howner
    exact (h row hmem).normalizable hi

theorem RowOf.normalized {s : GpuSample Number} (h : RowOf i row s)
    (hi : rowIndex (some row) = some i) (hstored : Stored row) : Normalized row s where
  index := by rw [h.index, (rowIndex_eq_some.1 hi).2]
  measurement f x := by
    obtain ⟨v, hv, hfits⟩ := hstored.measurement f
    have hfield := h.measurement f
    rw [GpuRow.field, hv, ok_bind] at hfield
    rw [hv]
    constructor
    · intro hx
      rw [hx] at hfield
      obtain ⟨rfl, q, hq, hlo, hhi⟩ := number_eq_some hfield
      exact ⟨q, rfl, hq, hlo, hhi⟩
    · rintro ⟨q, heq, hq, hlo, hhi⟩
      cases heq
      rw [number_num hq hlo hhi hfits] at hfield
      exact (Except.ok.inj hfield).symm
  uuid := h.uuid
  throttleReasons := h.throttleReasons
  available := h.available

/-- The first row of an index stands at the first position with this index. -/
theorem exists_owner (h : ∃ v ∈ vs, rowIndex v = some i) : ∃ row, owner i vs = some row := by
  induction vs with
  | nil => simp at h
  | cons v vs ih =>
    by_cases hv : rowIndex v = some i
    · cases v with
      | none => cases hv
      | some row => exact ⟨row, owner_cons_of_eq hv vs⟩
    · rw [owner_cons_of_ne hv]
      obtain ⟨w, hw, hi⟩ := h
      rcases List.mem_cons.1 hw with rfl | hw
      · exact absurd hi hv
      · exact ih ⟨w, hw, hi⟩

theorem owner_eq_some_iff : owner i vs = some row ↔ ∃ j : ℕ, vs[j]? = some (some row) ∧
    rowIndex (some row) = some i ∧ ∀ k < j, vs[k]?.bind rowIndex ≠ some i := by
  induction vs with
  | nil => simp [owner]
  | cons v vs ih =>
    by_cases hv : rowIndex v = some i
    · obtain ⟨row', rfl⟩ : ∃ row', v = some row' := by
        cases v with
        | none => cases hv
        | some row' => exact ⟨row', rfl⟩
      rw [owner_cons_of_eq hv]
      constructor
      · intro h
        cases h
        exact ⟨0, rfl, hv, fun k hk => absurd hk (Nat.not_lt_zero k)⟩
      · rintro ⟨j, hj, -, hfirst⟩
        cases j with
        | zero => exact Option.some.inj hj
        | succ j => exact absurd hv (hfirst 0 (Nat.succ_pos j))
    · rw [owner_cons_of_ne hv, ih]
      constructor
      · rintro ⟨j, hj, hi, hfirst⟩
        refine ⟨j + 1, hj, hi, fun k hk => ?_⟩
        cases k with
        | zero => exact hv
        | succ k => exact hfirst k (Nat.lt_of_succ_lt_succ hk)
      · rintro ⟨j, hj, hi, hfirst⟩
        cases j with
        | zero =>
          cases hj
          exact absurd hi hv
        | succ j => exact ⟨j, hj, hi, fun k hk => hfirst (k + 1) (Nat.succ_lt_succ hk)⟩

/-! ## The keys of the positions -/

/-- A key of a position, behind `gpu.sample.`: its numeral up to a dot or the end. -/
theorem positionKeys_toList {p : ℕ} (h : key ∈ positionKeys p) : ∃ rest : Text,
    rest.head?.all (! ·.isDigit) = true ∧
      key.toList = "gpu.sample.".toList ++ (numeral p ++ rest) := by
  have hposition : ("gpu.sample." ++ toString p).toList = "gpu.sample.".toList ++ numeral p := by
    rw [String.toList_append]
    exact congrArg ("gpu.sample.".toList ++ ·) String.toList_ofList
  rcases List.mem_cons.1 h with rfl | h
  · exact ⟨[], rfl, by rw [List.append_nil]; exact hposition⟩
  · refine ⟨".index".toList, rfl, ?_⟩
    rw [List.mem_singleton.1 h]
    show ("gpu.sample." ++ toString p ++ ".index").toList = _
    rw [String.toList_append, hposition, List.append_assoc]

theorem positionKeys_unique {p q : ℕ} (h : key ∈ positionKeys p) (h' : key ∈ positionKeys q) :
    p = q := by
  obtain ⟨rest, hrest, hk⟩ := positionKeys_toList h
  obtain ⟨rest', hrest', hk'⟩ := positionKeys_toList h'
  exact numeral_append_cancel hrest hrest' (List.append_cancel_left (hk.symm.trans hk'))

/-- The key of a field goes on with a digit, that of a position does not. -/
theorem gpuKey_ne_positionKeys {p : ℕ} (hi : 0 ≤ i) (f : GpuField) (h : key ∈ positionKeys p) :
    gpuKey i f ≠ key := by
  rintro rfl
  obtain ⟨rest, -, hk⟩ := positionKeys_toList h
  obtain ⟨c, hc, hdigit⟩ := fieldKey_digit hi f.name
  have hgpu : gpuKey i f = fieldKey i f.name := rfl
  rw [← hgpu, hk] at hc
  cases hc
  cases hdigit

theorem rejection_mem {p : ℕ} {seen : List ℤ} {v : Option GpuRow} {reason : String}
    (h : rejection p seen v = some (key, reason)) : key ∈ positionKeys p := by
  cases v with
  | none =>
    cases h
    exact List.mem_cons_self
  | some row =>
    simp only [rejection] at h
    split at h
    · cases h
      exact .tail _ List.mem_cons_self
    · split_ifs at h
      cases h
      exact .tail _ List.mem_cons_self

/-! ## The loop -/

theorem getElem?_gpuMeasurements {fs : List GpuField} {m : GpuField → Measurement Number}
    {r r' : Dict String} (h : gpuMeasurements i row fs r = .ok (m, r'))
    (hkey : ∀ f, gpuKey i f ≠ key) : r'[key]? = r[key]? := by
  induction fs generalizing m r with
  | nil =>
    cases pure_eq_ok.1 h
    rfl
  | cons f fs ih =>
    simp only [gpuMeasurements, bind_eq_ok] at h
    obtain ⟨v, -, x, -, r₁, hr₁, ⟨rest, r₂⟩, hrest, h⟩ := h
    obtain ⟨rfl, rfl⟩ := Prod.mk.inj (pure_eq_ok.1 h)
    rw [ih hrest]
    cases x with
    | some x =>
      cases hr₁
      rfl
    | none =>
      obtain ⟨text, htext, hr₁⟩ := bind_eq_ok.1 hr₁
      cases intText_ok htext
      cases hr₁
      exact Dict.getElem?_setdefault_of_ne _ _ (hkey f)

/-- One turn notes the rejection of its own position. -/
theorem normalizeGpuValue_rejection {p : ℕ} {v : Option GpuRow} {n n' : List (GpuSample Number)}
    {r r' : Dict String} (h : normalizeGpuValue p v n r = .ok (n', r')) {q : ℕ}
    (hkey : key ∈ positionKeys q) :
    r'[key]? = (noted (rejection p (n.map GpuSample.index) v) r)[key]? := by
  cases v with
  | none =>
    cases pure_eq_ok.1 h
    rfl
  | some row =>
    simp only [normalizeGpuValue, bind_eq_ok] at h
    obtain ⟨o, ho, h⟩ := h
    simp only [rejection, rowIndex_of_ok ho]
    cases hi : validIndex o with
    | none =>
      rw [hi] at h
      cases pure_eq_ok.1 h
      rfl
    | some i =>
      simp only [hi] at h
      have hany : (n.any fun r => r.index = i) = true ↔ i ∈ n.map GpuSample.index := by
        simp
      split_ifs at h with hdup
      · cases pure_eq_ok.1 h
        simp only [if_pos (hany.1 hdup)]
        rfl
      · obtain ⟨⟨s, r₁⟩, hs, h⟩ := bind_eq_ok.1 h
        cases pure_eq_ok.1 h
        simp only [if_neg (fun hmem => hdup (hany.2 hmem)), noted]
        simp only [normalizeGpuRow, bind_eq_ok] at hs
        obtain ⟨⟨m, r₂⟩, hm, u, -, t, -, a, -, hs⟩ := hs
        cases pure_eq_ok.1 hs
        have hpos : 0 ≤ i := rowIndex_nonneg ((rowIndex_of_ok ho).trans hi)
        exact getElem?_gpuMeasurements hm fun f => gpuKey_ne_positionKeys hpos f hkey

theorem rejection_congr {p : ℕ} {seen seen' : List ℤ} (h : ∀ i, i ∈ seen ↔ i ∈ seen')
    (v : Option GpuRow) : rejection p seen v = rejection p seen' v := by
  cases v with
  | none => rfl
  | some row => simp only [rejection, h]

theorem getElem?_noted_congr (x : Option (String × String)) {r r' : Dict String}
    (h : r[key]? = r'[key]?) : (noted x r)[key]? = (noted x r')[key]? := by
  cases x with
  | none => exact h
  | some e => rw [noted, noted, Dict.getElem?_set, Dict.getElem?_set, h]

theorem getElem?_noted_of_ne {p q : ℕ} {seen : List ℤ} {v : Option GpuRow} (r : Dict String)
    (hkey : key ∈ positionKeys q) (hne : p ≠ q) :
    (noted (rejection p seen v) r)[key]? = r[key]? := by
  cases hv : rejection p seen v with
  | none => rfl
  | some e =>
    obtain ⟨a, reason⟩ := e
    refine Dict.getElem?_set_of_ne _ _ ?_
    rintro rfl
    exact hne (positionKeys_unique (rejection_mem hv) hkey)

/-- The indices kept after a turn, with those before it. -/
theorem Admit.mem_index {n n' : List (GpuSample Number)} {v : Option GpuRow} (h : Admit n v n') :
    i ∈ n'.map GpuSample.index ↔ i ∈ n.map GpuSample.index ∨ rowIndex v = some i := by
  have hnone (m : List (GpuSample Number)) :
      (∀ r ∈ m, r.index ≠ i) ↔ i ∉ m.map GpuSample.index := by
    simp
  rw [← not_iff_not, not_or, ← hnone, ← hnone]
  exact h.index_iff i

/-- The loop notes the rejections of its positions, and no other position. -/
theorem normalizeGpuValues_rejection {p : ℕ} {n n' : List (GpuSample Number)} {r r' : Dict String}
    (h : normalizeGpuValues p vs n r = .ok (n', r')) {q : ℕ} (hkey : key ∈ positionKeys q) :
    (q < p → r'[key]? = r[key]?) ∧ ∀ j, q = p + j → r'[key]? = (noted (vs[j]?.bind
      (rejection q (n.map GpuSample.index ++ (vs.take j).filterMap rowIndex))) r)[key]? := by
  induction vs generalizing p n r with
  | nil =>
    cases pure_eq_ok.1 h
    exact ⟨fun _ => rfl, fun j _ => rfl⟩
  | cons v vs ih =>
    obtain ⟨⟨n₁, r₁⟩, hturn, hrest⟩ := bind_eq_ok.1 h
    obtain ⟨hbefore, hafter⟩ := ih hrest
    have hadmit : Admit n v n₁ := normalizeGpuValue_ok.1 ⟨r₁, hturn⟩
    have hr₁ := normalizeGpuValue_rejection hturn hkey
    refine ⟨fun hq => ?_, fun j hj => ?_⟩
    · rw [hbefore (by omega), hr₁, getElem?_noted_of_ne r hkey (by omega)]
    · cases j with
      | zero =>
        have hpq : q = p := by omega
        subst hpq
        rw [hbefore (by omega), hr₁]
        simp
      | succ j =>
        have hother : r₁[key]? = r[key]? := by
          rw [hr₁, getElem?_noted_of_ne r hkey (by omega)]
        have hseen (w : Option GpuRow) :
            rejection q (n₁.map GpuSample.index ++ (vs.take j).filterMap rowIndex) w =
              rejection q
                (n.map GpuSample.index ++ ((v :: vs).take (j + 1)).filterMap rowIndex) w := by
          refine rejection_congr (fun i => ?_) w
          rw [List.mem_append, hadmit.mem_index, List.mem_append, List.take_succ_cons,
            List.mem_filterMap, List.mem_filterMap, List.exists_mem_cons_iff, or_assoc]
        rw [hafter j (by omega), List.getElem?_cons_succ, funext hseen]
        exact getElem?_noted_congr _ hother

theorem normalizeGpuSamples_rejection {xs : List (GpuSample Number)} {r r' : Dict String}
    (h : normalizeGpuSamples vs r = .ok (xs, r')) {j : ℕ} (hkey : key ∈ positionKeys j) :
    r'[key]? = (noted (rejectionAt vs j) r)[key]? := by
  obtain ⟨⟨n, r₁⟩, hn, hsort⟩ := bind_eq_ok.1 h
  cases pure_eq_ok.1 hsort
  have := (normalizeGpuValues_rejection hn hkey).2 j (Nat.zero_add j).symm
  simpa [rejectionAt] using this

/-! ## The rows -/

/-- The rows of a result are the first rows of their indices. -/
theorem mem_normalizeGpuSamples {xs : List (GpuSample Number)} {r r' : Dict String}
    (h : normalizeGpuSamples vs r = .ok (xs, r')) (s : GpuSample Number) :
    s ∈ xs ↔ ∃ row, owner s.index vs = some row ∧ RowOf s.index row s := by
  obtain ⟨n, hn, rfl⟩ := normalizeGpuSamples_ok.1 ⟨r', h⟩
  rw [List.mem_insertionSort, hn.mem]
  simp

theorem sorted_normalizeGpuSamples {xs : List (GpuSample Number)} {r r' : Dict String}
    (h : normalizeGpuSamples vs r = .ok (xs, r')) : xs.Pairwise fun a b => a.index < b.index := by
  obtain ⟨n, hn, rfl⟩ := normalizeGpuSamples_ok.1 ⟨r', h⟩
  exact pairwise_insertionSort_lt _ (hn.distinct .nil)

theorem returns_normalizeGpuSamples (h : ∀ row, some row ∈ vs → Stored row) (r : Dict String) :
    ∃ xs r', normalizeGpuSamples vs r = .ok (xs, r') := by
  obtain ⟨n, hn⟩ := exists_loop.2 (rowsNormalizable_of_stored h)
  obtain ⟨r', hr'⟩ := normalizeGpuSamples_ok.2 ⟨n, hn, rfl⟩
  exact ⟨_, r', hr'⟩

/-- A list of rows in this order is determined by its members. -/
instance : Std.Irrefl fun a b : GpuSample Number => a.index < b.index := ⟨fun _ => lt_irrefl _⟩

instance : Std.Antisymm fun a b : GpuSample Number => a.index < b.index :=
  ⟨fun _ _ hab hba => absurd hba (lt_asymm hab)⟩

/-! ## Removing rejected positions -/

theorem owner_filter {keep : ℕ → Bool} {p : ℕ} {seen : List ℤ} (hseen : i ∉ seen)
    (hkeep : ∀ j < vs.length, vs[j]?.bind (rejection (p + j)
      (seen ++ (vs.take j).filterMap rowIndex)) = none → keep (p + j) = true) :
    owner i (((vs.zipIdx p).filter fun e => keep e.2).map Prod.fst) = owner i vs := by
  induction vs generalizing p seen with
  | nil => rfl
  | cons v vs ih =>
    have hrest (hv : rowIndex v ≠ some i) :
        owner i (((vs.zipIdx (p + 1)).filter fun e => keep e.2).map Prod.fst) = owner i vs := by
      have hseen' : i ∉ seen ++ (rowIndex v).toList := by simpa [hseen] using hv
      refine ih hseen' fun j hj hnone => ?_
      have hsame : p + 1 + j = p + (j + 1) := by omega
      rw [hsame] at hnone ⊢
      refine hkeep (j + 1) (Nat.succ_lt_succ hj) ?_
      rw [List.getElem?_cons_succ, List.take_succ_cons]
      cases hv : rowIndex v with
      | none => simpa [hv, List.filterMap_cons] using hnone
      | some i => simpa [hv, List.filterMap_cons] using hnone
    rw [List.zipIdx_cons]
    cases hp : keep p with
    | true =>
      rw [List.filter_cons_of_pos (by exact hp), List.map_cons]
      by_cases hv : rowIndex v = some i
      · cases v with
        | none => cases hv
        | some row => rw [owner_cons_of_eq hv, owner_cons_of_eq hv]
      · rw [owner_cons_of_ne hv, owner_cons_of_ne hv]
        exact hrest hv
    | false =>
      have hv : rowIndex v ≠ some i := by
        intro hi
        have hnone : rejection p seen v = none := by
          cases v with
          | none => cases hi
          | some row => simp only [rejection, hi, if_neg hseen]
        have := hkeep 0 (Nat.succ_pos _) (by simpa using hnone)
        rw [Nat.add_zero, hp] at this
        cases this
      rw [List.filter_cons_of_neg (by simp [hp]), owner_cons_of_ne hv]
      exact hrest hv

/-- The elements at the positions that are kept. -/
def keptElements (keep : ℕ → Bool) (vs : List (Option GpuRow)) : List (Option GpuRow) :=
  (vs.zipIdx.filter fun e => keep e.2).map Prod.fst

theorem mem_of_mem_keptElements {keep : ℕ → Bool} {v : Option GpuRow}
    (h : v ∈ keptElements keep vs) : v ∈ vs := by
  obtain ⟨e, he, rfl⟩ := List.mem_map.1 h
  exact List.fst_mem_of_mem_zipIdx (List.mem_of_mem_filter he)

theorem normalizeGpuSamples_keptElements {keep : ℕ → Bool} {xs : List (GpuSample Number)}
    {r r' : Dict String} (hstored : ∀ row, some row ∈ vs → Stored row)
    (h : normalizeGpuSamples vs r = .ok (xs, r'))
    (hkeep : ∀ j < vs.length, rejectionAt vs j = none → keep j = true) (q : Dict String) :
    ∃ q', normalizeGpuSamples (keptElements keep vs) q = .ok (xs, q') := by
  obtain ⟨ys, q', hq⟩ := returns_normalizeGpuSamples
    (fun row hrow => hstored row (mem_of_mem_keptElements hrow)) q
  have howner (i : ℤ) : owner i (keptElements keep vs) = owner i vs :=
    owner_filter (p := 0) (List.not_mem_nil (a := i)) fun j hj hnone => by
      rw [Nat.zero_add] at hnone ⊢
      exact hkeep j hj hnone
  have heq : xs = ys := by
    refine (sorted_normalizeGpuSamples h).eq_of_mem_iff (sorted_normalizeGpuSamples hq) fun s => ?_
    rw [mem_normalizeGpuSamples h, mem_normalizeGpuSamples hq, howner]
  exact ⟨q', heq ▸ hq⟩

/-! ## Normalizing the rows again -/

theorem nonEmptyText_str {o : Obj} {text : String} (h : nonEmptyText o = some text) :
    nonEmptyText (.str text) = some text := by
  cases o with
  | str s =>
    have hne := h
    rw [nonEmptyText] at h
    split_ifs at h
    cases h
    exact hne
  | _ => cases h

theorem RowOf.again {s : GpuSample Number} (h : RowOf i row s) (hstored : Stored row) :
    RowOf s.index s.row s where
  index := rfl
  measurement f := by
    cases hm : s.measurement f with
    | none =>
      simp only [GpuRow.field, GpuSample.row, hm, measured, ok_bind]
      rfl
    | some x =>
      obtain ⟨v, hv, hfits⟩ := hstored.measurement f
      have hfield := h.measurement f
      rw [GpuRow.field, hv, ok_bind, hm] at hfield
      obtain ⟨rfl, q, hq, hlo, hhi⟩ := number_eq_some hfield
      simp only [GpuRow.field, GpuSample.row, hm, measured, ok_bind]
      exact number_num hq hlo hhi hfits
  printable f hf := h.index ▸ h.printable f hf
  uuid := by
    obtain ⟨u, -, hu⟩ := map_eq_ok.1 h.uuid
    show Except.ok (nonEmptyText (textOrNone s.uuid)) = _
    refine congrArg Except.ok ?_
    cases ht : s.uuid with
    | none => rfl
    | some text =>
      exact nonEmptyText_str (hu.trans ht)
  throttleReasons := by
    show Except.ok ((s.throttleReasons.map Obj.str).filterMap nonEmptyText) = _
    refine congrArg Except.ok ?_
    rw [List.filterMap_map]
    refine (List.filterMap_congr fun reason hreason => ?_).trans List.filterMap_some
    exact if_pos (h.nonempty_reason reason hreason)
  available := by
    show Except.ok (decide (Obj.bool s.throttleReasonsAvailable = .bool true)) = _
    simp

theorem admitAll_rows {n xs : List (GpuSample Number)}
    (hrow : ∀ s ∈ xs, RowOf s.index s.row s ∧ 0 ≤ s.index)
    (hdistinct : (n ++ xs).Pairwise fun a b => a.index ≠ b.index) :
    AdmitAll n (xs.map fun s => some s.row) (n ++ xs) := by
  induction xs generalizing n with
  | nil =>
    rw [List.append_nil]
    exact .nil
  | cons s xs ih =>
    obtain ⟨⟨hs, hpos⟩, hxs⟩ := List.forall_mem_cons.1 hrow
    have hvalid : validIndex (.num (.int s.index)) = some s.index := if_neg (by omega)
    have hnew : ∀ r ∈ n, r.index ≠ s.index := fun r hr =>
      (List.pairwise_append.1 hdistinct).2.2 r hr s List.mem_cons_self
    have hsplit : n ++ s :: xs = n ++ [s] ++ xs := by simp
    rw [hsplit] at hdistinct ⊢
    exact .cons (.row rfl hvalid hnew hs) (ih hxs hdistinct)

theorem rejectionAt_rows {xs : List (GpuSample Number)} (hpos : ∀ s ∈ xs, 0 ≤ s.index)
    (hsorted : xs.Pairwise fun a b => a.index < b.index) (j : ℕ) :
    rejectionAt (xs.map fun s => some s.row) j = none := by
  have hindex (s : GpuSample Number) (hs : 0 ≤ s.index) : rowIndex (some s.row) = some s.index :=
    rowIndex_eq_some.2 ⟨hs, rfl⟩
  rw [rejectionAt, List.getElem?_map, Option.bind_eq_none_iff]
  intro v hv
  obtain ⟨s, hs, rfl⟩ := Option.map_eq_some_iff.1 hv
  simp only [rejection, hindex s (hpos s (List.mem_of_getElem? hs))]
  refine if_neg fun hmem => ?_
  obtain ⟨w, hw, hi⟩ := List.mem_filterMap.1 hmem
  rw [← List.map_take] at hw
  obtain ⟨t, ht, rfl⟩ := List.mem_map.1 hw
  have hlater : s ∈ xs.drop j := by
    refine List.mem_of_getElem? (i := 0) ?_
    rw [List.getElem?_drop]
    exact hs
  rw [← List.take_append_drop j xs] at hsorted
  have hlt := (List.pairwise_append.1 hsorted).2.2 t ht s hlater
  have heq : t.index = s.index :=
    Option.some.inj ((hindex t (hpos t (List.mem_of_mem_take ht))).symm.trans hi)
  omega

/-- Normalizing rows that are normal, with indices in order, leaves them. -/
theorem normalizeGpuSamples_rows {xs : List (GpuSample Number)}
    (hrow : ∀ s ∈ xs, RowOf s.index s.row s ∧ 0 ≤ s.index)
    (hsorted : xs.Pairwise fun a b => a.index < b.index) (q : Dict String) :
    ∃ q', normalizeGpuSamples (xs.map fun s => some s.row) q = .ok (xs, q') ∧
      ∀ j, ∀ key ∈ positionKeys j, q'[key]? = q[key]? := by
  have hadmit := admitAll_rows (n := []) hrow (hsorted.imp fun h => h.ne)
  obtain ⟨q', hq'⟩ := (normalizeGpuSamples_ok (r := q)).2 ⟨xs, hadmit, rfl⟩
  have hsort : xs.insertionSort (fun a b => a.index ≤ b.index) = xs :=
    (hsorted.imp fun h => h.le).insertionSort_eq
  rw [hsort] at hq'
  refine ⟨q', hq', fun j key hkey => ?_⟩
  rw [normalizeGpuSamples_rejection hq' hkey,
    rejectionAt_rows (fun s hs => (hrow s hs).2) hsorted]
  rfl

/-! ## The result -/

/-- What becomes of a position: the origin of one row, or one reason. -/
def Settled (vs : List (Option GpuRow)) (r : Dict String) (xs : List (GpuSample Number))
    (r' : Dict String) (j : ℕ) : Prop :=
  match rejectionAt vs j with
  | none => (∃! s, s ∈ xs ∧ Origin vs s j) ∧ ∀ key ∈ positionKeys j, r'[key]? = r[key]?
  | some (key, reason) => (∀ s ∈ xs, ¬ Origin vs s j) ∧ key ∈ positionKeys j ∧
      r'[key]? = some reason ∧ ∀ k ∈ positionKeys j, k ≠ key → r'[k]? = r[k]?

/-- A position is accepted if it is a row with a new index. -/
theorem rejectionAt_eq_none {j : ℕ} {v : Option GpuRow} (hv : vs[j]? = some v) :
    rejectionAt vs j = none ↔
      ∃ i, rowIndex v = some i ∧ ∀ k < j, vs[k]?.bind rowIndex ≠ some i := by
  have hseen (i : ℤ) : i ∉ (vs.take j).filterMap rowIndex ↔
      ∀ k < j, vs[k]?.bind rowIndex ≠ some i := by
    rw [List.mem_filterMap]
    constructor
    · intro h k hk hi
      obtain ⟨w, hw, hi⟩ := Option.bind_eq_some_iff.1 hi
      refine h ⟨w, List.mem_of_getElem? (i := k) ?_, hi⟩
      rw [List.getElem?_take_of_lt hk, hw]
    · rintro h ⟨w, hw, hi⟩
      obtain ⟨k, hk, hget⟩ := List.mem_take_iff_getElem.1 hw
      refine h k (by omega) ?_
      rw [List.getElem?_eq_getElem (by omega), hget]
      exact hi
  rw [rejectionAt, hv, Option.bind_some]
  cases v with
  | none => simp [rejection, rowIndex]
  | some row =>
    cases hi : rowIndex (some row) with
    | none => simp [rejection, hi]
    | some i => simp [rejection, hi, ← hseen]

/-- The rows and the diagnostics that the normalization of these elements gives. -/
structure FirstRows (vs : List (Option GpuRow)) (r : Dict String) (xs : List (GpuSample Number))
    (r' : Dict String) : Prop where
  sorted : xs.Pairwise fun a b => a.index < b.index
  index : ∀ i, (∃ s ∈ xs, s.index = i) ↔
    0 ≤ i ∧ ∃ row, some row ∈ vs ∧ row.index = .ok (.num (.int i))
  origin : ∀ s ∈ xs, ∃ j, Origin vs s j
  position : ∀ j < vs.length, Settled vs r xs r' j

theorem origin_of_owner {s : GpuSample Number} (hstored : ∀ row, some row ∈ vs → Stored row)
    (howner : owner s.index vs = some row) (hs : RowOf s.index row s) : ∃ j, Origin vs s j := by
  obtain ⟨j, hj, hi, hfirst⟩ := owner_eq_some_iff.1 howner
  exact ⟨j, ⟨row, hj, hs.normalized hi (hstored row (List.mem_of_getElem? hj))⟩, hfirst⟩

/-- An accepted position is the origin of one row. -/
theorem existsUnique_origin {xs : List (GpuSample Number)} {r r' : Dict String}
    (hstored : ∀ row, some row ∈ vs → Stored row)
    (h : normalizeGpuSamples vs r = .ok (xs, r')) {j : ℕ} (hj : j < vs.length)
    (haccepted : rejectionAt vs j = none) : ∃! s, s ∈ xs ∧ Origin vs s j := by
  have hv : vs[j]? = some vs[j] := List.getElem?_eq_getElem hj
  obtain ⟨i, hi, hfirst⟩ := (rejectionAt_eq_none hv).1 haccepted
  obtain ⟨row, hrow⟩ : ∃ row, vs[j] = some row := by
    cases hvj : vs[j] with
    | none =>
      rw [hvj] at hi
      cases hi
    | some row => exact ⟨row, rfl⟩
  rw [hrow] at hv hi
  have howner : owner i vs = some row := owner_eq_some_iff.2 ⟨j, hv, hi, hfirst⟩
  have hrowStored := hstored row (List.mem_of_getElem? hv)
  obtain ⟨s, hs⟩ := exists_rowOf.2 (hrowStored.normalizable hi)
  obtain rfl := hs.index
  refine ⟨s, ⟨(mem_normalizeGpuSamples h s).2 ⟨row, howner, hs⟩,
    ⟨row, hv, hs.normalized hi hrowStored⟩, hfirst⟩, ?_⟩
  rintro t ⟨ht, ⟨row', hv', hnormal⟩, -⟩
  cases Option.some.inj (Option.some.inj (hv.symm.trans hv'))
  have hindex : t.index = s.index := by
    have heq := hnormal.index.symm.trans (rowIndex_eq_some.1 hi).2
    simpa using heq
  obtain ⟨row'', howner', ht'⟩ := (mem_normalizeGpuSamples h t).1 ht
  rw [hindex, howner] at howner'
  cases howner'
  exact (hindex ▸ ht').unique hs

/-- A rejected position is the origin of no row. -/
theorem not_origin_of_rejected {xs : List (GpuSample Number)} {r r' : Dict String}
    (h : normalizeGpuSamples vs r = .ok (xs, r')) {s : GpuSample Number} (hs : s ∈ xs) {j : ℕ}
    {e : String × String} (hrejected : rejectionAt vs j = some e) : ¬ Origin vs s j := by
  rintro ⟨⟨row, hrow, hnormal⟩, hfirst⟩
  obtain ⟨row', howner, -⟩ := (mem_normalizeGpuSamples h s).1 hs
  have hpos := rowIndex_nonneg (owner_eq_some howner).2
  have hnone := (rejectionAt_eq_none hrow).2
    ⟨s.index, rowIndex_eq_some.2 ⟨hpos, hnormal.index⟩, hfirst⟩
  rw [hrejected] at hnone
  cases hnone

theorem firstRows_of_ok {xs : List (GpuSample Number)} {r r' : Dict String}
    (hstored : ∀ row, some row ∈ vs → Stored row)
    (h : normalizeGpuSamples vs r = .ok (xs, r')) : FirstRows vs r xs r' where
  sorted := sorted_normalizeGpuSamples h
  index i := by
    constructor
    · rintro ⟨s, hs, rfl⟩
      obtain ⟨row, howner, -⟩ := (mem_normalizeGpuSamples h s).1 hs
      obtain ⟨hmem, hi⟩ := owner_eq_some howner
      exact ⟨(rowIndex_eq_some.1 hi).1, row, hmem, (rowIndex_eq_some.1 hi).2⟩
    · rintro ⟨hi, row, hmem, hrow⟩
      obtain ⟨first, howner⟩ := exists_owner ⟨_, hmem, rowIndex_eq_some.2 ⟨hi, hrow⟩⟩
      obtain ⟨hfirst, hindex⟩ := owner_eq_some howner
      obtain ⟨s, hs⟩ := exists_rowOf.2 ((hstored first hfirst).normalizable hindex)
      refine ⟨s, (mem_normalizeGpuSamples h s).2 ⟨first, ?_, ?_⟩, hs.index⟩
      · rwa [hs.index]
      · rwa [hs.index]
  origin s hs := by
    obtain ⟨row, howner, hrow⟩ := (mem_normalizeGpuSamples h s).1 hs
    exact origin_of_owner hstored howner hrow
  position j hj := by
    have hkeys {key : String} := @normalizeGpuSamples_rejection vs key xs r r' h j
    unfold Settled
    cases hrej : rejectionAt vs j with
    | none =>
      refine ⟨existsUnique_origin hstored h hj hrej, fun key hkey => ?_⟩
      rw [hkeys hkey, hrej]
      rfl
    | some e =>
      obtain ⟨key, reason⟩ := e
      obtain ⟨v, -, hkey⟩ := Option.bind_eq_some_iff.1 hrej
      have hmem := rejection_mem hkey
      refine ⟨fun s hs => not_origin_of_rejected h hs hrej, hmem, ?_, fun k hk hne => ?_⟩
      · rw [hkeys hmem, hrej, noted, Dict.getElem?_set, if_pos rfl]
      · rw [hkeys hk, hrej, noted, Dict.getElem?_set_of_ne _ _ hne.symm]

/-- **The first valid row of each device is kept.** -/
theorem gpu_rows_normalized (vs : List (Option GpuRow)) (r : Dict String)
    (hstored : ∀ row, some row ∈ vs → Stored row) :
    ∃ xs r', normalizeGpuSamples vs r = .ok (xs, r') ∧ FirstRows vs r xs r' ∧
      (∀ keep : ℕ → Bool, (∀ j < vs.length, rejectionAt vs j = none → keep j = true) →
        ∀ q, ∃ q', normalizeGpuSamples (keptElements keep vs) q = .ok (xs, q')) ∧
      ∀ q, ∃ q', normalizeGpuSamples (xs.map fun s => some s.row) q = .ok (xs, q') ∧
        ∀ j, ∀ key ∈ positionKeys j, q'[key]? = q[key]? := by
  obtain ⟨xs, r', h⟩ := returns_normalizeGpuSamples hstored r
  refine ⟨xs, r', h, firstRows_of_ok hstored h, fun keep hkeep q =>
    normalizeGpuSamples_keptElements hstored h hkeep q, fun q => ?_⟩
  refine normalizeGpuSamples_rows (fun s hs => ?_) (sorted_normalizeGpuSamples h) q
  obtain ⟨row, howner, hrow⟩ := (mem_normalizeGpuSamples h s).1 hs
  obtain ⟨hmem, hi⟩ := owner_eq_some howner
  exact ⟨hrow.again (hstored row hmem), rowIndex_nonneg hi⟩

/-- A sample with only a temperature. -/
def warmRow (index : Obj) (celsius : ℚ) : GpuRow where
  index := .ok index
  uuid := .ok .none
  measurement
    | .temperatureC => .ok (.num (.float (.finite celsius)))
    | _ => .ok .unsupported
  throttleReasons := .ok [.str "", .str "thermal"]
  throttleReasonsAvailable := .ok (.bool true)

theorem stored_warmRow {index : Obj} (h : Fits index) (celsius : ℚ) :
    Stored (warmRow index celsius) where
  index := ⟨index, rfl, h⟩
  measurement f := by
    cases f <;> exact ⟨_, rfl, trivial⟩
  uuid := ⟨_, rfl⟩
  throttleReasons := ⟨_, rfl⟩
  available := ⟨_, rfl⟩

theorem gpu_rows_normalized_duplicate : ∃ xs r',
    normalizeGpuSamples [some (warmRow (.num (.int 1)) 60), none, some (warmRow (.bool true) 50),
      some (warmRow (.num (.int 1)) 70), some (warmRow (.num (.int 0)) 40)] ∅ = .ok (xs, r') ∧
    FirstRows [some (warmRow (.num (.int 1)) 60), none, some (warmRow (.bool true) 50),
      some (warmRow (.num (.int 1)) 70), some (warmRow (.num (.int 0)) 40)] ∅ xs r' := by
  have hone : Fits (.num (.int 1)) := by
    show 1 < doubleLimit
    decide +kernel
  have hzero : Fits (.num (.int 0)) := by
    show 0 < doubleLimit
    decide +kernel
  have hbool : Fits (.bool true) := trivial
  refine (gpu_rows_normalized _ ∅ ?_).imp fun xs h => h.imp fun r' h => ⟨h.1, h.2.1⟩
  intro row hrow
  simp only [List.mem_cons, Option.some.injEq, List.not_mem_nil, or_false, reduceCtorEq,
    false_or] at hrow
  rcases hrow with rfl | rfl | rfl | rfl
  · exact stored_warmRow hone 60
  · exact stored_warmRow hbool 50
  · exact stored_warmRow hone 70
  · exact stored_warmRow hzero 40

end SweatMeter
