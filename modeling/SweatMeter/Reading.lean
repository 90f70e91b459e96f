/-
  What `collect` computes, field by field.

  Each live measurement is a function of the operation that feeds it, and the GPU
  rows are a function of what `sample` returned; the diagnostics are threaded
  through all of them but decide nothing else (`Collected`, `returns_collect`).
-/
import SweatMeter.Collector

namespace SweatMeter

open Py

/-! ## One boundary read -/

section Read

variable {T : Type}

/-- The value `read` goes on with. -/
def readValue (fn : Except Exn T) (default : T) : T :=
  match fn with
  | .ok value => value
  | .error _ => default

/-- The diagnostics `read` goes on with. -/
def readNote (fn : Except Exn T) (fields : List String) (reasons : Dict String) : Dict String :=
  match fn with
  | .ok _ => reasons
  | .error _ => fields.foldl (fun r f => r.set f "reader_error") reasons

theorem read_eq (fn : Except Exn T) (default : T) (fields : List String) (reasons : Dict String) :
    read fn default fields reasons = (readValue fn default, readNote fn fields reasons) := by
  cases fn <;> rfl

/-- The diagnostics `orMalformed` goes on with. -/
def malformedNote (value : Option T) (fields : List String) (reasons : Dict String) : Dict String :=
  match value with
  | some _ => reasons
  | none => fields.foldl (fun r f => r.set f "malformed_reading") reasons

theorem orMalformed_eq (value : Option T) (default : T) (fields : List String)
    (reasons : Dict String) :
    orMalformed value default fields reasons =
      (value.getD default, malformedNote value fields reasons) := by
  cases value <;> rfl

end Read

/-! ## Host measurements -/

/-- The value that is normalized into a live field. -/
def HostReader.value (h : HostReader) (f : HostField) : Except Exn Obj :=
  let memory := (readValue h.memory (some emptyMemory)).getD emptyMemory
  let disk := (readValue h.diskThroughput (some emptyDisk)).getD emptyDisk
  match f with
  | .cpuPercent => .ok (readValue h.cpuPercent .unsupported)
  | .loadAverage1m => .ok (readValue h.loadAverage1m .unsupported)
  | .ramUsedBytes => memory.usedBytes
  | .ramAvailableBytes => memory.availableBytes
  | .ramTotalBytes => memory.totalBytes
  | .cpuTemperatureC => .ok (readValue h.cpuTemperature .unsupported)
  | .diskReadBytesPerSec => disk.readBytesPerSec
  | .diskWriteBytesPerSec => disk.writeBytesPerSec
  | .processRssBytes => .ok (readValue h.processRssBytes .unsupported)

/-- The least value of a live field. -/
def HostField.minimum : HostField → ℚ
  | cpuTemperatureC => -27315 / 100
  | _ => 0

/-- The greatest value of a live field. -/
def HostField.maximum : HostField → Option ℚ
  | cpuPercent => some 100
  | _ => none

/-- The live measurement of a field. -/
def HostReader.measurement (h : HostReader) (f : HostField) : Except Exn (Measurement Number) := do
  number (← h.value f) f.minimum f.maximum

theorem returns_number {value : Obj} {lo : ℚ} {hi : Option ℚ} :
    Returns (number value lo hi) ↔ Fits value := by
  cases value with
  | num x =>
    rw [← returns_isfinite]
    refine returns_bind_of ?_
    intro fin
    split_ifs <;> exact returns_ok _
  | _ => exact iff_of_true (returns_ok _) trivial

/-- What a normalized measurement is. -/
theorem number_eq_some {value : Obj} {lo : ℚ} {hi : Option ℚ} {x : Number}
    (h : number value lo hi = .ok (some x)) :
    value = .num x ∧ ∃ q, x.toRat = some q ∧ lo ≤ q ∧ ∀ m ∈ hi, q ≤ m := by
  cases value with
  | num y =>
    simp only [number, bind_eq_ok] at h
    obtain ⟨fin, hfin, h⟩ := h
    cases fin with
    | false => cases h
    | true =>
      obtain ⟨q, hq⟩ := Number.toRat_of_isfinite hfin
      simp only [Bool.not_true, Bool.false_eq_true, ↓reduceIte] at h
      split_ifs at h with hlo hhi
      · cases h
      · cases h
      · cases h
        rw [Number.ltRat_eq hq] at hlo
        refine ⟨rfl, q, hq, by simpa using hlo, ?_⟩
        intro m hm
        have := (Option.any_eq_false _ _).1 (by simpa using hhi) m hm
        simpa [Number.gtRat_eq hq] using this
  | _ => cases h

/-- A finite number within the range is kept. -/
theorem number_num {x : Number} {lo : ℚ} {hi : Option ℚ} {q : ℚ} (hq : x.toRat = some q)
    (hlo : lo ≤ q) (hhi : ∀ b ∈ hi, q ≤ b) (hfits : Fits (.num x)) :
    number (.num x) lo hi = .ok (some x) := by
  obtain ⟨fin, hfin⟩ := returns_isfinite.2 hfits
  have htrue : fin = true := by
    cases x with
    | int k =>
      simp only [Number.isfinite] at hfin
      split_ifs at hfin
      cases hfin
      rfl
    | float d => cases d <;> cases hq; cases hfin; rfl
  subst htrue
  have hnotlt : ¬ x.ltRat lo = true := by
    rw [Number.ltRat_eq hq]
    simpa using hlo
  have hnotgt : ¬ hi.any x.gtRat = true := by
    rw [Option.any_eq_true]
    rintro ⟨b, hb, hgt⟩
    rw [Number.gtRat_eq hq] at hgt
    exact absurd (hhi b hb) (by simpa using hgt)
  simp only [number, hfin, ok_bind, Bool.not_true, hnotlt, hnotgt]
  rfl

/-! ## GPU rows -/

/-- The normalized field of a row. -/
def GpuRow.field (row : GpuRow) (f : GpuField) : Except Exn (Measurement Number) := do
  number (← row.measurement f) f.minimum f.maximum

/-- The sample is the normal form of the row. -/
structure RowOf (i : ℤ) (row : GpuRow) (s : GpuSample Number) : Prop where
  index : s.index = i
  measurement : ∀ f, row.field f = .ok (s.measurement f)
  printable : ∀ f, s.measurement f = none → Printable i
  uuid : row.uuid.map nonEmptyText = .ok s.uuid
  throttleReasons : row.throttleReasons.map (List.filterMap nonEmptyText) = .ok s.throttleReasons
  available :
    row.throttleReasonsAvailable.map (fun a => decide (a = .bool true)) =
      .ok s.throttleReasonsAvailable

theorem noteUnsupported_ok {index : ℤ} {f : GpuField} {m : Measurement Number} {r : Dict String} :
    Returns (noteUnsupported index f m r) ↔ (m = none → Printable index) := by
  cases m with
  | some x => exact iff_of_true (returns_ok _) (by simp)
  | none =>
    simp only [noteUnsupported, Option.isSome_none, Bool.false_eq_true, ↓reduceIte, forall_const]
    rw [returns_bind_of fun _ => returns_pure _, returns_intText]

theorem gpuMeasurements_ok {index : ℤ} {row : GpuRow} {fs : List GpuField} (hfs : fs.Nodup)
    {m : GpuField → Measurement Number} {r : Dict String} :
    (∃ r', gpuMeasurements index row fs r = .ok (m, r')) ↔
      (∀ f ∈ fs, row.field f = .ok (m f)) ∧ (∀ f ∉ fs, m f = none) ∧
        ∀ f ∈ fs, m f = none → Printable index := by
  induction fs generalizing m r with
  | nil =>
    simp only [gpuMeasurements, pure_eq_ok, Prod.mk.injEq]
    refine ⟨?_, fun ⟨_, h, _⟩ => ⟨r, (funext fun f => h f (by simp)).symm, rfl⟩⟩
    rintro ⟨r', rfl, -⟩
    simp
  | cons f fs ih =>
    obtain ⟨hf, hnd⟩ := List.nodup_cons.1 hfs
    have hne : ∀ g ∈ fs, g ≠ f := fun g hg h => hf (h ▸ hg)
    simp only [gpuMeasurements, bind_eq_ok]
    constructor
    · rintro ⟨r', v, hv, x, hx, r₁, hr₁, ⟨rest, r₂⟩, hrest, h⟩
      obtain ⟨h1, h2, h3⟩ := (ih hnd).1 ⟨r₂, hrest⟩
      obtain ⟨rfl, -⟩ := Prod.mk.inj (pure_eq_ok.1 h)
      refine ⟨List.forall_mem_cons.2 ⟨?_, fun g hg => ?_⟩, fun g hg => ?_,
        List.forall_mem_cons.2 ⟨?_, fun g hg => ?_⟩⟩
      · rw [Function.update_self]; exact bind_eq_ok.2 ⟨v, hv, hx⟩
      · rw [Function.update_of_ne (hne g hg)]; exact h1 g hg
      · obtain ⟨hgf, hg⟩ := not_or.1 (List.mem_cons.not.1 hg)
        rw [Function.update_of_ne hgf]; exact h2 g hg
      · rw [Function.update_self]; exact noteUnsupported_ok.1 ⟨r₁, hr₁⟩
      · rw [Function.update_of_ne (hne g hg)]; exact h3 g hg
    · rintro ⟨h1, h2, h3⟩
      obtain ⟨v, hv, hx⟩ := bind_eq_ok.1 (h1 f List.mem_cons_self)
      obtain ⟨r₁, hr₁⟩ := (noteUnsupported_ok (f := f) (r := r)).2 (h3 f List.mem_cons_self)
      obtain ⟨r₂, hr₂⟩ := (ih hnd (m := Function.update m f none) (r := r₁)).2
        ⟨fun g hg => by rw [Function.update_of_ne (hne g hg)]; exact h1 g (.tail _ hg),
          fun g hg => by
            by_cases hgf : g = f
            · rw [hgf, Function.update_self]
            · rw [Function.update_of_ne hgf]; exact h2 g (by simp [hgf, hg]),
          fun g hg h => h3 g (.tail _ hg) (by rwa [Function.update_of_ne (hne g hg)] at h)⟩
      refine ⟨r₂, v, hv, m f, hx, r₁, hr₁, _, hr₂, pure_eq_ok.2 ?_⟩
      simp

/-- A row is normalized to its normal form, whatever the diagnostics. -/
theorem normalizeGpuRow_ok {i : ℤ} {row : GpuRow} {s : GpuSample Number} {r : Dict String} :
    (∃ r', normalizeGpuRow i row r = .ok (s, r')) ↔ RowOf i row s := by
  have hm (m : GpuField → Measurement Number) :=
    @gpuMeasurements_ok i row GpuField.all (by decide) m r
  simp only [normalizeGpuRow, bind_eq_ok]
  constructor
  · rintro ⟨r', ⟨m, r₁⟩, hm', u, hu, t, ht, a, ha, h⟩
    obtain ⟨h1, -, h3⟩ := (hm m).1 ⟨r₁, hm'⟩
    obtain ⟨rfl, -⟩ := Prod.mk.inj (pure_eq_ok.1 h)
    exact ⟨rfl, fun f => h1 f f.mem_all, fun f => h3 f f.mem_all, by rw [hu]; rfl, by rw [ht]; rfl,
      by rw [ha]; rfl⟩
  · intro h
    obtain ⟨r', hr'⟩ := (hm s.measurement).2 ⟨fun f _ => h.measurement f,
      fun f hf => absurd f.mem_all hf, fun f _ => h.printable f⟩
    obtain ⟨u, hu, hu'⟩ := map_eq_ok.1 h.uuid
    obtain ⟨t, ht, ht'⟩ := map_eq_ok.1 h.throttleReasons
    obtain ⟨a, ha, ha'⟩ := map_eq_ok.1 h.available
    refine ⟨r', _, hr', u, hu, t, ht, a, ha, pure_eq_ok.2 ?_⟩
    simp only [hu', ht', ha', ← h.index]

theorem RowOf.unique {i : ℤ} {row : GpuRow} {s t : GpuSample Number} (hs : RowOf i row s)
    (ht : RowOf i row t) : s = t := by
  have hm : s.measurement = t.measurement :=
    funext fun f => Except.ok.inj ((hs.measurement f).symm.trans (ht.measurement f))
  have hu := Except.ok.inj (hs.uuid.symm.trans ht.uuid)
  have hr := Except.ok.inj (hs.throttleReasons.symm.trans ht.throttleReasons)
  have ha := Except.ok.inj (hs.available.symm.trans ht.available)
  have hi := hs.index.trans ht.index.symm
  cases s; cases t; simp_all

/-- The row can be normalized under this index. -/
structure Normalizable (i : ℤ) (row : GpuRow) : Prop where
  measurement : ∀ f, ∃ v, row.measurement f = .ok v ∧ Fits v
  printable : (∃ f, row.field f = .ok none) → Printable i
  uuid : Returns row.uuid
  throttleReasons : Returns row.throttleReasons
  available : Returns row.throttleReasonsAvailable

theorem returns_field {row : GpuRow} {f : GpuField} :
    Returns (row.field f) ↔ ∃ v, row.measurement f = .ok v ∧ Fits v := by
  simp only [GpuRow.field, returns_bind, returns_number]

theorem exists_rowOf {i : ℤ} {row : GpuRow} : (∃ s, RowOf i row s) ↔ Normalizable i row := by
  constructor
  · rintro ⟨s, h⟩
    refine ⟨fun f => returns_field.1 ⟨_, h.measurement f⟩, fun ⟨f, hf⟩ => h.printable f ?_, ?_, ?_, ?_⟩
    · exact Except.ok.inj ((h.measurement f).symm.trans hf)
    · obtain ⟨u, hu, -⟩ := map_eq_ok.1 h.uuid; exact ⟨u, hu⟩
    · obtain ⟨t, ht, -⟩ := map_eq_ok.1 h.throttleReasons; exact ⟨t, ht⟩
    · obtain ⟨a, ha, -⟩ := map_eq_ok.1 h.available; exact ⟨a, ha⟩
  · rintro ⟨hm, hp, ⟨u, hu⟩, ⟨t, ht⟩, ⟨a, ha⟩⟩
    choose m hm using fun f => returns_field.2 (hm f)
    refine ⟨⟨i, nonEmptyText u, m, t.filterMap nonEmptyText, decide (a = .bool true)⟩, rfl, hm,
      fun f hf => hp ⟨f, ?_⟩, ?_, ?_, ?_⟩
    · rw [hm f]; exact congrArg _ hf
    · rw [hu]; rfl
    · rw [ht]; rfl
    · rw [ha]; rfl

/-! ## The loop over the rows -/

/-- What one turn of the loop does with the rows kept so far. -/
inductive Admit (n : List (GpuSample Number)) : Option GpuRow → List (GpuSample Number) → Prop
  | malformed : Admit n none n
  | badIndex {row o} : row.index = .ok o → validIndex o = none → Admit n (some row) n
  | duplicate {row o i} : row.index = .ok o → validIndex o = some i → (∃ r ∈ n, r.index = i) →
      Admit n (some row) n
  | row {row o i s} : row.index = .ok o → validIndex o = some i → (∀ r ∈ n, r.index ≠ i) →
      RowOf i row s → Admit n (some row) (n ++ [s])

theorem normalizeGpuValue_ok {k : ℕ} {v : Option GpuRow} {n n' : List (GpuSample Number)}
    {r : Dict String} : (∃ r', normalizeGpuValue k v n r = .ok (n', r')) ↔ Admit n v n' := by
  cases v with
  | none =>
    simp only [normalizeGpuValue, pure_eq_ok, Prod.mk.injEq]
    constructor
    · rintro ⟨r', rfl, -⟩; exact .malformed
    · rintro ⟨⟩; exact ⟨_, rfl, rfl⟩
  | some row =>
    simp only [normalizeGpuValue, bind_eq_ok]
    constructor
    · rintro ⟨r', o, ho, h⟩
      cases hi : validIndex o with
      | none =>
        rw [hi] at h
        obtain ⟨rfl, -⟩ := Prod.mk.inj (pure_eq_ok.1 h)
        exact .badIndex ho hi
      | some i =>
        simp only [hi] at h
        split_ifs at h with hdup
        · obtain ⟨rfl, -⟩ := Prod.mk.inj (pure_eq_ok.1 h)
          exact .duplicate ho hi (by simpa using hdup)
        · obtain ⟨⟨s, r₁⟩, hs, h⟩ := bind_eq_ok.1 h
          obtain ⟨rfl, -⟩ := Prod.mk.inj (pure_eq_ok.1 h)
          exact .row ho hi (by simpa using hdup) (normalizeGpuRow_ok.1 ⟨r₁, hs⟩)
    · intro h
      cases h with
      | badIndex ho hi => exact ⟨_, _, ho, by rw [hi]; rfl⟩
      | @duplicate _ o i ho hi hdup =>
        have hdup' : (n.any fun r => r.index = i) = true := by simpa using hdup
        exact ⟨_, o, ho, by simp only [hi, hdup', ↓reduceIte]; rfl⟩
      | @row _ o i s ho hi hnew hs =>
        have hnew' : (n.any fun r => r.index = i) = false := by simpa using hnew
        obtain ⟨r₁, hr₁⟩ := (normalizeGpuRow_ok (r := r)).2 hs
        refine ⟨r₁, o, ho, ?_⟩
        simp only [hi, hnew', Bool.false_eq_true, ↓reduceIte]
        exact bind_eq_ok.2 ⟨_, hr₁, rfl⟩

/-- What the loop does with the rows kept so far. -/
inductive AdmitAll : List (GpuSample Number) → List (Option GpuRow) → List (GpuSample Number) → Prop
  | nil {n} : AdmitAll n [] n
  | cons {n v n' vs n''} : Admit n v n' → AdmitAll n' vs n'' → AdmitAll n (v :: vs) n''

theorem normalizeGpuValues_ok {k : ℕ} {vs : List (Option GpuRow)} {n n' : List (GpuSample Number)}
    {r : Dict String} : (∃ r', normalizeGpuValues k vs n r = .ok (n', r')) ↔ AdmitAll n vs n' := by
  induction vs generalizing k n r with
  | nil =>
    simp only [normalizeGpuValues, pure_eq_ok, Prod.mk.injEq]
    constructor
    · rintro ⟨r', rfl, -⟩; exact .nil
    · rintro ⟨⟩; exact ⟨_, rfl, rfl⟩
  | cons v vs ih =>
    simp only [normalizeGpuValues, bind_eq_ok]
    constructor
    · rintro ⟨r', ⟨n₁, r₁⟩, h₁, h⟩
      exact .cons (normalizeGpuValue_ok.1 ⟨r₁, h₁⟩) (ih.1 ⟨r', h⟩)
    · rintro (_ | ⟨h₁, h⟩)
      obtain ⟨r₁, h₁⟩ := (normalizeGpuValue_ok (k := k) (r := r)).2 h₁
      obtain ⟨r', h⟩ := (ih (k := k + 1) (r := r₁)).2 h
      exact ⟨r', _, h₁, h⟩

/-- The index of a row, where it is valid. -/
def rowIndex (v : Option GpuRow) : Option ℤ :=
  v.bind fun row => match row.index with
    | .ok o => validIndex o
    | .error _ => none

/-- The first row of an index. -/
def owner (i : ℤ) (vs : List (Option GpuRow)) : Option GpuRow :=
  vs.findSome? fun v => if rowIndex v = some i then v else none

theorem owner_cons_of_ne {i : ℤ} {v : Option GpuRow} (h : rowIndex v ≠ some i)
    (vs : List (Option GpuRow)) : owner i (v :: vs) = owner i vs := by
  simp [owner, h]

theorem owner_cons_of_eq {i : ℤ} {row : GpuRow} (h : rowIndex (some row) = some i)
    (vs : List (Option GpuRow)) : owner i (some row :: vs) = some row := by
  simp [owner, h]

theorem rowIndex_of_ok {row : GpuRow} {o : Obj} (h : row.index = .ok o) :
    rowIndex (some row) = validIndex o := by
  simp [rowIndex, h]

/-- A turn keeps the rows, or appends the normal form of a row with a new index. -/
theorem Admit.kept {n n' : List (GpuSample Number)} {v : Option GpuRow} (h : Admit n v n') :
    (n' = n ∧ ∀ i, rowIndex v = some i → ∃ r ∈ n, r.index = i) ∨
      ∃ row i s, v = some row ∧ rowIndex v = some i ∧ (∀ r ∈ n, r.index ≠ i) ∧ RowOf i row s ∧
        n' = n ++ [s] := by
  cases h with
  | malformed => exact .inl ⟨rfl, fun i hi => by cases hi⟩
  | badIndex ho hi => exact .inl ⟨rfl, fun j hj => by rw [rowIndex_of_ok ho, hi] at hj; cases hj⟩
  | duplicate ho hi hdup =>
    refine .inl ⟨rfl, ?_⟩
    intro j hj
    rw [rowIndex_of_ok ho, hi] at hj; cases hj; exact hdup
  | row ho hi hnew hs => exact .inr ⟨_, _, _, rfl, (rowIndex_of_ok ho).trans hi, hnew, hs, rfl⟩

/-- The indices kept after a turn. -/
theorem Admit.index_iff {n n' : List (GpuSample Number)} {v : Option GpuRow} (h : Admit n v n')
    (i : ℤ) : (∀ r ∈ n', r.index ≠ i) ↔ (∀ r ∈ n, r.index ≠ i) ∧ rowIndex v ≠ some i := by
  rcases h.kept with ⟨rfl, hold⟩ | ⟨row, j, t, rfl, hj, -, ht, rfl⟩
  · refine ⟨fun hn => ⟨hn, ?_⟩, And.left⟩
    intro hi
    obtain ⟨r, hr, hri⟩ := hold i hi
    exact hn r hr hri
  · simp [or_imp, forall_and, hj, ht.index]

theorem exists_turn {n : List (GpuSample Number)} {v : Option GpuRow} :
    (∃ n', Admit n v n') ↔ ∀ row, v = some row → Returns row.index ∧
      ∀ i, rowIndex v = some i → (∀ r ∈ n, r.index ≠ i) → Normalizable i row := by
  constructor
  · rintro ⟨n', h⟩ row rfl
    cases h with
    | badIndex ho hi =>
      exact ⟨⟨_, ho⟩, fun j hj => by rw [rowIndex_of_ok ho, hi] at hj; cases hj⟩
    | duplicate ho hi hdup =>
      refine ⟨⟨_, ho⟩, ?_⟩
      intro j hj hnew
      rw [rowIndex_of_ok ho, hi] at hj; cases hj
      obtain ⟨r, hr, hri⟩ := hdup
      exact absurd hri (hnew r hr)
    | row ho hi hnew hs =>
      refine ⟨⟨_, ho⟩, ?_⟩
      intro j hj _
      rw [rowIndex_of_ok ho, hi] at hj; cases hj
      exact exists_rowOf.1 ⟨_, hs⟩
  · intro h
    cases v with
    | none => exact ⟨n, .malformed⟩
    | some row =>
      obtain ⟨⟨o, ho⟩, hn⟩ := h row rfl
      cases hi : validIndex o with
      | none => exact ⟨n, .badIndex ho hi⟩
      | some i =>
        by_cases hdup : ∃ r ∈ n, r.index = i
        · exact ⟨n, .duplicate ho hi hdup⟩
        · have hnew : ∀ r ∈ n, r.index ≠ i := fun r hr hri => hdup ⟨r, hr, hri⟩
          obtain ⟨s, hs⟩ := exists_rowOf.2 (hn i ((rowIndex_of_ok ho).trans hi) hnew)
          exact ⟨_, .row ho hi hnew hs⟩

/-- The rows kept are the first ones of their indices. -/
theorem AdmitAll.mem {n n' : List (GpuSample Number)} {vs : List (Option GpuRow)}
    (h : AdmitAll n vs n') (s : GpuSample Number) :
    s ∈ n' ↔ s ∈ n ∨ (∀ r ∈ n, r.index ≠ s.index) ∧
      ∃ row, owner s.index vs = some row ∧ RowOf s.index row s := by
  induction h with
  | nil => simp [owner]
  | @cons n v n' vs n'' hv _ ih =>
    rw [ih]
    rcases hv.kept with ⟨rfl, hold⟩ | ⟨row, i, t, rfl, hi, hnew, ht, rfl⟩
    · refine or_congr_right (and_congr_right fun hs => ?_)
      rw [owner_cons_of_ne fun h => ?_]
      obtain ⟨r, hr, hri⟩ := hold _ h
      exact hs r hr hri
    · by_cases hsi : s.index = i
      · subst hsi
        rw [owner_cons_of_eq hi]
        constructor
        · rintro (hs | ⟨hn, -⟩)
          · rcases List.mem_append.1 hs with hs | hs
            · exact .inl hs
            · obtain rfl := List.mem_singleton.1 hs
              exact .inr ⟨hnew, row, rfl, ht⟩
          · exact absurd ht.index (hn t (by simp))
        · rintro (hs | ⟨-, row', h, hs⟩)
          · exact .inl (List.mem_append_left _ hs)
          · cases h
            exact .inl (List.mem_append_right _ (List.mem_singleton.2 (hs.unique ht)))
      · rw [owner_cons_of_ne (by rw [hi]; exact fun h => hsi (Option.some.inj h).symm)]
        have hst : s ≠ t := fun h => hsi (h ▸ ht.index)
        have hti : t.index ≠ s.index := fun h => hsi (h ▸ ht.index)
        simp [List.mem_append, hst, or_imp, forall_and, hti]

/-- The rows of the list never make the loop raise. -/
structure RowsNormalizable (vs : List (Option GpuRow)) : Prop where
  index : ∀ row, some row ∈ vs → Returns row.index
  owner : ∀ i row, owner i vs = some row → Normalizable i row

theorem exists_loop_of {n : List (GpuSample Number)} {vs : List (Option GpuRow)} :
    (∃ n', AdmitAll n vs n') ↔ (∀ row, some row ∈ vs → Returns row.index) ∧
      ∀ i row, (∀ r ∈ n, r.index ≠ i) → owner i vs = some row → Normalizable i row := by
  induction vs generalizing n with
  | nil => simp [owner]; exact ⟨n, .nil⟩
  | cons v vs ih =>
    constructor
    · rintro ⟨n'', h⟩
      cases h with
      | cons hv hvs =>
        have hrow := exists_turn.1 ⟨_, hv⟩
        obtain ⟨h1, h2⟩ := ih.1 ⟨_, hvs⟩
        refine ⟨?_, ?_⟩
        · intro row hmem
          rcases List.mem_cons.1 hmem with hv | hmem
          · exact (hrow row hv.symm).1
          · exact h1 row hmem
        · intro i row hnew ho
          by_cases hi : rowIndex v = some i
          · obtain ⟨row', rfl⟩ : ∃ row', v = some row' := by
              cases v with
              | none => cases hi
              | some row' => exact ⟨row', rfl⟩
            rw [owner_cons_of_eq hi] at ho; cases ho
            exact (hrow row rfl).2 i hi hnew
          · rw [owner_cons_of_ne hi] at ho
            exact h2 i row ((hv.index_iff i).2 ⟨hnew, hi⟩) ho
    · rintro ⟨h1, h2⟩
      obtain ⟨n', hv⟩ := (exists_turn (n := n) (v := v)).2 fun row hrow =>
        ⟨h1 row (hrow ▸ List.mem_cons_self), fun i hi hnew =>
          h2 i row hnew (by subst hrow; exact owner_cons_of_eq hi vs)⟩
      obtain ⟨n'', hvs⟩ := (ih (n := n')).2 ⟨fun row hmem => h1 row (.tail _ hmem),
        fun i row hnew ho => by
          obtain ⟨hnew, hi⟩ := (hv.index_iff i).1 hnew
          exact h2 i row hnew (by rwa [owner_cons_of_ne hi])⟩
      exact ⟨n'', .cons hv hvs⟩

theorem exists_loop {vs : List (Option GpuRow)} :
    (∃ n, AdmitAll [] vs n) ↔ RowsNormalizable vs := by
  rw [exists_loop_of]
  exact ⟨fun ⟨h1, h2⟩ => ⟨h1, fun i row => h2 i row (by simp)⟩,
    fun h => ⟨h.index, fun i row _ => h.owner i row⟩⟩

/-- The rows kept have distinct, non-negative indices. -/
theorem AdmitAll.distinct {n n' : List (GpuSample Number)} {vs : List (Option GpuRow)}
    (h : AdmitAll n vs n') (hn : n.Pairwise (fun a b => a.index ≠ b.index)) :
    n'.Pairwise (fun a b => a.index ≠ b.index) := by
  induction h with
  | nil => exact hn
  | cons hv _ ih =>
    refine ih ?_
    rcases hv.kept with ⟨rfl, -⟩ | ⟨row, i, t, rfl, -, hnew, ht, rfl⟩
    · exact hn
    · refine List.pairwise_append.2 ⟨hn, List.pairwise_singleton _ _, ?_⟩
      intro a ha b hb
      obtain rfl := List.mem_singleton.1 hb
      rw [ht.index]; exact hnew a ha

/-! ## The snapshot -/

/-- The rows `_normalize_gpu_samples` is given. -/
def GpuReader.rows (g : GpuReader) : List (Option GpuRow) := readValue g.sample []

/-- What the snapshot holds when `collect` returns it. -/
structure Collected (b : Boundary) (x : TelemetrySnapshot Number) : Prop where
  timestamp : x.timestamp = (timestampOf b.clocks ∅).1
  host : ∀ f, b.host.measurement f = .ok (x.host f)
  gpus : ∃ n, AdmitAll [] b.gpu.rows n ∧ x.gpus = n.insertionSort fun a b => a.index ≤ b.index
  hostReasons : Returns (readerReasons b.host.unavailableReasons)
  gpuReasons : Returns (readerReasons b.gpu.unavailableReasons)

theorem normalizeGpuSamples_ok {vs : List (Option GpuRow)} {g : List (GpuSample Number)}
    {r : Dict String} : (∃ r', normalizeGpuSamples vs r = .ok (g, r')) ↔
      ∃ n, AdmitAll [] vs n ∧ g = n.insertionSort fun a b => a.index ≤ b.index := by
  simp only [normalizeGpuSamples, bind_eq_ok]
  constructor
  · rintro ⟨r', ⟨n, r₁⟩, hn, h⟩
    obtain ⟨rfl, -⟩ := Prod.mk.inj (pure_eq_ok.1 h)
    exact ⟨n, normalizeGpuValues_ok.1 ⟨r₁, hn⟩, rfl⟩
  · rintro ⟨n, hn, rfl⟩
    obtain ⟨r₁, hr₁⟩ := (normalizeGpuValues_ok (k := 0) (r := r)).2 hn
    exact ⟨r₁, _, hr₁, rfl⟩

/-- The diagnostics after the clock and the readers have been read. -/
def boundaryNotes (b : Boundary) : Dict String :=
  let r := (timestampOf b.clocks ∅).2
  let r := readNote b.host.cpuPercent ["cpu_percent"] r
  let r := readNote b.host.loadAverage1m ["load_average_1m"] r
  let r := readNote b.host.memory memoryFields r
  let r := malformedNote (readValue b.host.memory (some emptyMemory)) memoryFields r
  let r := readNote b.host.cpuTemperature ["cpu_temperature_c"] r
  let r := readNote b.host.diskThroughput diskFields r
  let r := malformedNote (readValue b.host.diskThroughput (some emptyDisk)) diskFields r
  let r := readNote b.host.processRssBytes ["process_rss_bytes"] r
  readNote b.gpu.sample ["gpu"] r

/-- The diagnostics of the snapshot, after those of the rows. -/
def finishNotes (live : HostField → Measurement Number) (gpus : List (GpuSample Number))
    (hostReasons gpuReasons : List (String × String)) (r : Dict String) : Dict String :=
  let r := markUnsupported live "sensor_unsupported" r
  let r := r.update (hostReasons.filter fun p => p.1 ∈ HostField.all.map HostField.name)
  let r := r.update gpuReasons
  if gpus = [] then r.setdefault "gpu" "no_gpus" else r

/-- What `collect` returns: the snapshot, and where its diagnostics come from. -/
theorem collect_spec {b : Boundary} {x : TelemetrySnapshot Number} (h : collect b = .ok x) :
    Collected b x ∧
      ∃ n r hr gr, normalizeGpuValues 0 b.gpu.rows [] (boundaryNotes b) = .ok (n, r) ∧
        (∀ s, s ∈ x.gpus ↔ s ∈ n) ∧ readerReasons b.host.unavailableReasons = .ok hr ∧
        readerReasons b.gpu.unavailableReasons = .ok gr ∧
        x.reasons = (finishNotes x.host x.gpus hr gr r).sortedItems := by
  simp only [collect, read_eq, orMalformed_eq, bind_eq_ok] at h
  obtain ⟨cpu, hcpu, load, hload, temp, htemp, rss, hrss, ⟨gpus, r⟩, hgpus, u, hu, used, hused, a, ha,
    avail, havail, t, ht, total, htotal, dr, hdr, diskRead, hdiskRead, dw, hdw, diskWrite, hdiskWrite,
    hr, hhr, gr, hgr, h⟩ := h
  cases pure_eq_ok.1 h
  have hsamples := normalizeGpuSamples_ok.1 ⟨r, hgpus⟩
  obtain ⟨⟨n, r₁⟩, hn, hsort⟩ := bind_eq_ok.1 hgpus
  obtain ⟨rfl, rfl⟩ := Prod.mk.inj (pure_eq_ok.1 hsort)
  refine ⟨⟨rfl, fun f => ?_, hsamples, ⟨hr, hhr⟩, ⟨gr, hgr⟩⟩,
    n, r₁, hr, gr, hn, fun s => List.mem_insertionSort _, hhr, hgr, rfl⟩
  cases f with
  | cpuPercent => exact hcpu
  | loadAverage1m => exact hload
  | ramUsedBytes => exact bind_eq_ok.2 ⟨u, hu, hused⟩
  | ramAvailableBytes => exact bind_eq_ok.2 ⟨a, ha, havail⟩
  | ramTotalBytes => exact bind_eq_ok.2 ⟨t, ht, htotal⟩
  | cpuTemperatureC => exact htemp
  | diskReadBytesPerSec => exact bind_eq_ok.2 ⟨dr, hdr, hdiskRead⟩
  | diskWriteBytesPerSec => exact bind_eq_ok.2 ⟨dw, hdw, hdiskWrite⟩
  | processRssBytes => exact hrss

/-- **Every field of a collected snapshot depends on its own operation only.** -/
theorem collect_ok {b : Boundary} {x : TelemetrySnapshot Number} (h : collect b = .ok x) :
    Collected b x := (collect_spec h).1

/-- Every item of the reader's mapping is a pair. -/
def ReasonSurface.Unpacks (s : ReasonSurface) : Prop :=
  ∀ items, s = .mapping (.ok items) → none ∉ items

theorem returns_readerReasons {s : ReasonSurface} : Returns (readerReasons s) ↔ s.Unpacks := by
  match s with
  | .absent | .raises _ | .notMapping => exact iff_of_true (returns_ok _) fun _ h => by cases h
  | .mapping (.error _) => exact iff_of_true (returns_ok _) fun _ h => by cases h
  | .mapping (.ok items) =>
    have hall : Returns (readerReasons (.mapping (.ok items))) ↔ ∀ item ∈ items, item ≠ none := by
      rw [readerReasons, returns_bind_of fun _ => returns_pure _, returns_mapM]
      refine forall₂_congr ?_
      intro item _
      cases item with
      | none => exact iff_of_false (not_returns_error _) (by simp)
      | some p => exact iff_of_true (returns_ok _) (by simp)
    rw [hall]
    constructor
    · rintro h _ ⟨⟩ hmem; exact h _ hmem rfl
    · rintro h _ hmem rfl; exact h _ rfl hmem

/-- Nothing the boundary hands back makes `collect` raise. -/
structure Tolerated (b : Boundary) : Prop where
  host : ∀ f, ∃ v, b.host.value f = .ok v ∧ Fits v
  gpus : RowsNormalizable b.gpu.rows
  hostReasons : b.host.unavailableReasons.Unpacks
  gpuReasons : b.gpu.unavailableReasons.Unpacks

theorem returns_measurement {h : HostReader} {f : HostField} :
    Returns (h.measurement f) ↔ ∃ v, h.value f = .ok v ∧ Fits v := by
  simp only [HostReader.measurement, returns_bind, returns_number]

theorem returns_collect {b : Boundary} : Returns (collect b) ↔ Tolerated b := by
  constructor
  · rintro ⟨x, h⟩
    have hx := collect_ok h
    obtain ⟨n, hn, -⟩ := hx.gpus
    exact ⟨fun f => returns_measurement.1 ⟨_, hx.host f⟩, exists_loop.1 ⟨n, hn⟩,
      returns_readerReasons.1 hx.hostReasons, returns_readerReasons.1 hx.gpuReasons⟩
  · intro h
    have hv f : Returns (b.host.measurement f) := returns_measurement.2 (h.host f)
    obtain ⟨cpu, hcpu⟩ := hv .cpuPercent
    obtain ⟨load, hload⟩ := hv .loadAverage1m
    obtain ⟨used, hused⟩ := hv .ramUsedBytes
    obtain ⟨avail, havail⟩ := hv .ramAvailableBytes
    obtain ⟨total, htotal⟩ := hv .ramTotalBytes
    obtain ⟨temp, htemp⟩ := hv .cpuTemperatureC
    obtain ⟨diskRead, hdiskRead⟩ := hv .diskReadBytesPerSec
    obtain ⟨diskWrite, hdiskWrite⟩ := hv .diskWriteBytesPerSec
    obtain ⟨rss, hrss⟩ := hv .processRssBytes
    obtain ⟨hr, hhr⟩ := returns_readerReasons.2 h.hostReasons
    obtain ⟨gr, hgr⟩ := returns_readerReasons.2 h.gpuReasons
    obtain ⟨n, hn⟩ := exists_loop.2 h.gpus
    obtain ⟨u, hu, hused⟩ := bind_eq_ok.1 hused
    obtain ⟨a, ha, havail⟩ := bind_eq_ok.1 havail
    obtain ⟨t, ht, htotal⟩ := bind_eq_ok.1 htotal
    obtain ⟨dr, hdr, hdiskRead⟩ := bind_eq_ok.1 hdiskRead
    obtain ⟨dw, hdw, hdiskWrite⟩ := bind_eq_ok.1 hdiskWrite
    simp only [collect, read_eq, orMalformed_eq, returns_bind]
    obtain ⟨r, hgpus⟩ := normalizeGpuSamples_ok.2 ⟨n, hn, rfl⟩
    exact ⟨cpu, hcpu, load, hload, temp, htemp, rss, hrss, _, hgpus, u, hu, used, hused, a, ha,
      avail, havail, t, ht, total, htotal, dr, hdr, diskRead, hdiskRead, dw, hdw, diskWrite,
      hdiskWrite, hr, hhr, gr, hgr, returns_ok _⟩

end SweatMeter
