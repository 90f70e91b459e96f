/-
  `NvidiaSmiReader` tells its samples honestly, whatever its commands do.

  All its reasons are non-empty texts about GPUs (`GpuReason`), also when a command
  raises.  Its samples are in normal form: a cell that is not marked as unavailable
  is a non-empty text, an index is short enough to be printed, and a number that is
  read from a cell fits a double.
-/
import SweatMeter.NvidiaStatic
import SweatMeter.Relaying

namespace SweatMeter

open Py

/-- A reason that the collector takes from a GPU reader. -/
def GpuReason (key reason : String) : Prop := IsGpuKey key ∧ reason ≠ ""

/-! ## Reasons -/

section

variable {c : SmiCall} {key : String}

theorem invoke_reason {arguments : List String} {reason : String}
    (h : c.invoke arguments = .ok (.error reason)) : reason ≠ "" := by
  simp only [SmiCall.invoke] at h
  split at h
  · cases h; decide
  · cases h; decide
  · cases h
  · split_ifs at h
    · cases h; decide
    · split at h
      · cases h; decide
      · cases h; decide
      · cases h; decide
      · cases h; decide
      · cases h
      · split_ifs at h <;> cases h <;> decide

theorem notes_query (fields : List String) (hkey : IsGpuKey key) :
    Notes GpuReason (query c fields key) := by
  unfold query
  refine .bind (.lift _) fun r hr => ?_
  cases r with
  | error reason => exact .bind (.setReason ⟨hkey, invoke_reason hr⟩) fun _ _ => .pure _
  | ok output => exact .bind (.setDefaultReasonIf _ ⟨hkey, by decide⟩) fun _ _ => .pure _

/-- `gpu.sample` and the other scopes of rows. -/
theorem isGpuKey_scope {scope : String} (h : "gpu.".toList <+: scope.toList) (number : ℕ) :
    IsGpuKey s!"{scope}.row.{number}.index" := by
  refine .inr (h.trans ?_)
  show scope.toList <+: (scope ++ ".row." ++ toString number ++ ".index").toList
  simp only [String.toList_append, List.append_assoc]
  exact List.prefix_append _ _

theorem notes_rowsByIndex {scope : String} (h : "gpu.".toList <+: scope.toList)
    (rows : List SmiRow) : Notes GpuReason (rowsByIndex rows scope) := by
  have hloop (number : ℕ) (indexed : List (ℤ × SmiRow)) :
      Notes GpuReason (indexRows scope number rows indexed) := by
    induction rows generalizing number indexed with
    | nil => exact .pure _
    | cons row rows ih =>
      rw [indexRows]
      split_ifs
      · exact .bind (.setReason ⟨isGpuKey_scope h number, by decide⟩) fun _ _ => ih _ _
      · exact .bind (.setReason ⟨isGpuKey_scope h number, by decide⟩) fun _ _ => ih _ _
      · exact ih _ _
  exact hloop 0 []

theorem notes_noRows : Notes GpuReason noRows := by
  intro k v r hv
  change (r.setdefault "gpu" (if r.isEmpty then "no_nvidia_gpus" else "malformed_csv"))[k]? =
    some v at hv
  have hreason : (if r.isEmpty then "no_nvidia_gpus" else "malformed_csv") ≠ "" := by
    split_ifs <;> decide
  exact Notes.setDefaultReasonIf True ⟨.inl rfl, hreason⟩ k v r hv

theorem isGpuKey_fieldKey (i : ℤ) (field : String) : IsGpuKey (fieldKey i field) := by
  have hkey : fieldKey i field = "gpu." ++ (toString i ++ ("." ++ field)) := by
    show "gpu." ++ toString i ++ "." ++ field = _
    rw [String.append_assoc, String.append_assoc]
  rw [hkey]
  exact isGpuKey_append _

theorem notes_optionalText (row : SmiRow) (column : String) (i : ℤ) (field : String) :
    Notes GpuReason (optionalText row column i field) := by
  unfold optionalText
  split
  · exact .bind (.setReason ⟨isGpuKey_fieldKey i field, by decide⟩) fun _ _ => .pure _
  · exact .bind (.setReason ⟨isGpuKey_fieldKey i field, by decide⟩) fun _ _ => .pure _
  · exact .pure _

theorem cellMeasurement_reason {cell : Option (Option Text)} {maximum : Option ℚ} {mib : Bool}
    {reason : String} (h : cellMeasurement cell maximum mib = .error reason) : reason ≠ "" := by
  unfold cellMeasurement at h
  split at h
  · cases h; decide
  · cases h; decide
  · split at h
    · cases h; decide
    · split_ifs at h
      · cases h; decide
      · split at h
        · cases h
        · cases h; decide
    · cases h; decide

theorem notes_smiMeasurement (row : SmiRow) (column : String) (i : ℤ) (f : GpuField)
    (maximum : Option ℚ) (mib : Bool) :
    Notes GpuReason (smiMeasurement row column i f maximum mib) := by
  unfold smiMeasurement
  split
  · exact .pure _
  · next h =>
    exact .bind (.setReason ⟨isGpuKey_fieldKey i f.name, cellMeasurement_reason h⟩)
      fun _ _ => .pure _

theorem notes_smiThrottleReasons (row : Option SmiRow) (i : ℤ) :
    Notes GpuReason (smiThrottleReasons row i) := by
  have hreason : GpuReason s!"gpu.{i}.throttle_reasons" "sensor_unsupported" := by
    rw [throttleKey]
    exact ⟨isGpuKey_fieldKey i _, by decide⟩
  cases row with
  | none => exact .bind (.setReason hreason) fun _ _ => .pure _
  | some row =>
    refine .bind ?_ fun _ _ => .pure _
    intro k v r hv
    change (if (rowThrottle row).2 then r else r.set _ _)[k]? = some v at hv
    split_ifs at hv
    · exact .inl hv
    · exact Notes.setReason hreason k v r hv

theorem notes_sampleFromRow (row : SmiRow) (i : ℤ) (reasons : List String × Bool) :
    Notes GpuReason (sampleFromRow row i reasons) := by
  unfold sampleFromRow
  refine .bind (notes_optionalText _ _ _ _) fun _ _ => ?_
  iterate 11 refine .bind (notes_smiMeasurement _ _ _ _ _ _) fun _ _ => ?_
  exact .pure _

theorem notes_sampleRows (throttleRows rows : List (ℤ × SmiRow)) :
    Notes GpuReason (sampleRows throttleRows rows) := by
  induction rows with
  | nil => exact .pure _
  | cons p rows ih =>
    exact .bind (notes_smiThrottleReasons _ _) fun _ _ =>
      .bind (notes_sampleFromRow _ _ _) fun _ _ => .bind ih fun _ _ => .pure _

/-- All reasons of a sample are about GPUs, also when a command raises. -/
theorem notes_sample (c : SmiCall) : Notes GpuReason c.sample := by
  unfold SmiCall.sample
  refine .bind (notes_query _ (.inl rfl)) fun rows _ => ?_
  refine .bind (notes_rowsByIndex (by decide) rows) fun coreRows _ => ?_
  split_ifs
  · exact .bind notes_noRows fun _ _ => .pure _
  · refine .bind (notes_query _ (.inr (by decide))) fun rows _ => ?_
    refine .bind (notes_rowsByIndex (by decide) rows) fun throttleRows _ => ?_
    exact notes_sampleRows _ _

end

/-! ## Samples -/

section

variable {c : SmiCall}

/-- A row that is kept by its index. -/
structure KeptRow (p : ℤ × SmiRow) : Prop where
  nonneg : 0 ≤ p.1
  index : smiRowIndex p.2 = p.1

theorem kept_rowsByIndex {rows : List SmiRow} {scope : String} {kept : List (ℤ × SmiRow)}
    (h : (rowsByIndex rows scope).outcome = .ok kept) : ∀ p ∈ kept, KeptRow p ∧ p.2 ∈ rows := by
  have hloop : ∀ (rest : List SmiRow) (number : ℕ) (indexed : List (ℤ × SmiRow)),
      rest ⊆ rows → (∀ p ∈ indexed, KeptRow p ∧ p.2 ∈ rows) →
        (indexRows scope number rest indexed).outcome = .ok kept →
          ∀ p ∈ kept, KeptRow p ∧ p.2 ∈ rows := by
    intro rest
    induction rest with
    | nil =>
      intro number indexed _ hindexed h
      cases h
      exact hindexed
    | cons row rest ih =>
      intro number indexed hrest hindexed h
      obtain ⟨hrow, hrest⟩ := List.cons_subset.1 hrest
      rw [indexRows] at h
      split_ifs at h with hneg hdup
      · exact ih _ _ hrest hindexed h
      · exact ih _ _ hrest hindexed h
      · refine ih _ _ hrest (fun p hp => ?_) h
        rcases List.mem_append.1 hp with hp | hp
        · exact hindexed p hp
        · rw [List.mem_singleton.1 hp]
          exact ⟨⟨not_lt.1 hneg, rfl⟩, hrow⟩
  exact hloop rows 0 [] (List.Subset.refl _) (by simp) h

theorem printable_smiRowIndex (row : SmiRow) : Printable (smiRowIndex row) := by
  have hinvalid : Printable (-1) := printable_of_lt (by decide)
  unfold smiRowIndex
  split
  · split
    · exact printable_of_toInt ‹_›
    · exact hinvalid
  · exact hinvalid

theorem mem_of_lookup {T : Type} {entries : List (String × T)} {key : String} {x : T}
    (h : entries.lookup key = some x) : (key, x) ∈ entries := by
  obtain ⟨l₁, l₂, rfl, -⟩ := List.lookup_eq_some_iff.1 h
  simp

theorem parseCell_ne_nil {cell text : Text} (h : parseCell cell = some text) : text ≠ [] := by
  unfold parseCell at h
  split_ifs at h with hmarker
  cases h
  intro hnil
  rw [hnil] at hmarker
  exact hmarker (by decide)

/-- The texts in a table are not empty. -/
theorem cell_ne_nil {output : Text} {columns : List String} {row : SmiRow}
    (h : row ∈ (parseNvidiaCsv output columns).1) {column : String} {text : Text}
    (hcell : row.lookup column = some (some text)) : text ≠ [] := by
  have hlines : ∀ lines, row ∈ (parseLines columns lines).1 → text ≠ [] := by
    intro lines
    induction lines with
    | nil => rintro ⟨⟩
    | cons line lines ih =>
      intro hrow
      simp only [parseLines] at hrow
      split_ifs at hrow
      · exact ih hrow
      · cases hread : Csv.readLine line with
        | error e =>
          rw [hread] at hrow
          exact ih hrow
        | ok cells =>
          rw [hread] at hrow
          rcases List.mem_cons.1 hrow with rfl | hrow
          · have hmem := (List.of_mem_zip (mem_of_lookup hcell)).2
            obtain ⟨cell, -, hparse⟩ := List.mem_map.1 hmem
            exact parseCell_ne_nil hparse
          · exact ih hrow
  exact hlines _ h

/-- A number of bytes that a double holds fits one. -/
theorem fits_cellMeasurement {cell : Option (Option Text)} {maximum : Option ℚ} {mib : Bool}
    {x : Number} (h : cellMeasurement cell maximum mib = .ok x) : Fits (.num x) := by
  unfold cellMeasurement at h
  split at h
  · cases h
  · cases h
  · split at h
    · cases h
    · rename_i q _
      split_ifs at h with hrange hmib
      · cases h
        trivial
      · split at h
        · rename_i bytes hbytes
          cases h
          rw [not_or, not_lt] at hrange
          unfold toDouble at hbytes
          split_ifs at hbytes with hlimit
          cases hbytes
          rw [not_le, abs_of_nonneg (mul_nonneg hrange.1 (by norm_num))] at hlimit
          have hnonneg : 0 ≤ ⌊q * (1024 * 1024)⌋ :=
            Int.floor_nonneg.2 (mul_nonneg hrange.1 (by norm_num))
          have hlt : (⌊q * (1024 * 1024)⌋ : ℚ) < doubleLimit := (Int.floor_le _).trans_lt hlimit
          show ⌊q * (1024 * 1024)⌋.natAbs < doubleLimit
          have hlt' : ⌊q * (1024 * 1024)⌋ < (doubleLimit : ℤ) := by exact_mod_cast hlt
          omega
        · cases h
    · cases h

theorem normal_joinedSample (throttleRows : List (ℤ × SmiRow)) {p : ℤ × SmiRow} (hp : KeptRow p)
    (huuid : ∀ text, p.2.lookup "uuid" = some (some text) → text ≠ []) :
    (joinedSample throttleRows p).Normal where
  nonneg := hp.nonneg
  printable := by
    show Printable p.1
    rw [← hp.index]
    exact printable_smiRowIndex p.2
  range f x hx := by
    obtain ⟨hpositive, hpercent⟩ := within_joinedSample throttleRows p f
    obtain ⟨q, hq, hnonneg⟩ := hpositive x hx
    refine ⟨q, hq, ?_, ?_⟩
    · rw [GpuField.minimum_eq]
      split_ifs
      · exact le_trans (by norm_num) hnonneg
      · exact hnonneg
    · rw [GpuField.maximum_eq]
      split_ifs with hf
      · obtain ⟨q', hq', hrange⟩ := hpercent hf x hx
        rw [hq] at hq'
        cases hq'
        rintro b hb
        cases hb
        exact hrange.2
      · rintro b ⟨⟩
  fits f := by
    show Fits (measured (cellValue f (p.2.lookup f.column)))
    unfold cellValue
    cases hcell : cellMeasurement (p.2.lookup f.column) f.smiMaximum f.inMib with
    | error reason => trivial
    | ok x => exact fits_cellMeasurement hcell
  uuid := by
    show (p.2.lookup "uuid").join.map String.ofList ≠ some ""
    intro h
    obtain ⟨text, htext, hempty⟩ := Option.map_eq_some_iff.1 h
    refine huuid text (Option.join_eq_some_iff.1 htext) ?_
    simpa using congrArg String.toList hempty
  throttleReasons := by
    show "" ∉ (rowReasons (throttleRows.lookup p.1)).1
    cases throttleRows.lookup p.1 with
    | none => exact List.not_mem_nil
    | some row =>
      intro hmem
      obtain ⟨q, hq, hname⟩ := List.mem_map.1 hmem
      have hnames : "" ∉ throttleFields.map Prod.fst := by decide
      exact hnames (List.mem_map.2 ⟨q, List.mem_of_mem_filter hq, hname⟩)

theorem rows_of_query {fields : List String} {key : String} {rows : List SmiRow}
    (h : (query c fields key).outcome = .ok rows) :
    ∀ row ∈ rows, ∃ output, row ∈ (parseNvidiaCsv output fields).1 := by
  obtain ⟨r, hr, -⟩ := Logged.bind_ok.1 (show (query c fields key).outcome = .ok rows from h)
  rw [query_outcome hr] at h
  cases h
  intro row hrow
  cases r with
  | error reason => cases hrow
  | ok output => exact ⟨output, hrow⟩

/-- A sample that returns. -/
theorem honest_of_ok {xs : List (GpuSample Number)} (h : c.sample.outcome = .ok xs) :
    (∀ s ∈ xs, s.Normal) ∧ xs.Pairwise (fun s t => s.index < t.index) ∧
      (∀ s ∈ xs, ∀ f, s.measurement f = none → gpuKey s.index f ∈ c.sample.log ∅) ∧
      (xs = [] → "gpu" ∈ c.sample.log ∅) := by
  unfold SmiCall.sample at h ⊢
  obtain ⟨rows, hrows, h⟩ := Logged.bind_ok.1 h
  obtain ⟨coreRows, hcore, h⟩ := Logged.bind_ok.1 h
  rw [Logged.log_bind_of_ok hrows, Logged.log_bind_of_ok hcore]
  obtain ⟨indexed, K, hok, hindexed, -⟩ := rowsByIndex_adds rows "gpu.sample"
  cases hok.symm.trans hcore
  by_cases hnil : coreRows = []
  · rw [if_pos hnil] at h ⊢
    cases h
    refine ⟨by simp, .nil, by simp, fun _ => ?_⟩
    exact (adds_noRows "gpu" _).2 (.inr rfl)
  · rw [if_neg hnil] at h ⊢
    obtain ⟨rows', hrows', h⟩ := Logged.bind_ok.1 h
    obtain ⟨throttleRows, hthrottle, h⟩ := Logged.bind_ok.1 h
    rw [Logged.log_bind_of_ok hrows', Logged.log_bind_of_ok hthrottle]
    rw [sampleRows_outcome] at h
    cases h
    have hsorted := pairwise_insertionSort_lt Prod.fst (List.pairwise_map.1 hindexed.distinct)
    refine ⟨?_, List.pairwise_map.2 hsorted, ?_, ?_⟩
    · refine List.forall_mem_map.2 fun p hp => ?_
      obtain ⟨hkept, hrow⟩ := kept_rowsByIndex hcore p ((List.mem_insertionSort _).1 hp)
      obtain ⟨output, houtput⟩ := rows_of_query hrows p.2 hrow
      exact normal_joinedSample throttleRows hkept fun text => cell_ne_nil houtput
    · refine List.forall_mem_map.2 fun p hp f hf => ?_
      exact (adds_sampleRows throttleRows _ _ _).2 (.inr ⟨p, hp, f.name, .measurement f hf, rfl⟩)
    · intro hempty
      rw [List.map_eq_nil_iff, ← List.length_eq_zero_iff, List.length_insertionSort,
        List.length_eq_zero_iff] at hempty
      exact absurd hempty hnil

/-- **`NvidiaSmiReader.sample` tells honestly**, whatever its commands do. -/
theorem honest_sample (c : SmiCall) : Telling.Honest ⟨c.sample.outcome, c.sample.log ∅⟩ := by
  have hentries : ∀ key reason, (c.sample.log ∅)[key]? = some reason → GpuReason key reason := by
    intro key reason h
    refine (notes_sample c key reason ∅ h).resolve_left fun hnone => ?_
    rw [Std.ExtTreeMap.getElem?_empty] at hnone
    cases hnone
  cases h : c.sample.outcome with
  | error e => exact ⟨hentries, by rintro s ⟨⟩, .nil, by rintro s ⟨⟩, by rintro ⟨⟩⟩
  | ok xs =>
    obtain ⟨hnormal, hincreasing, hmissing, hempty⟩ := honest_of_ok h
    exact ⟨hentries, hnormal, hincreasing, hmissing, fun heq => hempty (Except.ok.inj heq)⟩

end

/-! ## The reader -/

/-- `NvidiaSmiReader`; `construct` is what the constructor of `GpuProfile` checks. -/
def NvidiaSmiReader.operations (alnum : Char → Bool) (construct : GpuProfile → Except Exn Unit) :
    GpuReaderClass NvidiaSmiReader SmiCall where
  sample := sample
  staticInfo r c := ((c.staticInfo alnum construct).outcome,
    { r with reasons := (c.staticInfo alnum construct).log ∅ })
  reasons := unavailableReasons

theorem NvidiaSmiReader.honest (alnum : Char → Bool) (construct : GpuProfile → Except Exn Unit) :
    (operations alnum construct).Honest := by
  intro r c
  have heq : (operations alnum construct).telling r c = ⟨c.sample.outcome, c.sample.log ∅⟩ :=
    congrArg (Telling.mk _) (Dict.ofItems_sortedItems _)
  rw [heq]
  exact honest_sample c

end SweatMeter
