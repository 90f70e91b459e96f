/-
  The diagnostics of `NvidiaSmiReader.sample`, whatever its two commands do.

  Every step adds reasons under exactly the keys of what it misses (`Adds`): the
  queries under their own keys, the rejected rows under their numbers, and a
  sample under the fields it has no value for.  These keys never meet, so that a
  field has a reason exactly if it has no value (`smi_sample_honest`).
-/
import SweatMeter.NvidiaSample
import SweatMeter.NvmlReasons

namespace SweatMeter

open Py

/-- What an `NvidiaSmiReader` keeps between its operations. -/
structure NvidiaSmiReader where
  reasons : Dict String := ∅

namespace NvidiaSmiReader

/-- `sample`; the first step clears the diagnostics. -/
def sample (r : NvidiaSmiReader) (c : SmiCall) :
    Except Exn (List (GpuSample Number)) × NvidiaSmiReader :=
  (c.sample.outcome, { r with reasons := c.sample.log ∅ })

/-- `unavailable_reasons`. -/
def unavailableReasons (r : NvidiaSmiReader) : Dict String := .ofItems r.reasons.sortedItems

end NvidiaSmiReader

/-- The command does nothing that `_invoke` does not handle. -/
structure SmiCommand.Handled (command : SmiCommand) : Prop where
  resolver : ∀ e, command.resolver ≠ .raises e
  runner : ∀ e, command.runner ≠ .raises e

/-- Both commands of `sample` are handled. -/
def SmiCall.Handled (c : SmiCall) : Prop :=
  ∀ fields ∈ [sampleFields, throttleColumns], (c.command (queryArguments fields)).Handled

/-- The key of a field of the device with this index. -/
def fieldKey (i : ℤ) (name : String) : String := s!"gpu.{i}.{name}"

/-- The fields a sample has no value for, by name. -/
inductive GpuSample.Misses (s : GpuSample Number) : String → Prop
  | uuid : s.uuid = none → s.Misses "uuid"
  | measurement (f : GpuField) : s.measurement f = none → s.Misses f.name
  | throttleReasons : s.throttleReasonsAvailable = false → s.Misses "throttle_reasons"

/-- The samples and the diagnostics of a call tell the same. -/
structure HonestSample (xs : List (GpuSample Number)) (reasons : Dict String) : Prop where
  increasing : xs.Pairwise fun s t => s.index < t.index
  nonneg : ∀ s ∈ xs, 0 ≤ s.index
  percent : ∀ s ∈ xs, ∀ f ∈ GpuField.percents, Within (Set.Icc 0 100) (s.measurement f)
  measurement : ∀ s ∈ xs, ∀ f, Within (Set.Ici 0) (s.measurement f)
  field : ∀ s ∈ xs, ∀ f, fieldKey s.index (GpuField.name f) ∈ reasons ↔ s.measurement f = none
  uuid : ∀ s ∈ xs, fieldKey s.index "uuid" ∈ reasons ↔ s.uuid = none
  throttleReasons : ∀ s ∈ xs,
    fieldKey s.index "throttle_reasons" ∈ reasons ↔ s.throttleReasonsAvailable = false
  unavailable : ∀ s ∈ xs, s.throttleReasonsAvailable = false → s.throttleReasons = []
  empty : xs = [] → "gpu" ∈ reasons

/-! ## Keys -/

section Keys

variable {i j : ℤ} {a b k : String}

theorem fieldKey_deviceKey (d : ℕ) (name : String) : DeviceKey d (fieldKey d name) :=
  .inr ⟨name, rfl⟩

theorem fieldKey_inj (hi : 0 ≤ i) (hj : 0 ≤ j) : fieldKey i a = fieldKey j b ↔ i = j ∧ a = b := by
  constructor
  · intro h
    obtain ⟨d, rfl⟩ := Int.eq_ofNat_of_zero_le hi
    obtain ⟨d', rfl⟩ := Int.eq_ofNat_of_zero_le hj
    obtain rfl : d = d' := (fieldKey_deviceKey d a).unique (h ▸ fieldKey_deviceKey d' b)
    exact ⟨rfl, (String.append_right_inj _).1 h⟩
  · rintro ⟨rfl, rfl⟩
    rfl

/-- A key of `sample` that is about no field of a device. -/
inductive CallKey : String → Prop
  | gpu : CallKey "gpu"
  | throttleReasons : CallKey "gpu.throttle_reasons"
  | row (number : ℕ) : CallKey s!"gpu.sample.row.{number}.index"
  | throttleRow (number : ℕ) : CallKey s!"gpu.throttle.row.{number}.index"

theorem getElem?_append (s t : String) (n : ℕ) (h : n < s.toList.length) :
    (s ++ t).toList[n]? = s.toList[n]? := by
  rw [String.toList_append, List.getElem?_append_left h]

theorem CallKey.letter (h : CallKey k) : ∀ c ∈ k.toList[4]?, c.isDigit = false := by
  have hsample : "gpu.sample.row.".toList[4]? = some 's' := rfl
  have hthrottle : "gpu.throttle.row.".toList[4]? = some 't' := rfl
  cases h with
  | gpu => simp
  | throttleReasons => simp
  | row number =>
    show ∀ c ∈ ("gpu.sample.row." ++ toString number ++ ".index").toList[4]?, c.isDigit = false
    rw [String.append_assoc, getElem?_append _ _ _ (by decide), hsample]
    simp
  | throttleRow number =>
    show ∀ c ∈ ("gpu.throttle.row." ++ toString number ++ ".index").toList[4]?, c.isDigit = false
    rw [String.append_assoc, getElem?_append _ _ _ (by decide), hthrottle]
    simp

/-- The key of a device goes on with a digit. -/
theorem fieldKey_digit (hi : 0 ≤ i) (a : String) :
    ∃ c, (fieldKey i a).toList[4]? = some c ∧ c.isDigit = true := by
  obtain ⟨d, rfl⟩ := Int.eq_ofNat_of_zero_le hi
  obtain ⟨rest, -, hk⟩ := (fieldKey_deviceKey d a).toList
  rw [hk]
  cases hd : numeral d with
  | nil => exact absurd hd (numeral_ne_nil d)
  | cons c t =>
    refine ⟨c, rfl, isDigit_numeral (n := d) ?_⟩
    rw [hd]
    exact .head t

/-- No other key of `sample` does. -/
theorem CallKey.ne_fieldKey (h : CallKey k) (hi : 0 ≤ i) : k ≠ fieldKey i a := by
  rintro rfl
  obtain ⟨c, hc, hdigit⟩ := fieldKey_digit hi a
  rw [h.letter c hc] at hdigit
  cases hdigit

/-- A field of a sample is missed under its own name only. -/
theorem misses_name {s : GpuSample Number} (f : GpuField) :
    s.Misses f.name ↔ s.measurement f = none := by
  refine ⟨fun h => ?_, .measurement f⟩
  generalize hname : f.name = name at h
  cases h with
  | uuid _ => cases f <;> exact absurd hname (by decide)
  | throttleReasons _ => cases f <;> exact absurd hname (by decide)
  | measurement f' h => rwa [GpuField.name_inj.1 hname]

theorem misses_uuid {s : GpuSample Number} : s.Misses "uuid" ↔ s.uuid = none := by
  refine ⟨fun h => ?_, .uuid⟩
  generalize hname : "uuid" = name at h
  cases h with
  | uuid h => exact h
  | throttleReasons _ => exact absurd hname (by decide)
  | measurement f _ => cases f <;> exact absurd hname (by decide)

theorem misses_throttleReasons {s : GpuSample Number} :
    s.Misses "throttle_reasons" ↔ s.throttleReasonsAvailable = false := by
  refine ⟨fun h => ?_, .throttleReasons⟩
  generalize hname : "throttle_reasons" = name at h
  cases h with
  | uuid _ => exact absurd hname (by decide)
  | throttleReasons h => exact h
  | measurement f _ => cases f <;> exact absurd hname (by decide)

end Keys

/-! ## The keys of each step -/

section Steps

variable {c : SmiCall} {fields : List String} {row : SmiRow} {i : ℤ}

/-- The command failed, or some line of its output is malformed. -/
def Degraded (fields : List String) : Except String Text → Prop
  | .error _ => True
  | .ok output => (parseNvidiaCsv output fields).2 ≠ 0

theorem adds_query {key : String} {r : Except String Text}
    (h : c.invoke (queryArguments fields) = .ok r) :
    Adds (fun k => k = key ∧ Degraded fields r) (query c fields key) := by
  unfold query
  refine (Adds.bind h (.lift _) ?_).congr fun k => or_iff_right id
  cases r with
  | error reason =>
    refine (Adds.bind rfl (.setReason key reason) (.pure _)).congr fun k => ?_
    simp [Degraded]
  | ok output =>
    refine (Adds.bind rfl (.setDefaultReasonIf _ key "malformed_csv") (.pure _)).congr fun k => ?_
    simp [Degraded]

theorem adds_optionalText (row : SmiRow) (column : String) (i : ℤ) (field : String) :
    Adds (fun k => k = fieldKey i field ∧ (row.lookup column).join = none)
      (optionalText row column i field) := by
  unfold optionalText
  cases hcell : row.lookup column with
  | none =>
    refine (Adds.bind rfl (.setReason _ _) (.pure _)).congr fun k => ?_
    simp [fieldKey]
  | some cell =>
    cases cell with
    | none =>
      refine (Adds.bind rfl (.setReason _ _) (.pure _)).congr fun k => ?_
      simp [fieldKey]
    | some text => exact (Adds.pure _).congr fun k => by simp

theorem adds_smiMeasurement (row : SmiRow) (column : String) (i : ℤ) (f : GpuField)
    (maximum : Option ℚ) (mib : Bool) :
    Adds (fun k => k = fieldKey i f.name ∧
        (cellMeasurement (row.lookup column) maximum mib).toOption = none)
      (smiMeasurement row column i f maximum mib) := by
  unfold smiMeasurement
  cases cellMeasurement (row.lookup column) maximum mib with
  | ok x => exact (Adds.pure _).congr fun k => by simp [Except.toOption]
  | error reason =>
    refine (Adds.bind rfl (.setReason _ _) (.pure _)).congr fun k => ?_
    simp [fieldKey, Except.toOption]

theorem throttleKey (i : ℤ) : s!"gpu.{i}.throttle_reasons" = fieldKey i "throttle_reasons" := by
  show "gpu." ++ toString i ++ ("." ++ "throttle_reasons") = fieldKey i "throttle_reasons"
  rw [← String.append_assoc]
  rfl

theorem adds_smiThrottleReasons (row : Option SmiRow) (i : ℤ) :
    Adds (fun k => k = fieldKey i "throttle_reasons" ∧ (rowReasons row).2 = false)
      (smiThrottleReasons row i) := by
  cases row with
  | none =>
    refine (Adds.bind rfl (.setReason _ _) (.pure _)).congr fun k => ?_
    simp only [throttleKey, rowReasons, and_true, or_false]
  | some row =>
    refine (Adds.bind rfl (.note (K := fun k => k = fieldKey i "throttle_reasons" ∧
      (rowThrottle row).2 = false) ?_) (.pure _)).congr fun k => by simp only [rowReasons, or_false]
    intro k r
    rw [throttleKey]
    cases hrow : (rowThrottle row).2 with
    | true => simp
    | false => simp [or_comm, eq_comm]

theorem GpuField.exists_iff {P : GpuField → Prop} : (∃ f, P f) ↔
    P .utilizationPercent ∨ P .memoryUtilizationPercent ∨ P .vramUsedBytes ∨ P .vramTotalBytes ∨
      P .temperatureC ∨ P .memoryTemperatureC ∨ P .powerWatts ∨ P .powerLimitWatts ∨
        P .fanPercent ∨ P .coreClockMhz ∨ P .memoryClockMhz := by
  constructor
  · rintro ⟨f, h⟩
    cases f <;> simp [h]
  · intro h
    rcases h with h | h | h | h | h | h | h | h | h | h | h <;> exact ⟨_, h⟩

theorem adds_sampleFromRow (row : SmiRow) (i : ℤ) (reasons : List String × Bool) :
    Adds (fun k => (k = fieldKey i "uuid" ∧ (row.lookup "uuid").join = none) ∨
        ∃ f : GpuField, k = fieldKey i f.name ∧ cellValue f (row.lookup f.column) = none)
      (sampleFromRow row i reasons) := by
  unfold sampleFromRow
  refine Adds.congr (K := ?_) ?_ ?_
  rotate_left
  · refine .bind (L := ?_) (optionalText_outcome ..) (adds_optionalText _ _ _ _) ?_
    rotate_left
    iterate 11
      refine .bind (L := ?_) (smiMeasurement_outcome ..) (adds_smiMeasurement _ _ _ _ _ _) ?_
      rotate_left
    exact .pure _
  · intro k
    rw [GpuField.exists_iff, or_false]
    exact Iff.rfl

/-- The sample of a row, with the throttle rows. -/
def joinedSample (throttleRows : List (ℤ × SmiRow)) (p : ℤ × SmiRow) : GpuSample Number :=
  rowSample p.2 p.1 (rowReasons (throttleRows.lookup p.1))

theorem misses_joinedSample (throttleRows : List (ℤ × SmiRow)) (p : ℤ × SmiRow) (k : String) :
    (∃ name, (joinedSample throttleRows p).Misses name ∧ k = fieldKey p.1 name) ↔
      (k = fieldKey p.1 "throttle_reasons" ∧ (rowReasons (throttleRows.lookup p.1)).2 = false) ∨
        (k = fieldKey p.1 "uuid" ∧ (p.2.lookup "uuid").join = none) ∨
        ∃ f : GpuField, k = fieldKey p.1 f.name ∧ cellValue f (p.2.lookup f.column) = none := by
  have huuid : (joinedSample throttleRows p).uuid = none ↔ (p.2.lookup "uuid").join = none :=
    Option.map_eq_none_iff
  constructor
  · rintro ⟨name, h, rfl⟩
    cases h with
    | uuid h => exact .inr (.inl ⟨rfl, huuid.1 h⟩)
    | measurement f h => exact .inr (.inr ⟨f, rfl, h⟩)
    | throttleReasons h => exact .inl ⟨rfl, h⟩
  · rintro (⟨rfl, h⟩ | ⟨rfl, h⟩ | ⟨f, rfl, h⟩)
    · exact ⟨_, .throttleReasons h, rfl⟩
    · exact ⟨_, .uuid (huuid.2 h), rfl⟩
    · exact ⟨_, .measurement f h, rfl⟩

/-- The loop over the rows adds the keys of what their samples miss. -/
theorem adds_sampleRows (throttleRows rows : List (ℤ × SmiRow)) :
    Adds (fun k => ∃ p ∈ rows, ∃ name, (joinedSample throttleRows p).Misses name ∧
        k = fieldKey p.1 name)
      (sampleRows throttleRows rows) := by
  induction rows with
  | nil => exact (Adds.pure _).congr fun k => by simp
  | cons p rows ih =>
    refine (Adds.bind (smiThrottleReasons_outcome ..) (adds_smiThrottleReasons _ _)
      (.bind (sampleFromRow_outcome ..) (adds_sampleFromRow _ _ _)
        (.bind (sampleRows_outcome ..) ih (.pure _)))).congr fun k => ?_
    rw [List.exists_mem_cons_iff, misses_joinedSample, or_false, ← or_assoc, or_assoc]

/-- Rows with distinct indices that are not negative. -/
structure Indexed (rows : List (ℤ × SmiRow)) : Prop where
  nonneg : ∀ p ∈ rows, 0 ≤ p.1
  distinct : (rows.map Prod.fst).Nodup

/-- The keys of rejected rows. -/
def RowKeys (scope : String) (K : String → Prop) : Prop :=
  ∀ k, K k → ∃ number : ℕ, k = s!"{scope}.row.{number}.index"

theorem indexRows_adds (scope : String) (number : ℕ) (rows : List SmiRow)
    {indexed : List (ℤ × SmiRow)} (h : Indexed indexed) :
    ∃ indexed' K, (indexRows scope number rows indexed).outcome = .ok indexed' ∧
      Indexed indexed' ∧ Adds K (indexRows scope number rows indexed) ∧ RowKeys scope K := by
  induction rows generalizing number indexed with
  | nil => exact ⟨indexed, _, rfl, h, .pure _, fun _ => False.elim⟩
  | cons row rows ih =>
    rw [indexRows]
    -- a rejected row adds its own key and those of the rest
    have hreject (reason : String) : ∃ indexed' K,
        (setReason s!"{scope}.row.{number}.index" reason >>= fun _ =>
          indexRows scope (number + 1) rows indexed).outcome = .ok indexed' ∧ Indexed indexed' ∧
        Adds K (setReason s!"{scope}.row.{number}.index" reason >>= fun _ =>
          indexRows scope (number + 1) rows indexed) ∧ RowKeys scope K := by
      obtain ⟨indexed', K, hok, hindexed, hadds, hkeys⟩ := ih (number + 1) h
      refine ⟨indexed', _, hok, hindexed, .bind rfl (.setReason _ _) hadds, ?_⟩
      rintro k (rfl | hk)
      · exact ⟨number, rfl⟩
      · exact hkeys k hk
    split_ifs with hneg hdup
    · exact hreject "malformed_value"
    · exact hreject "duplicate_gpu_index"
    · refine ih (number + 1) ⟨?_, ?_⟩
      · intro p hp
        rcases List.mem_append.1 hp with hp | hp
        · exact h.nonneg p hp
        · rw [List.mem_singleton.1 hp]
          exact not_lt.1 hneg
      · rw [List.map_append]
        refine h.distinct.append (List.nodup_singleton _) ?_
        intro j hj hj'
        rw [List.map_singleton, List.mem_singleton] at hj'
        obtain rfl : j = smiRowIndex row := hj'
        exact hdup hj

theorem rowsByIndex_adds (rows : List SmiRow) (scope : String) :
    ∃ indexed K, (rowsByIndex rows scope).outcome = .ok indexed ∧ Indexed indexed ∧
      Adds K (rowsByIndex rows scope) ∧ RowKeys scope K :=
  indexRows_adds scope 0 rows ⟨by simp, .nil⟩

theorem adds_noRows : Adds (· = "gpu") noRows := by
  intro k r
  refine (Dict.mem_setdefault r _ _).trans ?_
  rw [or_comm, eq_comm]

theorem invoke_handled {arguments : List String} (h : (c.command arguments).Handled) :
    ∃ r, c.invoke arguments = .ok r := by
  cases hresolver : (c.command arguments).resolver with
  | raises e => exact absurd hresolver (h.resolver e)
  | permissionError => exact ⟨.error "permission_denied", by simp only [SmiCall.invoke, hresolver]⟩
  | osError => exact ⟨.error "nvidia_smi_not_found", by simp only [SmiCall.invoke, hresolver]⟩
  | executable path =>
    cases hrunner : (c.command arguments).runner with
    | raises e => exact absurd hrunner (h.runner e)
    | timeoutExpired | fileNotFoundError | permissionError | osError =>
      simp only [SmiCall.invoke, hresolver, hrunner]
      split_ifs <;> exact ⟨_, rfl⟩
    | completed returncode stdout =>
      simp only [SmiCall.invoke, hresolver, hrunner]
      split_ifs <;> exact ⟨_, rfl⟩

/-- The samples of a call and the keys it adds: those of its commands and rows, and those
    of what its samples miss. -/
theorem sample_adds (hc : c.Handled) :
    ∃ (rows throttleRows : List (ℤ × SmiRow)) (K : String → Prop),
      c.sample.outcome = .ok (rows.map (joinedSample throttleRows)) ∧
      rows.Pairwise (fun p q => p.1 < q.1) ∧ (∀ p ∈ rows, 0 ≤ p.1) ∧
      Adds (fun k => K k ∨ ∃ p ∈ rows, ∃ name, (joinedSample throttleRows p).Misses name ∧
        k = fieldKey p.1 name) c.sample ∧
      (∀ k, K k → CallKey k) ∧ (rows = [] → K "gpu") := by
  obtain ⟨core, hcore⟩ := invoke_handled (hc sampleFields (by simp))
  obtain ⟨throttle, hthrottle⟩ := invoke_handled (hc throttleColumns (by simp))
  obtain ⟨coreRows, K, hok, hindexed, hadds, hkeys⟩ :=
    rowsByIndex_adds (answered sampleFields core) "gpu.sample"
  obtain ⟨throttleRows, L, hok', -, hadds', hkeys'⟩ :=
    rowsByIndex_adds (answered throttleColumns throttle) "gpu.throttle"
  by_cases hnil : coreRows = []
  · refine ⟨[], [], fun k => (k = "gpu" ∧ Degraded sampleFields core) ∨ K k ∨ k = "gpu",
      ?_, .nil, by simp, ?_, ?_, fun _ => .inr (.inr rfl)⟩
    · rw [SmiCall.sample, Logged.bind_of_ok (query_outcome hcore), Logged.bind_of_ok hok,
        if_pos hnil]
      rfl
    · refine (Adds.bind (query_outcome hcore) (adds_query hcore) (.bind hok hadds (by
        rw [if_pos hnil]
        exact .bind rfl adds_noRows (.pure _)))).congr fun k => ?_
      simp
    · rintro k (⟨rfl, -⟩ | hk | rfl)
      · exact .gpu
      · obtain ⟨number, rfl⟩ := hkeys k hk
        exact .row number
      · exact .gpu
  · have hsorted := pairwise_insertionSort_lt Prod.fst (List.pairwise_map.1 hindexed.distinct)
    refine ⟨coreRows.insertionSort fun a b => a.1 ≤ b.1, throttleRows, fun k =>
      (k = "gpu" ∧ Degraded sampleFields core) ∨ K k ∨
        (k = "gpu.throttle_reasons" ∧ Degraded throttleColumns throttle) ∨ L k,
      ?_, hsorted, ?_, ?_, ?_, ?_⟩
    · rw [SmiCall.sample, Logged.bind_of_ok (query_outcome hcore), Logged.bind_of_ok hok,
        if_neg hnil, Logged.bind_of_ok (query_outcome hthrottle), Logged.bind_of_ok hok',
        sampleRows_outcome]
      rfl
    · intro p hp
      exact hindexed.nonneg p ((List.mem_insertionSort _).1 hp)
    · refine (Adds.bind (query_outcome hcore) (adds_query hcore) (.bind hok hadds (by
        rw [if_neg hnil]
        exact .bind (query_outcome hthrottle) (adds_query hthrottle)
          (.bind hok' hadds' (adds_sampleRows _ _))))).congr fun k => ?_
      simp only [List.mem_insertionSort, or_assoc]
    · rintro k (⟨rfl, -⟩ | hk | ⟨rfl, -⟩ | hk)
      · exact .gpu
      · obtain ⟨number, rfl⟩ := hkeys k hk
        exact .row number
      · exact .throttleReasons
      · obtain ⟨number, rfl⟩ := hkeys' k hk
        exact .throttleRow number
    · intro hempty
      rw [← List.length_eq_zero_iff, List.length_insertionSort, List.length_eq_zero_iff] at hempty
      exact absurd hempty hnil

end Steps

/-! ## A sample and its diagnostics -/

/-- A measurement is not negative, and not above its bound. -/
theorem cellMeasurement_range {cell : Option (Option Text)} {maximum : Option ℚ} {mib : Bool}
    {x : Number} (h : cellMeasurement cell maximum mib = .ok x) :
    ∃ q, x.toRat = some q ∧ 0 ≤ q ∧ (mib = false → ∀ m ∈ maximum, q ≤ m) := by
  unfold cellMeasurement at h
  split at h
  · cases h
  · cases h
  · split at h
    · cases h
    · rename_i q _
      split_ifs at h with hrange hmib
      · cases h
        rw [not_or, not_lt] at hrange
        refine ⟨q, rfl, hrange.1, fun _ m hm => ?_⟩
        rw [Option.mem_def] at hm
        simpa [hm] using hrange.2
      · split at h
        · rename_i bytes hbytes
          cases h
          rw [not_or, not_lt] at hrange
          refine ⟨⌊bytes⌋, rfl, ?_, fun hfalse => absurd hfalse (by simpa using hmib)⟩
          have hvalue : bytes = q * (1024 * 1024) := by
            unfold toDouble at hbytes
            split_ifs at hbytes
            exact (Double.finite.inj hbytes).symm
          rw [Int.cast_nonneg_iff, Int.floor_nonneg, hvalue]
          exact mul_nonneg hrange.1 (by norm_num)
        · cases h
    · cases h

theorem within_joinedSample (throttleRows : List (ℤ × SmiRow)) (p : ℤ × SmiRow) (f : GpuField) :
    Within (Set.Ici 0) ((joinedSample throttleRows p).measurement f) ∧
      (f ∈ GpuField.percents → Within (Set.Icc 0 100) ((joinedSample throttleRows p).measurement f))
      := by
  have hok : ∀ x, (joinedSample throttleRows p).measurement f = some x →
      cellMeasurement (p.2.lookup f.column) f.smiMaximum f.inMib = .ok x := by
    intro x hx
    change (cellMeasurement (p.2.lookup f.column) f.smiMaximum f.inMib).toOption = some x at hx
    cases hcell : cellMeasurement (p.2.lookup f.column) f.smiMaximum f.inMib with
    | error reason => rw [hcell] at hx; cases hx
    | ok y => rw [hcell] at hx; cases hx; rfl
  constructor
  · intro x hx
    obtain ⟨q, hq, hpos, -⟩ := cellMeasurement_range (hok x hx)
    exact ⟨q, hq, hpos⟩
  · intro hf x hx
    obtain ⟨q, hq, hpos, hmax⟩ := cellMeasurement_range (hok x hx)
    have hpercent : f.inMib = false ∧ f.smiMaximum = some 100 := by
      simp only [GpuField.percents, List.mem_cons, List.not_mem_nil, or_false] at hf
      rcases hf with rfl | rfl | rfl <;> exact ⟨rfl, rfl⟩
    exact ⟨q, hq, hpos, hmax hpercent.1 100 hpercent.2⟩

/-- Without a recognized column there is no active one. -/
theorem rowReasons_of_unavailable {row : Option SmiRow} (h : (rowReasons row).2 = false) :
    (rowReasons row).1 = [] := by
  cases row with
  | none => rfl
  | some row =>
    have hnone := List.any_eq_false.1 h
    have hactive : throttleFields.filter
        (fun p => throttleState row p.2 = some "active".toList) = [] := by
      refine List.filter_eq_nil_iff.2 fun p hp => ?_
      have := hnone p hp
      simp only [decide_eq_true_eq, not_or] at this ⊢
      exact this.1
    rw [rowReasons, rowThrottle, hactive, List.map_nil]

/-- **A sample is honest for every outcome of its commands.**  If both commands do what
    `_invoke` handles, and whatever earlier operations left behind, a sample returns;
    its devices are in order; its numbers are in range; a field of a sampled device has
    a reason exactly if it has no value; no sample at all has one under `gpu`; and
    nothing of an earlier operation is left. -/
theorem smi_sample_honest (r : NvidiaSmiReader) {c : SmiCall} (hc : c.Handled) :
    ∃ xs, (r.sample c).1 = .ok xs ∧ HonestSample xs (r.sample c).2.unavailableReasons ∧
      (∀ k ∈ (r.sample c).2.unavailableReasons,
        CallKey k ∨ ∃ s ∈ xs, ∃ name, s.Misses name ∧ k = fieldKey s.index name) ∧
      ∀ r' : NvidiaSmiReader, (r'.sample c).2.unavailableReasons =
        (r.sample c).2.unavailableReasons := by
  obtain ⟨rows, throttleRows, K, hok, hsorted, hnonneg, hadds, hkeys, hempty⟩ := sample_adds hc
  have hmem : ∀ k, k ∈ (r.sample c).2.unavailableReasons ↔
      K k ∨ ∃ p ∈ rows, ∃ name, (joinedSample throttleRows p).Misses name ∧
        k = fieldKey p.1 name := by
    intro k
    rw [NvidiaSmiReader.unavailableReasons, Dict.ofItems_sortedItems]
    exact (hadds k ∅).trans (or_iff_right Std.ExtTreeMap.not_mem_empty)
  have hfield : ∀ p ∈ rows, ∀ name, fieldKey p.1 name ∈ (r.sample c).2.unavailableReasons ↔
      (joinedSample throttleRows p).Misses name := by
    intro p hp name
    rw [hmem]
    constructor
    · rintro (hK | ⟨q, hq, name', hmisses, hkey⟩)
      · exact absurd rfl ((hkeys _ hK).ne_fieldKey (hnonneg p hp))
      · obtain ⟨hindex, rfl⟩ := (fieldKey_inj (hnonneg p hp) (hnonneg q hq)).1 hkey
        rwa [List.inj_on_of_nodup_map (nodup_keys hsorted) hp hq hindex]
    · intro h
      exact .inr ⟨p, hp, name, h, rfl⟩
  refine ⟨_, hok, ?_, ?_, fun _ => rfl⟩
  · constructor
    case increasing => exact List.pairwise_map.2 hsorted
    case nonneg => exact List.forall_mem_map.2 hnonneg
    case percent =>
      exact List.forall_mem_map.2 fun p _ f hf => (within_joinedSample throttleRows p f).2 hf
    case measurement =>
      exact List.forall_mem_map.2 fun p _ f => (within_joinedSample throttleRows p f).1
    case field =>
      exact List.forall_mem_map.2 fun p hp f => (hfield p hp f.name).trans (misses_name f)
    case uuid => exact List.forall_mem_map.2 fun p hp => (hfield p hp "uuid").trans misses_uuid
    case throttleReasons =>
      exact List.forall_mem_map.2 fun p hp =>
        (hfield p hp "throttle_reasons").trans misses_throttleReasons
    case unavailable => exact List.forall_mem_map.2 fun p _ => rowReasons_of_unavailable
    case empty =>
      intro hnil
      exact (hmem _).2 (.inl (hempty (List.map_eq_nil_iff.1 hnil)))
  · intro k hk
    rcases (hmem k).1 hk with hK | ⟨p, hp, name, hmisses, rfl⟩
    · exact .inl (hkeys k hK)
    · exact .inr ⟨_, List.mem_map_of_mem hp, name, hmisses, rfl⟩

/-- A table that was truncated: a row that ends after the UUID, one without an index, and
    the row of another device, of which no throttle reasons are known. -/
def truncatedCall : SmiCall where
  command arguments := {
    resolver := .executable (some "/usr/bin/nvidia-smi")
    runner :=
      if arguments = queryArguments sampleFields then
        .completed 0 "1, GPU-1\nN/A, GPU-2\n0, GPU-0, 50, 200\n".toList
      else .completed 9 [] }

/-- Two devices, in order; the memory utilization of 200 % is refused, with a reason. -/
theorem smi_sample_honest_truncated :
    ∃ xs, (NvidiaSmiReader.sample { reasons := Dict.set ∅ "gpu.7.uuid" "field_missing" }
        truncatedCall).1 = .ok xs ∧
      HonestSample xs (NvidiaSmiReader.sample { reasons := Dict.set ∅ "gpu.7.uuid" "field_missing" }
        truncatedCall).2.unavailableReasons := by
  have hc : truncatedCall.Handled := by
    intro fields _
    constructor
    · rintro e ⟨⟩
    · intro e h
      simp only [truncatedCall] at h
      split_ifs at h
  obtain ⟨xs, hok, hhonest, -⟩ := smi_sample_honest _ hc
  exact ⟨xs, hok, hhonest⟩

end SweatMeter
