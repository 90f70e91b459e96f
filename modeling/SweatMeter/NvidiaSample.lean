/-
  What `NvidiaSmiReader.sample` computes from printed tables: the rows of a table
  are read back cell by cell, whatever their order, and each field of a sample is
  a function of the cell in its column.
-/
import SweatMeter.Py.Firsts
import SweatMeter.Nvidia

namespace SweatMeter

open Py

/-! ## Fields of a row -/

/-- The column a field is read from. -/
def GpuField.column : GpuField → String
  | utilizationPercent => "utilization.gpu"
  | memoryUtilizationPercent => "utilization.memory"
  | vramUsedBytes => "memory.used"
  | vramTotalBytes => "memory.total"
  | temperatureC => "temperature.gpu"
  | memoryTemperatureC => "temperature.memory"
  | powerWatts => "power.draw"
  | powerLimitWatts => "power.limit"
  | fanPercent => "fan.speed"
  | coreClockMhz => "clocks.current.sm"
  | memoryClockMhz => "clocks.current.memory"

def GpuField.smiMaximum : GpuField → Option ℚ
  | utilizationPercent | memoryUtilizationPercent | fanPercent => some 100
  | _ => none

def GpuField.inMib : GpuField → Bool
  | vramUsedBytes | vramTotalBytes => true
  | _ => false

/-- The measurement that `_sample_from_row` takes from a cell. -/
def cellValue (f : GpuField) (cell : Option (Option Text)) : Measurement Number :=
  (cellMeasurement cell f.smiMaximum f.inMib).toOption

/-- The throttle reasons of a device, by its row if there is one. -/
def rowReasons : Option SmiRow → List String × Bool
  | none => ([], false)
  | some row => rowThrottle row

/-- The sample that the cells of a row make. -/
def rowSample (row : SmiRow) (index : ℤ) (reasons : List String × Bool) : GpuSample Number where
  index := index
  uuid := (row.lookup "uuid").join.map String.ofList
  measurement f := cellValue f (row.lookup f.column)
  throttleReasons := reasons.1
  throttleReasonsAvailable := reasons.2

theorem optionalText_outcome (row : SmiRow) (column : String) (index : ℤ) (field : String) :
    (optionalText row column index field).outcome = .ok (row.lookup column).join := by
  unfold optionalText
  match row.lookup column with
  | none => rfl
  | some none => rfl
  | some (some _) => rfl

theorem smiMeasurement_outcome (row : SmiRow) (column : String) (index : ℤ) (f : GpuField)
    (maximum : Option ℚ) (mib : Bool) :
    (smiMeasurement row column index f maximum mib).outcome =
      .ok (cellMeasurement (row.lookup column) maximum mib).toOption := by
  unfold smiMeasurement
  cases cellMeasurement (row.lookup column) maximum mib <;> rfl

theorem smiThrottleReasons_outcome (row : Option SmiRow) (index : ℤ) :
    (smiThrottleReasons row index).outcome = .ok (rowReasons row) := by
  cases row <;> rfl

/-- **A row's sample is made of its cells, each field of its own.** -/
theorem sampleFromRow_outcome (row : SmiRow) (index : ℤ) (reasons : List String × Bool) :
    (sampleFromRow row index reasons).outcome = .ok (rowSample row index reasons) := by
  unfold sampleFromRow
  refine (Logged.bind_of_ok (optionalText_outcome ..)).2 ?_
  iterate 11 refine (Logged.bind_of_ok (smiMeasurement_outcome ..)).2 ?_
  refine congrArg Except.ok (congrArg (fun m => GpuSample.mk (ν := Number) _ _ m _ _) (funext fun f => ?_))
  cases f <;> rfl

theorem sampleRows_outcome (throttleRows rows : List (ℤ × SmiRow)) :
    (sampleRows throttleRows rows).outcome =
      .ok (rows.map fun p => rowSample p.2 p.1 (rowReasons (throttleRows.lookup p.1))) := by
  induction rows with
  | nil => rfl
  | cons p rows ih =>
    obtain ⟨index, row⟩ := p
    refine (Logged.bind_of_ok (smiThrottleReasons_outcome ..)).2 ?_
    refine (Logged.bind_of_ok (sampleFromRow_outcome ..)).2 ?_
    exact (Logged.bind_of_ok ih).2 rfl

/-! ## Tables -/

/-- The row that these cells make. -/
def toRow (columns : List String) (cells : List Text) : SmiRow :=
  columns.zip (cells.map parseCell)

/-- A row of a table: printed cells, not all of them blank. -/
structure PrintedRow (cells : List Text) : Prop where
  printed : ∀ cell ∈ cells, Csv.Printed cell
  visible : ∃ cell ∈ cells.head?, ∃ c ∈ cell, isspace c = false

/-- A table, a line for each row. -/
def table (rows : List (List Text)) : Text := unlines (rows.map Csv.join)

theorem PrintedRow.ne_nil {cells : List Text} (h : PrintedRow cells) : cells ≠ [] := by
  rintro rfl
  obtain ⟨cell, hcell, -⟩ := h.visible
  cases hcell

theorem PrintedRow.strip_join {cells : List Text} (h : PrintedRow cells) :
    strip (Csv.join cells) ≠ [] := by
  obtain ⟨cell, hcell, c, hc, hspace⟩ := h.visible
  cases cells with
  | nil => cases hcell
  | cons cell' cells =>
    cases hcell
    exact strip_ne_nil (Csv.mem_join_of_mem_head hc) hspace

/-- The line is read as this row. -/
structure ReadsAs (columns : List String) (line : Text) (row : SmiRow) : Prop where
  breaks : ∀ c ∈ line, isLineBreak c = false
  visible : strip line ≠ []
  cells : ∃ cells, Csv.readLine line = .ok cells ∧ row = toRow columns cells

theorem PrintedRow.readsAs {cells : List Text} (h : PrintedRow cells) (columns : List String) :
    ReadsAs columns (Csv.join cells) (toRow columns cells) where
  breaks := Csv.isLineBreak_join fun cell hcell => (h.printed cell hcell).line
  visible := h.strip_join
  cells := ⟨cells, Csv.readLine_printed h.ne_nil h.printed, rfl⟩

theorem parseLines_readsAs {columns : List String} {lines : List Text} {rows : List SmiRow}
    (h : List.Forall₂ (ReadsAs columns) lines rows) : parseLines columns lines = (rows, 0) := by
  induction h with
  | nil => rfl
  | cons hline _ ih =>
    obtain ⟨cells, hcells, rfl⟩ := hline.cells
    simp only [parseLines, ih, if_neg hline.visible, hcells]
    rfl

/-- **Lines that are read as rows are read back.** -/
theorem parseNvidiaCsv_unlines {columns : List String} {lines : List Text} {rows : List SmiRow}
    (h : List.Forall₂ (ReadsAs columns) lines rows) :
    parseNvidiaCsv (unlines lines) columns = (rows, 0) := by
  have hlines : ∀ line ∈ lines, ∀ c ∈ line, isLineBreak c = false := by
    induction h with
    | nil => simp
    | cons hline _ ih => exact List.forall_mem_cons.2 ⟨hline.breaks, ih⟩
  rw [parseNvidiaCsv, splitlines_unlines hlines, parseLines_readsAs h]

/-- A table is read back. -/
theorem parseNvidiaCsv_table (columns : List String) {rows : List (List Text)}
    (h : ∀ cells ∈ rows, PrintedRow cells) :
    parseNvidiaCsv (table rows) columns = (rows.map (toRow columns), 0) := by
  refine parseNvidiaCsv_unlines ?_
  rw [List.forall₂_map_left_iff, List.forall₂_map_right_iff, List.forall₂_same]
  exact fun cells hcells => (h cells hcells).readsAs columns

/-! ## Queries -/

/-- The rows a command yields; none if it fails. -/
def answered (columns : List String) : Except String Text → List SmiRow
  | .error _ => []
  | .ok output => (parseNvidiaCsv output columns).1

theorem query_outcome {c : SmiCall} {fields : List String} {key : String}
    {r : Except String Text} (h : c.invoke (queryArguments fields) = .ok r) :
    (query c fields key).outcome = .ok (answered fields r) := by
  unfold query
  refine (Logged.bind_of_ok h).2 ?_
  cases r <;> rfl

/-- The command prints this text. -/
def SmiCommand.PrintsText (command : SmiCommand) (text : Text) : Prop :=
  (∃ path, command.resolver = .executable (some path) ∧ path ≠ "") ∧
    command.runner = .completed 0 text

/-- The command prints this table. -/
def SmiCommand.PrintsTable (command : SmiCommand) (rows : List (List Text)) : Prop :=
  (∃ path, command.resolver = .executable (some path) ∧ path ≠ "") ∧
    command.runner = .completed 0 (table rows)

theorem invoke_text {c : SmiCall} {arguments : List String} {text : Text}
    (h : (c.command arguments).PrintsText text) :
    c.invoke arguments = .ok (if c.maxOutputBytes < utf8Length text
      then .error "nvidia_smi_output_too_large" else .ok text) := by
  obtain ⟨⟨path, hpath, hne⟩, hrun⟩ := h
  simp only [SmiCall.invoke, hpath, hrun]
  rw [if_neg (by simpa using hne), if_neg (by simp)]
  split <;> rfl

/-- These entries, if the table is within the limit of the output. -/
def SmiCall.kept {T : Type} (c : SmiCall) (rows : List (List Text)) (entries : List T) : List T :=
  if c.maxOutputBytes < utf8Length (table rows) then [] else entries

theorem query_table {c : SmiCall} {fields : List String} {key : String} {rows : List (List Text)}
    (h : (c.command (queryArguments fields)).PrintsTable rows)
    (hrows : ∀ cells ∈ rows, PrintedRow cells) :
    (query c fields key).outcome = .ok ((c.kept rows rows).map (toRow fields)) := by
  rw [query_outcome (invoke_text h), SmiCall.kept]
  split
  · rfl
  · rw [answered, parseNvidiaCsv_table fields hrows]

/-! ## Rows by index -/

/-- Rows with valid and distinct indices are kept, without a note. -/
theorem indexRows_eq (scope : String) (number : ℕ) {rows : List SmiRow}
    {indexed : List (ℤ × SmiRow)} (hpos : ∀ row ∈ rows, 0 ≤ smiRowIndex row)
    (hnodup : (indexed.map Prod.fst ++ rows.map smiRowIndex).Nodup) :
    indexRows scope number rows indexed =
      pure (indexed ++ rows.map fun row => (smiRowIndex row, row)) := by
  induction rows generalizing number indexed with
  | nil => rw [List.map_nil, List.append_nil]; rfl
  | cons row rows ih =>
    have hrow := hpos row List.mem_cons_self
    rw [List.map_cons, List.nodup_append] at hnodup
    obtain ⟨h₁, h₂, hdisjoint⟩ := hnodup
    have hnew : smiRowIndex row ∉ indexed.map Prod.fst := fun hmem =>
      hdisjoint _ hmem _ List.mem_cons_self rfl
    rw [indexRows, if_neg (by omega), if_neg hnew, ih _ fun r hr => hpos r (.tail _ hr)]
    · simp
    · rw [List.map_append, List.append_assoc]
      exact List.nodup_append.2 ⟨h₁, h₂, hdisjoint⟩

theorem rowsByIndex_eq (scope : String) {rows : List SmiRow}
    (hpos : ∀ row ∈ rows, 0 ≤ smiRowIndex row) (hnodup : (rows.map smiRowIndex).Nodup) :
    rowsByIndex rows scope = pure (rows.map fun row => (smiRowIndex row, row)) := by
  rw [rowsByIndex, indexRows_eq scope 0 hpos (by simpa using hnodup), List.nil_append]

theorem nodup_keys {T : Type} {entries : List (ℤ × T)}
    (h : entries.Pairwise fun a b => a.1 < b.1) : (entries.map Prod.fst).Nodup :=
  List.pairwise_map.2 (h.imp fun hlt => hlt.ne)

theorem lookup_of_mem {K T : Type} [BEq K] [LawfulBEq K] {entries : List (K × T)}
    (hnodup : (entries.map Prod.fst).Nodup) {i : K} {x : T} (h : (i, x) ∈ entries) :
    entries.lookup i = some x := by
  induction entries with
  | nil => cases h
  | cons e entries ih =>
    obtain ⟨j, y⟩ := e
    rw [List.map_cons, List.nodup_cons] at hnodup
    rcases List.mem_cons.1 h with heq | hmem
    · cases heq
      exact List.lookup_cons_self
    · have hne : i ≠ j := by
        rintro rfl
        exact hnodup.1 (List.mem_map.2 ⟨(i, x), hmem, rfl⟩)
      rw [List.lookup_cons, beq_eq_false_iff_ne.2 hne]
      exact ih hnodup.2 hmem

theorem lookup_perm {K T : Type} [BEq K] [LawfulBEq K] {xs ys : List (K × T)} (hperm : xs.Perm ys)
    (hnodup : (ys.map Prod.fst).Nodup) (i : K) : xs.lookup i = ys.lookup i := by
  cases h : ys.lookup i with
  | none =>
    rw [List.lookup_eq_none_iff] at h ⊢
    exact fun p hp => h p (hperm.mem_iff.1 hp)
  | some x =>
    obtain ⟨l₁, l₂, rfl, -⟩ := List.lookup_eq_some_iff.1 h
    refine lookup_of_mem ((hperm.map Prod.fst).nodup_iff.2 hnodup) (hperm.mem_iff.2 ?_)
    simp

/-- Positions are distinct keys, in order. -/
theorem sorted_positions {S T : Type} (f : S × ℕ → T) (xs : List S) :
    (xs.zipIdx.map fun p => ((p.2 : ℤ), f p)).Pairwise fun a b => a.1 < b.1 := by
  have hsorted : (xs.zipIdx.map Prod.snd).Pairwise (· < ·) := by
    rw [List.zipIdx_map_snd]
    exact List.pairwise_lt_range'
  exact List.pairwise_map.2 ((List.pairwise_map.1 hsorted).imp Int.ofNat_lt.2)

/-- The rows are those of these entries, in some order, each with its entry's index. -/
structure IndexedRows (entries : List (ℤ × SmiRow)) (rows : List SmiRow) : Prop where
  perm : rows.Perm (entries.map Prod.snd)
  index : ∀ e ∈ entries, smiRowIndex e.2 = e.1
  nonneg : ∀ e ∈ entries, 0 ≤ e.1
  sorted : entries.Pairwise fun a b => a.1 < b.1

/-- A row by its index. -/
def keyedRow (row : SmiRow) : ℤ × SmiRow := (smiRowIndex row, row)

namespace IndexedRows

variable {entries : List (ℤ × SmiRow)} {rows : List SmiRow}

theorem perm_keyed (h : IndexedRows entries rows) : (rows.map keyedRow).Perm entries := by
  have heq : (entries.map Prod.snd).map keyedRow = entries := by
    rw [List.map_map]
    conv_rhs => rw [← List.map_id entries]
    exact List.map_congr_left fun e he => by simp [keyedRow, h.index e he]
  have hperm := h.perm.map keyedRow
  rwa [heq] at hperm

theorem rowsByIndex_eq (h : IndexedRows entries rows) (scope : String) :
    SweatMeter.rowsByIndex rows scope = pure (rows.map keyedRow) := by
  rw [SweatMeter.rowsByIndex_eq]
  · rfl
  · intro row hrow
    obtain ⟨e, he, rfl⟩ := List.mem_map.1 (h.perm.mem_iff.1 hrow)
    rw [h.index e he]
    exact h.nonneg e he
  · have hkeys := (h.perm_keyed.map Prod.fst).nodup_iff.2 (nodup_keys h.sorted)
    rwa [List.map_map] at hkeys

theorem rowsByIndex (h : IndexedRows entries rows) (scope : String) :
    (rowsByIndex rows scope).outcome = .ok (rows.map keyedRow) :=
  congrArg Logged.outcome (h.rowsByIndex_eq scope)

/-- Sorting by index puts the entries in their order. -/
theorem insertionSort (h : IndexedRows entries rows) :
    (rows.map keyedRow).insertionSort (fun a b => a.1 ≤ b.1) = entries := by
  have hdistinct : entries.Pairwise fun a b => a.1 ≠ b.1 := h.sorted.imp Int.ne_of_lt
  have hsorted : entries.Pairwise fun a b => a.1 ≤ b.1 := h.sorted.imp Int.le_of_lt
  rw [← insertionSort_eq_of_perm Prod.fst h.perm_keyed.symm hdistinct]
  exact hsorted.insertionSort_eq

theorem lookup (h : IndexedRows entries rows) (i : ℤ) :
    (rows.map keyedRow).lookup i = entries.lookup i :=
  lookup_perm h.perm_keyed (nodup_keys h.sorted) i

end IndexedRows

/-- The rows are those of these entries, by their indices, in some order. -/
structure Lists (columns : List String) (entries : List (ℤ × List Text)) (rows : List (List Text)) :
    Prop where
  perm : rows.Perm (entries.map Prod.snd)
  printed : ∀ e ∈ entries, PrintedRow e.2
  index : ∀ e ∈ entries, smiRowIndex (toRow columns e.2) = e.1
  nonneg : ∀ e ∈ entries, 0 ≤ e.1
  sorted : entries.Pairwise fun a b => a.1 < b.1

/-- An entry, read back. -/
def readEntry (columns : List String) (e : ℤ × List Text) : ℤ × SmiRow := (e.1, toRow columns e.2)

namespace Lists

variable {columns : List String} {entries : List (ℤ × List Text)} {rows : List (List Text)}

theorem kept (h : Lists columns entries rows) (c : SmiCall) (output : List (List Text)) :
    Lists columns (c.kept output entries) (c.kept output rows) := by
  unfold SmiCall.kept
  split
  · exact ⟨.nil, by simp, by simp, by simp, .nil⟩
  · exact h

theorem printed_rows (h : Lists columns entries rows) : ∀ cells ∈ rows, PrintedRow cells := by
  intro cells hcells
  obtain ⟨e, he, rfl⟩ := List.mem_map.1 (h.perm.mem_iff.1 hcells)
  exact h.printed e he

/-- The rows read back are those of the entries read back. -/
theorem indexed (h : Lists columns entries rows) :
    IndexedRows (entries.map (readEntry columns)) (rows.map (toRow columns)) where
  perm := by
    have hperm := h.perm.map (toRow columns)
    rw [List.map_map] at hperm ⊢
    exact hperm
  index e he := by
    obtain ⟨entry, hentry, rfl⟩ := List.mem_map.1 he
    exact h.index entry hentry
  nonneg e he := by
    obtain ⟨entry, hentry, rfl⟩ := List.mem_map.1 he
    exact h.nonneg entry hentry
  sorted := List.pairwise_map.2 h.sorted

end Lists

/-- **A sample of two tables, whatever the order of their lines.** -/
theorem sample_outcome {c : SmiCall} {entries throttle : List (ℤ × List Text)}
    {rows throttleRows : List (List Text)}
    (hrun : (c.command (queryArguments sampleFields)).PrintsTable rows)
    (hrun' : (c.command (queryArguments throttleColumns)).PrintsTable throttleRows)
    (h : Lists sampleFields entries rows) (h' : Lists throttleColumns throttle throttleRows) :
    c.sample.outcome = .ok (((c.kept rows entries).map (readEntry sampleFields)).map fun p =>
      rowSample p.2 p.1 (rowReasons
        (((c.kept throttleRows throttle).map (readEntry throttleColumns)).lookup p.1))) := by
  have hkept := (h.kept c rows).indexed
  have hkept' := (h'.kept c throttleRows).indexed
  unfold SmiCall.sample
  refine (Logged.bind_of_ok (query_table hrun h.printed_rows)).2 ?_
  refine (Logged.bind_of_ok (hkept.rowsByIndex _)).2 ?_
  split_ifs with hnil
  · have := hkept.perm_keyed
    rw [hnil] at this
    rw [← this.nil_eq]
    rfl
  · refine (Logged.bind_of_ok (query_table hrun' h'.printed_rows)).2 ?_
    refine (Logged.bind_of_ok (hkept'.rowsByIndex _)).2 ?_
    rw [hkept.insertionSort, sampleRows_outcome]
    simp only [hkept'.lookup]

/-- The size of a table does not depend on the order of its lines. -/
theorem utf8Length_table_perm {rows rows' : List (List Text)} (h : rows.Perm rows') :
    utf8Length (table rows) = utf8Length (table rows') := by
  exact utf8Length_perm ((h.map _).flatMap_right _)

end SweatMeter
