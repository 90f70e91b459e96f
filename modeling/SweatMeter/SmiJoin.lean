/-
  How `NvidiaSmiReader.sample` joins its two tables.

  Each output is a table keyed by the index column.  Where every line is a row
  with an index of its own, the reader's two tables are those of the lines, the
  samples are their left join in the order of the indices, and the order of the
  lines is seen nowhere, also not in the diagnostics.
-/
import SweatMeter.SmiDiagnostics

namespace SweatMeter

open Py

/-- The row a line makes; an undecodable line has no cells. -/
def lineRow (columns : List String) (line : Text) : SmiRow :=
  match Csv.readLine line with
  | .ok cells => toRow columns cells
  | .error _ => []

def lineIndex (columns : List String) (line : Text) : ℤ := smiRowIndex (lineRow columns line)

/-- The line is a row with a valid index. -/
structure ValidLine (columns : List String) (line : Text) : Prop where
  visible : strip line ≠ []
  decodable : ∃ cells, Csv.readLine line = .ok cells
  index : 0 ≤ lineIndex columns line

/-- Every line is a row with an index of its own. -/
structure KeyedText (columns : List String) (text : Text) : Prop where
  valid : ∀ line ∈ splitlines text, ValidLine columns line
  distinct : (splitlines text).Pairwise fun a b => lineIndex columns a ≠ lineIndex columns b

/-- The same lines in another order, on the same side of the limit for outputs. -/
structure Rearranged (limit : ℕ) (text text' : Text) : Prop where
  lines : (splitlines text).Perm (splitlines text')
  size : limit < utf8Length text ↔ limit < utf8Length text'

variable {c c' : SmiCall} {columns : List String} {text text' : Text} {key : String}

/-- The table of an output, by index; nothing is read from one that is too long. -/
def SmiCall.entries (c : SmiCall) (columns : List String) (text : Text) : List (ℤ × SmiRow) :=
  if c.maxOutputBytes < utf8Length text then []
  else ((splitlines text).map fun line => keyedRow (lineRow columns line)).insertionSort
    fun a b => a.1 ≤ b.1

/-! ## One table -/

theorem parseLines_valid {lines : List Text} (h : ∀ line ∈ lines, ValidLine columns line) :
    parseLines columns lines = (lines.map (lineRow columns), 0) := by
  induction lines with
  | nil => rfl
  | cons line lines ih =>
    obtain ⟨hline, hlines⟩ := List.forall_mem_cons.1 h
    obtain ⟨cells, hcells⟩ := hline.decodable
    simp only [parseLines, ih hlines, if_neg hline.visible, hcells, List.map_cons, lineRow, toRow]

theorem KeyedText.keyed_distinct (h : KeyedText columns text) :
    ((splitlines text).map fun line => keyedRow (lineRow columns line)).Pairwise
      fun a b => a.1 ≠ b.1 := List.pairwise_map.2 h.distinct

theorem KeyedText.entries_lt (h : KeyedText columns text) (c : SmiCall) :
    (c.entries columns text).Pairwise fun a b => a.1 < b.1 := by
  unfold SmiCall.entries
  split_ifs
  · exact .nil
  · exact pairwise_insertionSort_lt Prod.fst h.keyed_distinct

/-- The rows a query reads, in the order of the lines. -/
def SmiCall.readRows (c : SmiCall) (columns : List String) (text : Text) : List SmiRow :=
  if c.maxOutputBytes < utf8Length text then [] else (splitlines text).map (lineRow columns)

theorem KeyedText.indexedRows (h : KeyedText columns text) (c : SmiCall) :
    IndexedRows (c.entries columns text) (c.readRows columns text) := by
  have hlt := h.entries_lt c
  unfold SmiCall.readRows
  unfold SmiCall.entries at hlt ⊢
  split_ifs at hlt ⊢ with hlimit
  · exact ⟨.nil, by simp, by simp, .nil⟩
  · have hperm := List.perm_insertionSort (fun a b : ℤ × SmiRow => a.1 ≤ b.1)
      ((splitlines text).map fun line => keyedRow (lineRow columns line))
    have hmem :
        ∀ e ∈ ((splitlines text).map fun line => keyedRow (lineRow columns line)).insertionSort
          (fun a b => a.1 ≤ b.1), ∃ line ∈ splitlines text, keyedRow (lineRow columns line) = e := by
      intro e he
      exact List.mem_map.1 (hperm.mem_iff.1 he)
    refine ⟨?_, ?_, ?_, hlt⟩
    · refine ((hperm.map Prod.snd).trans ?_).symm
      rw [List.map_map]
      exact .refl _
    · intro e he
      obtain ⟨line, -, rfl⟩ := hmem e he
      rfl
    · intro e he
      obtain ⟨line, hline, rfl⟩ := hmem e he
      exact (h.valid line hline).index

/-- What a query notes on such an output. -/
def SmiCall.queryNote (c : SmiCall) (key : String) (text : Text) (r : Dict String) : Dict String :=
  if c.maxOutputBytes < utf8Length text then r.set key "nvidia_smi_output_too_large" else r

theorem query_keyed (hprint : (c.command (queryArguments columns)).PrintsText text)
    (h : KeyedText columns text) (key : String) :
    (query c columns key).outcome = .ok (c.readRows columns text) ∧
      (query c columns key).log = c.queryNote key text := by
  have hinvoke := invoke_text hprint
  unfold SmiCall.readRows SmiCall.queryNote
  split_ifs at hinvoke ⊢ with hlimit
  · refine ⟨query_outcome hinvoke, ?_⟩
    rw [query, Logged.log_bind_of_ok hinvoke]
    rfl
  · have hparse : parseNvidiaCsv text columns = ((splitlines text).map (lineRow columns), 0) :=
      parseLines_valid h.valid
    constructor
    · rw [query_outcome hinvoke, answered, hparse]
    · rw [query, Logged.log_bind_of_ok hinvoke]
      simp only [hparse]
      rfl

theorem Rearranged.entries_eq (hc : c'.maxOutputBytes = c.maxOutputBytes)
    (h : Rearranged c.maxOutputBytes text text') (hkeyed : KeyedText columns text) :
    c'.entries columns text' = c.entries columns text := by
  simp only [SmiCall.entries, hc, h.size]
  split_ifs
  · rfl
  · exact (insertionSort_eq_of_perm Prod.fst (h.lines.map _) hkeyed.keyed_distinct).symm

theorem Rearranged.queryNote_eq (hc : c'.maxOutputBytes = c.maxOutputBytes)
    (h : Rearranged c.maxOutputBytes text text') :
    c'.queryNote key text' = c.queryNote key text := by
  funext r
  simp only [SmiCall.queryNote, hc, h.size]

theorem Rearranged.keyed (h : Rearranged c.maxOutputBytes text text')
    (hkeyed : KeyedText columns text) : KeyedText columns text' where
  valid line hline := hkeyed.valid line (h.lines.mem_iff.2 hline)
  distinct := (h.lines.pairwise_iff fun h => h.symm).1 hkeyed.distinct

/-- Terminated lines in another order are rearranged, whatever the limit. -/
theorem rearranged_unlines {lines lines' : List Text} (limit : ℕ) (h : lines.Perm lines')
    (hbreak : ∀ line ∈ lines, ∀ c ∈ line, isLineBreak c = false) :
    Rearranged limit (unlines lines) (unlines lines') where
  lines := by
    rw [splitlines_unlines hbreak,
      splitlines_unlines fun line hline => hbreak line (h.mem_iff.2 hline)]
    exact h
  size := by rw [unlines, unlines, utf8Length_perm (h.flatMap_right _)]

/-! ## The join -/

theorem sampleRows_congr {throttleRows throttleRows' : List (ℤ × SmiRow)}
    (h : ∀ i, throttleRows.lookup i = throttleRows'.lookup i) (rows : List (ℤ × SmiRow)) :
    sampleRows throttleRows rows = sampleRows throttleRows' rows := by
  induction rows with
  | nil => rfl
  | cons p rows ih => simp only [sampleRows, h, ih]

/-- What a sample notes, from the tables of the two outputs. -/
def SmiCall.joinNote (c : SmiCall) (core throttle : Text) (r : Dict String) : Dict String :=
  if c.entries sampleFields core = [] then noRows.log (c.queryNote "gpu" core r)
  else (sampleRows (c.entries throttleColumns throttle) (c.entries sampleFields core)).log
    (c.queryNote "gpu.throttle_reasons" throttle (c.queryNote "gpu" core r))

/-- **The samples are the left join of the two tables.** -/
theorem sample_join {core throttle : Text}
    (hcore : (c.command (queryArguments sampleFields)).PrintsText core)
    (hthrottle : (c.command (queryArguments throttleColumns)).PrintsText throttle)
    (h : KeyedText sampleFields core) (h' : KeyedText throttleColumns throttle) :
    c.sample.outcome = .ok ((c.entries sampleFields core).map
        (joinedSample (c.entries throttleColumns throttle))) ∧
      c.sample.log = c.joinNote core throttle := by
  obtain ⟨hrows, hnote⟩ := query_keyed hcore h "gpu"
  obtain ⟨hrows', hnote'⟩ := query_keyed hthrottle h' "gpu.throttle_reasons"
  have hindexed := h.indexedRows c
  have hindexed' := h'.indexedRows c
  have hnil : (c.readRows sampleFields core).map keyedRow = [] ↔
      c.entries sampleFields core = [] := by
    rw [← List.length_eq_zero_iff, hindexed.perm_keyed.length_eq, List.length_eq_zero_iff]
  have hjoin : sampleRows ((c.readRows throttleColumns throttle).map keyedRow)
      (((c.readRows sampleFields core).map keyedRow).insertionSort fun a b => a.1 ≤ b.1) =
        sampleRows (c.entries throttleColumns throttle) (c.entries sampleFields core) := by
    rw [hindexed.insertionSort]
    exact sampleRows_congr hindexed'.lookup _
  unfold SmiCall.sample SmiCall.joinNote
  rw [Logged.log_bind_of_ok hrows, Logged.outcome_bind, hrows, ok_bind, hindexed.rowsByIndex_eq,
    Logged.pure_bind, hnote]
  by_cases hempty : c.entries sampleFields core = []
  · rw [if_pos (hnil.2 hempty)]
    simp only [hempty, if_true]
    exact ⟨rfl, rfl⟩
  · simp only [hempty, if_false]
    rw [if_neg (fun h => hempty (hnil.1 h)), Logged.log_bind_of_ok hrows', Logged.outcome_bind,
      hrows', ok_bind, hindexed'.rowsByIndex_eq, Logged.pure_bind, hnote', hjoin]
    exact ⟨sampleRows_outcome _ _, rfl⟩

/-- Each device's reasons are those of the throttle line with its index. -/
theorem reasons_of_line {throttle : Text} (h : KeyedText throttleColumns throttle) (c : SmiCall)
    (i : ℤ) :
    (∀ line ∈ splitlines throttle, lineIndex throttleColumns line = i →
      utf8Length throttle ≤ c.maxOutputBytes →
        rowReasons ((c.entries throttleColumns throttle).lookup i) =
          rowThrottle (lineRow throttleColumns line)) ∧
    ((∀ line ∈ splitlines throttle, lineIndex throttleColumns line ≠ i) →
      rowReasons ((c.entries throttleColumns throttle).lookup i) = ([], false)) := by
  constructor
  · rintro line hline rfl hlimit
    have hmem : keyedRow (lineRow throttleColumns line) ∈ c.entries throttleColumns throttle := by
      rw [SmiCall.entries, if_neg (by omega), List.mem_insertionSort]
      exact List.mem_map_of_mem hline
    rw [lineIndex, lookup_of_mem (nodup_keys (h.entries_lt c)) hmem]
    rfl
  · intro hnone
    have hlookup : (c.entries throttleColumns throttle).lookup i = none := by
      rw [List.lookup_eq_none_iff]
      intro p hp
      unfold SmiCall.entries at hp
      split_ifs at hp
      · cases hp
      · obtain ⟨line, hline, rfl⟩ := List.mem_map.1 ((List.mem_insertionSort _).1 hp)
        exact bne_iff_ne.2 (hnone line hline).symm
    rw [hlookup]
    rfl

/-- **Rows are joined by device index.**  Where every line of both outputs is a row with
    an index of its own, the order of the lines of either output changes neither the
    samples nor the diagnostics, and the throttle reasons of a device are those of the
    throttle line with its index; without one none are available. -/
theorem rows_joined_by_index (r r' : NvidiaSmiReader) {core core' throttle throttle' : Text}
    (hc : c'.maxOutputBytes = c.maxOutputBytes)
    (hcore : (c.command (queryArguments sampleFields)).PrintsText core)
    (hcore' : (c'.command (queryArguments sampleFields)).PrintsText core')
    (hthrottle : (c.command (queryArguments throttleColumns)).PrintsText throttle)
    (hthrottle' : (c'.command (queryArguments throttleColumns)).PrintsText throttle')
    (hkeyed : KeyedText sampleFields core) (hkeyed' : KeyedText throttleColumns throttle)
    (hlines : Rearranged c.maxOutputBytes core core')
    (hlines' : Rearranged c.maxOutputBytes throttle throttle') :
    (r'.sample c').1 = (r.sample c).1 ∧
    (r'.sample c').2.unavailableReasons = (r.sample c).2.unavailableReasons ∧
    ∃ xs, (r.sample c).1 = .ok xs ∧ ∀ s ∈ xs,
      (∀ line ∈ splitlines throttle, lineIndex throttleColumns line = s.index →
        utf8Length throttle ≤ c.maxOutputBytes →
          (s.throttleReasons, s.throttleReasonsAvailable) =
            rowThrottle (lineRow throttleColumns line)) ∧
      ((∀ line ∈ splitlines throttle, lineIndex throttleColumns line ≠ s.index) →
        s.throttleReasons = [] ∧ s.throttleReasonsAvailable = false) := by
  obtain ⟨hok, hlog⟩ := sample_join hcore hthrottle hkeyed hkeyed'
  obtain ⟨hok', hlog'⟩ :=
    sample_join hcore' hthrottle' (hlines.keyed hkeyed) (hlines'.keyed hkeyed')
  have hnote : c'.joinNote core' throttle' = c.joinNote core throttle := by
    funext reasons
    simp only [SmiCall.joinNote, hlines.entries_eq hc hkeyed, hlines'.entries_eq hc hkeyed',
      hlines.queryNote_eq hc, hlines'.queryNote_eq hc]
  refine ⟨?_, ?_, _, hok, List.forall_mem_map.2 fun p _ => ?_⟩
  · rw [NvidiaSmiReader.sample, NvidiaSmiReader.sample, hok, hok', hlines.entries_eq hc hkeyed,
      hlines'.entries_eq hc hkeyed']
  · simp only [NvidiaSmiReader.sample, hlog, hlog', hnote, NvidiaSmiReader.unavailableReasons]
  · obtain ⟨hline, hnone⟩ := reasons_of_line hkeyed' c p.1
    exact ⟨hline, fun h => Prod.mk.inj (hnone h)⟩

/-- The two commands print these texts. -/
def printingTexts (core throttle : Text) : SmiCall where
  command arguments := {
    resolver := .executable (some "/usr/bin/nvidia-smi")
    runner := .completed 0 (if arguments = queryArguments sampleFields then core else throttle) }

@[simp] theorem maxOutputBytes_printingTexts (core throttle : Text) :
    (printingTexts core throttle).maxOutputBytes = 1000000 := rfl

def devicesUp : Text := "0, GPU-0\n1, GPU-1\n".toList

def devicesDown : Text := "1, GPU-1\n0, GPU-0\n".toList

def oneThrottled : Text := "1, Active\n".toList

theorem printsText_printingTexts (core throttle : Text) :
    ((printingTexts core throttle).command (queryArguments sampleFields)).PrintsText core ∧
      ((printingTexts core throttle).command
        (queryArguments throttleColumns)).PrintsText throttle := by
  constructor
  · exact ⟨⟨_, rfl, by decide⟩, congrArg (Completed.completed 0) (if_pos rfl)⟩
  · exact ⟨⟨_, rfl, by decide⟩, congrArg (Completed.completed 0) (if_neg (by decide))⟩

/-- Swapping the lines of two devices, of which one has a throttle line, changes nothing. -/
theorem rows_joined_by_index_swapped :
    (NvidiaSmiReader.sample {} (printingTexts devicesUp oneThrottled)).1 =
      (NvidiaSmiReader.sample {} (printingTexts devicesDown oneThrottled)).1 := by
  have hcore : splitlines devicesDown = ["1, GPU-1".toList, "0, GPU-0".toList] := by decide
  have hthrottle : splitlines oneThrottled = ["1, Active".toList] := by decide
  have hkeyed : KeyedText sampleFields devicesDown := by
    constructor
    · rw [hcore]
      intro line hline
      simp only [List.mem_cons, List.not_mem_nil, or_false] at hline
      rcases hline with rfl | rfl
      · exact ⟨by decide, ⟨["1".toList, "GPU-1".toList], by decide +kernel⟩, by decide +kernel⟩
      · exact ⟨by decide, ⟨["0".toList, "GPU-0".toList], by decide +kernel⟩, by decide +kernel⟩
    · rw [hcore]
      decide +kernel
  have hkeyed' : KeyedText throttleColumns oneThrottled := by
    constructor
    · rw [hthrottle]
      intro line hline
      rw [List.mem_singleton.1 hline]
      exact ⟨by decide, ⟨["1".toList, "Active".toList], by decide +kernel⟩, by decide +kernel⟩
    · rw [hthrottle]
      exact List.pairwise_singleton _ _
  have hlines : Rearranged (printingTexts devicesDown oneThrottled).maxOutputBytes
      (unlines ["1, GPU-1".toList, "0, GPU-0".toList])
      (unlines ["0, GPU-0".toList, "1, GPU-1".toList]) :=
    rearranged_unlines _ (.swap _ _ _) (by simp [isLineBreak])
  have hlimit : (printingTexts devicesUp oneThrottled).maxOutputBytes =
      (printingTexts devicesDown oneThrottled).maxOutputBytes := by simp
  obtain ⟨hdown, hthrottled⟩ := printsText_printingTexts devicesDown oneThrottled
  obtain ⟨hup, hthrottled'⟩ := printsText_printingTexts devicesUp oneThrottled
  exact (rows_joined_by_index {} {} hlimit hdown hup hthrottled hthrottled' hkeyed hkeyed' hlines
    ⟨.refl _, .rfl⟩).1

end SweatMeter
