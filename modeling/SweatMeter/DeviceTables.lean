/-
  The tables of devices are read back: each row under its index, and each cell as
  the device's value.
-/
import SweatMeter.Devices

namespace SweatMeter

open Py

/-! ## Printed rows -/

theorem doubleLimit_lt : doubleLimit < 10 ^ 309 := by decide +kernel

theorem length_numeral_of_lt {n : ℕ} (h : n < doubleLimit) : (numeral n).length ≤ 309 :=
  length_numeral_le (by omega) (h.trans doubleLimit_lt)

theorem printed_numeral {n : ℕ} (h : n < doubleLimit) : Csv.Printed (numeral n) := by
  have hlen := length_numeral_of_lt h
  have hlimit := Csv.fieldLimit_ge
  exact printed_of_numeric numeric_numeral (numeral_ne_nil n) (by omega)

theorem printed_index {n : ℕ} (h : n < 10 ^ maxStrDigits) : Csv.Printed (numeral n) := by
  have hlen := length_numeral_le maxStrDigits_pos h
  have hdigits := maxStrDigits_le
  have hlimit := Csv.fieldLimit_ge
  exact printed_of_numeric numeric_numeral (numeral_ne_nil n) (by omega)

theorem printed_intNumeral {n : ℤ} (h : n.natAbs < doubleLimit) : Csv.Printed (intNumeral n) := by
  cases n with
  | ofNat n => exact printed_numeral h
  | negSucc n =>
    have hlen := length_numeral_of_lt (n := n + 1) h
    have hlimit := Csv.fieldLimit_ge
    refine printed_of_numeric numeric_intNumeral (List.cons_ne_nil _ _) ?_
    rw [intNumeral, List.length_cons]
    omega

theorem printed_hundredths {n : ℕ} (h : n < doubleLimit) : Csv.Printed (hundredths n) := by
  have hlen := length_numeral_of_lt (n := n / 100) ((Nat.div_le_self n 100).trans_lt h)
  have hlimit := Csv.fieldLimit_ge
  refine printed_of_numeric numeric_hundredths (by simp [hundredths]) ?_
  rw [hundredths, List.length_append]
  simp only [List.length_cons, List.length_nil]
  omega

theorem printed_notAvailable : Csv.Printed "[N/A]".toList :=
  Csv.printed_word (by simp) (by simp) rfl (by simp)

theorem printed_printCell {T : Type} {render : T → Text} {x : Option T}
    (h : ∀ y ∈ x, Csv.Printed (render y)) : Csv.Printed (printCell render x) := by
  cases x with
  | none => exact printed_notAvailable
  | some y => exact h y rfl

theorem visible_numeral (n : ℕ) (cells : List Text) :
    ∃ cell ∈ (numeral n :: cells).head?, ∃ c ∈ cell, isspace c = false := by
  obtain ⟨c, hc⟩ := List.exists_mem_of_ne_nil _ (numeral_ne_nil n)
  exact ⟨numeral n, rfl, c, hc, (numeric_numeral c hc).isspace⟩

namespace GpuDevice

variable {d : GpuDevice} (h : d.InRange)
include h

theorem printed_cell (f : GpuField) : Csv.Printed (d.cell f) := by
  have hf := h f
  cases f with
  | memoryTemperatureC => exact d.memoryTemperature.2
  | temperatureC => exact printed_printCell fun t ht => printed_intNumeral (hf t ht)
  | powerWatts | powerLimitWatts =>
    refine printed_printCell fun p hp => printed_hundredths ?_
    have := hf (10 * p) (Option.mem_map_of_mem _ hp)
    omega
  | vramUsedBytes | vramTotalBytes =>
    refine printed_printCell fun m hm => printed_numeral ?_
    have := hf _ (Option.mem_map_of_mem _ hm)
    omega
  | utilizationPercent | memoryUtilizationPercent | fanPercent | coreClockMhz | memoryClockMhz =>
    exact printed_printCell fun n hn => printed_numeral (hf n (Option.mem_map_of_mem _ hn))

theorem printedRow_sampleCells {i : ℕ} (hi : i < 10 ^ maxStrDigits) :
    PrintedRow (d.sampleCells i) where
  printed := by
    intro cell hcell
    rcases List.mem_cons.1 hcell with rfl | hcell
    · exact printed_index hi
    rcases List.mem_cons.1 hcell with rfl | hcell
    · exact d.uuid.printed
    · obtain ⟨f, -, rfl⟩ := List.mem_map.1 hcell
      exact printed_cell h f
  visible := visible_numeral _ _

omit h in
theorem printedRow_throttleCells {i : ℕ} (hi : i < 10 ^ maxStrDigits) :
    PrintedRow (d.throttleCells i) where
  printed := by
    intro cell hcell
    rcases List.mem_cons.1 hcell with rfl | hcell
    · exact printed_index hi
    · obtain ⟨p, -, rfl⟩ := List.mem_map.1 hcell
      unfold throttleCell
      split_ifs
      · exact printed_notAvailable
      · exact Csv.printed_word (by decide) (by simp) rfl (by simp)
      · exact Csv.printed_word (by simp) (by simp) rfl (by simp)
  visible := visible_numeral _ _

end GpuDevice

/-! ## Reading the rows back -/

theorem parseCell_notAvailable : parseCell "[N/A]".toList = none := by decide

/-- No marker starts with a numeric character. -/
theorem parseCell_numeric {t : Text} (h : ∀ c ∈ t, Numeric c) (hne : t ≠ []) :
    parseCell t = some t := by
  have hmarker : ∀ m ∈ unavailableMarkers.map String.toList, ∀ c ∈ m.head?, ¬ Numeric c := by
    simp [unavailableMarkers, Numeric]
  have hmem : casefold t ∉ unavailableMarkers.map String.toList := by
    rw [casefold_numeric h]
    intro hmem
    obtain ⟨c, t, rfl⟩ := List.exists_cons_of_ne_nil hne
    exact hmarker _ hmem c rfl (h c List.mem_cons_self)
  rw [parseCell, strip_numeric h, if_neg hmem]

theorem smiRowIndex_of_lookup {row : SmiRow} {i : ℕ} (hi : i < 10 ^ maxStrDigits)
    (h : row.lookup "index" = some (some (numeral i))) : smiRowIndex row = i := by
  rw [smiRowIndex, h]
  simp only [toInt_numeral hi]

theorem smiRowIndex_numeral {i : ℕ} (hi : i < 10 ^ maxStrDigits) (columns : List String)
    (cells : List Text) : smiRowIndex (toRow ("index" :: columns) (numeral i :: cells)) = i := by
  refine smiRowIndex_of_lookup hi ?_
  rw [toRow, List.map_cons, parseCell_numeric numeric_numeral (numeral_ne_nil i)]
  exact List.lookup_cons_self

/-- The tables of devices list them by index. -/
theorem lists_entries {columns : List String} {cells : GpuDevice → ℕ → List Text}
    {ds : List GpuDevice} {rows : List (List Text)}
    (hcells : ∀ d i, ∃ tail, cells d i = numeral i :: tail)
    (hlen : ds.length ≤ 10 ^ maxStrDigits)
    (hprinted : ∀ d ∈ ds, ∀ i < 10 ^ maxStrDigits, PrintedRow (cells d i))
    (hperm : rows.Perm ((entries cells ds).map Prod.snd)) :
    Lists ("index" :: columns) (entries cells ds) rows := by
  have hmem : ∀ e ∈ entries cells ds, ∃ (i : ℕ) (d : GpuDevice), ds[i]? = some d ∧ i < 10 ^ maxStrDigits ∧
      e = ((i : ℤ), cells d i) := by
    intro e he
    obtain ⟨⟨d, i⟩, hp, rfl⟩ := List.mem_map.1 he
    have hget := List.mem_zipIdx_iff_getElem?.1 hp
    have := (List.getElem?_eq_some_iff.1 hget).1
    exact ⟨i, d, hget, by omega, rfl⟩
  refine ⟨hperm, ?_, ?_, ?_, ?_⟩
  · intro e he
    obtain ⟨i, d, hget, hi, rfl⟩ := hmem e he
    exact hprinted d (List.mem_of_getElem? hget) i hi
  · intro e he
    obtain ⟨i, d, -, hi, rfl⟩ := hmem e he
    obtain ⟨tail, htail⟩ := hcells d i
    simp only [htail]
    exact smiRowIndex_numeral hi columns tail
  · intro e he
    obtain ⟨i, d, -, -, rfl⟩ := hmem e he
    exact Int.natCast_nonneg i
  · exact sorted_positions _ _

theorem lookup_column (d : GpuDevice) (i : ℕ) (f : GpuField) :
    (toRow sampleFields (d.sampleCells i)).lookup f.column = some (parseCell (d.cell f)) := by
  cases f <;> rfl

theorem lookup_uuid (d : GpuDevice) (i : ℕ) :
    (toRow sampleFields (d.sampleCells i)).lookup "uuid" = some (some d.uuid.text) := by
  have : (toRow sampleFields (d.sampleCells i)).lookup "uuid" = some (parseCell d.uuid.text) := rfl
  rw [this, parseCell, d.uuid.trimmed, if_neg d.uuid.available]

/-! ## Values -/

/-- A value within these bounds. -/
def within (lo : ℚ) (hi : Option ℚ) (q : ℚ) : Bool := !(q < lo || hi.any (· < q))

/-- The exact value of a measurement. -/
def exactValue (m : Measurement Number) : Option (Option ℚ) := m.map Number.toRat

/-- A reading is kept, as it is, within these bounds. -/
def Keeps (m : Measurement Number) (reading : Option ℚ) (lo : ℚ) (hi : Option ℚ) : Prop :=
  exactValue m = (reading.filter (within lo hi)).map some

theorem within_eq (lo : ℚ) (hi : Option ℚ) (q : ℚ) :
    within lo hi q = true ↔ ¬ (q < lo ∨ hi.any (· < q) = true) := by
  simp [within]

theorem keeps_none (lo : ℚ) (hi : Option ℚ) : Keeps none none lo hi := rfl

/-- A number is kept if it passes the check on its bounds. -/
theorem keeps_ite {x : Number} {q lo : ℚ} {hi : Option ℚ} (hx : x.toRat = some q) :
    Keeps (if q < lo ∨ hi.any (· < q) = true then none else some x) (some q) lo hi := by
  unfold Keeps
  split
  · rename_i h
    have : within lo hi q = false := Bool.eq_false_iff.2 fun hw => (within_eq lo hi q).1 hw h
    rw [Option.filter_some, this]; rfl
  · rename_i h
    have : within lo hi q = true := (within_eq lo hi q).2 h
    rw [Option.filter_some, this, exactValue, Option.map_some, hx]; rfl

theorem toDouble_of_lt {q : ℚ} (h : |q| < doubleLimit) : toDouble q = .finite q :=
  if_neg (not_le.2 h)

theorem cellMeasurement_float {t : Text} {q : ℚ} (ht : toFloat t = .ok (toDouble q))
    (hq : |q| < doubleLimit) (hi : Option ℚ) :
    Keeps (cellMeasurement (some (some t)) hi false).toOption (some q) 0 hi := by
  rw [toDouble_of_lt hq] at ht
  have hif : (cellMeasurement (some (some t)) hi false).toOption =
      if q < 0 ∨ hi.any (· < q) = true then none else some (.float (.finite q)) := by
    simp only [cellMeasurement, ht]
    split <;> rfl
  rw [hif]
  exact keeps_ite rfl

theorem cellMeasurement_mib {t : Text} {n : ℕ} (ht : toFloat t = .ok (toDouble n))
    (hn : n * 2 ^ 20 < doubleLimit) :
    cellMeasurement (some (some t)) none true = .ok (.int (n * 2 ^ 20 : ℕ)) := by
  have hbytes : ((n : ℚ) * (1024 * 1024)) = ((n * 2 ^ 20 : ℕ) : ℚ) := by push_cast; norm_num
  have hfit : |((n * 2 ^ 20 : ℕ) : ℚ)| < doubleLimit := by
    rw [Nat.abs_cast]
    exact_mod_cast hn
  have hfit' : |(n : ℚ)| < doubleLimit := by
    rw [Nat.abs_cast]
    exact_mod_cast (by omega : n < doubleLimit)
  have hneg : ¬ (n : ℚ) < 0 := not_lt.2 (Nat.cast_nonneg _)
  rw [toDouble_of_lt hfit'] at ht
  simp only [cellMeasurement, ht, hneg, Option.any_none, Bool.false_eq_true, or_self, ↓reduceIte,
    Bool.not_true, hbytes, toDouble_of_lt hfit, Int.floor_natCast]

theorem keeps_mibCell {t : Text} {n : ℕ} (ht : toFloat t = .ok (toDouble n))
    (hn : n * 2 ^ 20 < doubleLimit) :
    Keeps (cellMeasurement (some (some t)) none true).toOption (some (n * 2 ^ 20 : ℕ)) 0 none := by
  have hkeeps : Keeps (some (.int (n * 2 ^ 20 : ℕ))) (some (n * 2 ^ 20 : ℕ)) 0 none := by
    have hif := @keeps_ite (.int (n * 2 ^ 20 : ℕ)) (n * 2 ^ 20 : ℕ) 0 none rfl
    rwa [if_neg (by simp)] at hif
  rw [cellMeasurement_mib ht hn]
  exact hkeeps

/-! ## Values of a printed row -/

theorem keeps_printCell {T : Type} {render : T → Text} {x : Option T} {reading : T → ℚ}
    {f : GpuField} {hi : Option ℚ}
    (h : ∀ y ∈ x, Keeps (cellValue f (some (parseCell (render y)))) (some (reading y)) 0 hi) :
    Keeps (cellValue f (some (parseCell (printCell render x)))) (x.map reading) 0 hi := by
  cases x with
  | none => rw [printCell, parseCell_notAvailable]; exact keeps_none 0 hi
  | some y => exact h y rfl

theorem keeps_numeral {n : ℕ} (h : n < doubleLimit) {f : GpuField} (hf : f.inMib = false) :
    Keeps (cellValue f (some (parseCell (numeral n)))) (some n) 0 f.smiMaximum := by
  rw [cellValue, hf, parseCell_numeric numeric_numeral (numeral_ne_nil n)]
  refine cellMeasurement_float (toFloat_numeral n) ?_ _
  rw [Nat.abs_cast]
  exact_mod_cast h

theorem keeps_mib {n : ℕ} (h : n * 2 ^ 20 < doubleLimit) {f : GpuField} (hf : f.inMib = true)
    (hmax : f.smiMaximum = none) :
    Keeps (cellValue f (some (parseCell (numeral n)))) (some (n * 2 ^ 20 : ℕ)) 0 f.smiMaximum := by
  rw [cellValue, hf, hmax, parseCell_numeric numeric_numeral (numeral_ne_nil n)]
  exact keeps_mibCell (toFloat_numeral n) h

theorem keeps_intNumeral {n : ℤ} (h : n.natAbs < doubleLimit) {f : GpuField} (hf : f.inMib = false) :
    Keeps (cellValue f (some (parseCell (intNumeral n)))) (some n) 0 f.smiMaximum := by
  rw [cellValue, hf, parseCell_numeric numeric_intNumeral (intNumeral_ne_nil n)]
  refine cellMeasurement_float (toFloat_intNumeral n) ?_ _
  rw [← Int.cast_abs, Int.abs_eq_natAbs]
  exact_mod_cast h

theorem keeps_hundredths {n : ℕ} (h : n < doubleLimit) {f : GpuField} (hf : f.inMib = false) :
    Keeps (cellValue f (some (parseCell (hundredths n)))) (some (n / 100)) 0 f.smiMaximum := by
  rw [cellValue, hf, parseCell_numeric numeric_hundredths (by simp [hundredths])]
  refine cellMeasurement_float (toFloat_hundredths n) ?_ _
  have hn : (n : ℚ) < doubleLimit := by exact_mod_cast h
  have hpos : (0 : ℚ) ≤ n := Nat.cast_nonneg n
  rw [abs_of_nonneg (div_nonneg hpos (by norm_num))]
  exact (div_le_self hpos (by norm_num)).trans_lt hn

/-- **What is printed of a device is read back.** -/
theorem GpuDevice.keeps_cell {d : GpuDevice} (h : d.InRange) {f : GpuField}
    (hf : f ≠ .memoryTemperatureC) :
    Keeps (cellValue f (some (parseCell (d.cell f)))) (d.value f) 0 f.smiMaximum := by
  have hr := h f
  unfold GpuDevice.value
  cases f with
  | memoryTemperatureC => exact absurd rfl hf
  | temperatureC =>
    refine keeps_printCell ?_
    intro t ht
    simp only [GpuField.nvmlScale, div_one]
    exact keeps_intNumeral (hr t ht) rfl
  | powerWatts | powerLimitWatts =>
    rw [GpuDevice.reported, Option.map_map]
    refine keeps_printCell ?_
    intro p hp
    have hfit := hr _ (Option.mem_map_of_mem _ hp)
    have hvalue : ((10 * p : ℤ) : ℚ) / 1000 = p / 100 := by push_cast; ring
    simp only [Function.comp_apply, GpuField.nvmlScale, hvalue]
    exact keeps_hundredths (by omega) rfl
  | vramUsedBytes | vramTotalBytes =>
    rw [GpuDevice.reported, Option.map_map]
    refine keeps_printCell ?_
    intro m hm
    have hfit := hr _ (Option.mem_map_of_mem _ hm)
    have hvalue : ((m * 2 ^ 20 : ℤ) : ℚ) = (m * 2 ^ 20 : ℕ) := by push_cast; rfl
    simp only [Function.comp_apply, GpuField.nvmlScale, div_one, hvalue]
    exact keeps_mib (by omega) rfl rfl
  | utilizationPercent | memoryUtilizationPercent | fanPercent | coreClockMhz | memoryClockMhz =>
    rw [GpuDevice.reported, Option.map_map]
    refine keeps_printCell ?_
    intro n hn
    simp only [Function.comp_apply, GpuField.nvmlScale, div_one]
    exact keeps_numeral (hr _ (Option.mem_map_of_mem _ hn)) rfl

end SweatMeter
