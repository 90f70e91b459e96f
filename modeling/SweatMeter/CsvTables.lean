/-
  `parse_nvidia_csv` on rendered tables, and on any two texts.

  The rows of a text are those of its lines, so a line that cannot be decoded
  hides no other.  A table with every cell quoted is read back by column name,
  and the order of the columns in the query is not seen in the rows.
-/
import SweatMeter.NvidiaSample

namespace SweatMeter

open Py

variable {columns : List String} {cells : List Text} {text : Text}

/-! ## Tables -/

/-- A cell that a line can hold. -/
structure CellText (cell : Text) : Prop where
  line : ∀ c ∈ cell, isLineBreak c = false
  length : cell.length ≤ Csv.fieldLimit

/-- A short text without line breaks. -/
theorem cellText_word {t : Text} (h : t.all fun c => !isLineBreak c) (hlen : t.length ≤ 16) :
    CellText t := by
  have hlimit := Csv.fieldLimit_ge
  simp only [List.all_eq_true, Bool.not_eq_true'] at h
  exact ⟨h, by omega⟩

/-- The text of a table, a line for each row; the last line may be unterminated. -/
inductive TableText : List (List Text) → Text → Prop
  | nil : TableText [] []
  | last {cells : List Text} {line : Text} : Csv.QuotedLine cells line → TableText [cells] line
  | cons {cells : List Text} {line : Text} {table : List (List Text)} {text : Text} :
      Csv.QuotedLine cells line → TableText table text →
      TableText (cells :: table) (line ++ '\n' :: text)

/-- Each cell is found under its own column, and nothing under another name. -/
structure Decoded (columns : List String) (cells : List Text) (row : SmiRow) : Prop where
  cell : ∀ i (h : i < columns.length), row.lookup columns[i] = cells[i]?.map parseCell
  others : ∀ column, column ∉ columns → row.lookup column = none

theorem lookup_toRow (hnodup : columns.Nodup) (cells : List Text) (i : ℕ)
    (hi : i < columns.length) :
    (toRow columns cells).lookup columns[i] = cells[i]?.map parseCell := by
  induction columns generalizing cells i with
  | nil => cases hi
  | cons column columns ih =>
    obtain ⟨hcolumn, hnodup⟩ := List.nodup_cons.1 hnodup
    cases cells with
    | nil => rfl
    | cons cell cells =>
      have hrow : toRow (column :: columns) (cell :: cells) =
          (column, parseCell cell) :: toRow columns cells := rfl
      rw [hrow]
      cases i with
      | zero => exact List.lookup_cons_self
      | succ i =>
        have hlt : i < columns.length := Nat.lt_of_succ_lt_succ hi
        have hne : columns[i] ≠ column := fun h => hcolumn (h ▸ List.getElem_mem hlt)
        rw [List.getElem_cons_succ, List.lookup_cons, beq_eq_false_iff_ne.2 hne,
          List.getElem?_cons_succ]
        exact ih hnodup cells i hlt

theorem decoded_toRow (hnodup : columns.Nodup) (cells : List Text) :
    Decoded columns cells (toRow columns cells) := by
  refine ⟨lookup_toRow hnodup cells, fun column hcolumn => ?_⟩
  rw [List.lookup_eq_none_iff]
  rintro ⟨name, cell⟩ hmem
  have hname : name ∈ columns := (List.of_mem_zip hmem).1
  have hne : column ≠ name := fun h => hcolumn (h ▸ hname)
  simpa using hne

/-! ## Lines -/

theorem parseLines_append (xs ys : List Text) :
    parseLines columns (xs ++ ys) =
      ((parseLines columns xs).1 ++ (parseLines columns ys).1,
        (parseLines columns xs).2 + (parseLines columns ys).2) := by
  induction xs with
  | nil => simp [parseLines]
  | cons line xs ih =>
    rw [List.cons_append, parseLines, parseLines, ih]
    by_cases hblank : strip line = []
    · simp only [if_pos hblank]
    · simp only [if_neg hblank]
      cases Csv.readLine line with
      | error e => simp only [Nat.add_right_comm]
      | ok cells => rfl

theorem parseLines_blank {lines : List Text} (h : ∀ line ∈ lines, line = []) :
    parseLines columns lines = ([], 0) := by
  induction lines with
  | nil => rfl
  | cons line lines ih =>
    obtain ⟨rfl, hlines⟩ := List.forall_mem_cons.1 h
    rw [parseLines, ih hlines]
    rfl

/-- **Texts are parsed apart.** -/
theorem parseNvidiaCsv_append (columns : List String) (a b : Text) :
    parseNvidiaCsv (a ++ '\n' :: b) columns =
      ((parseNvidiaCsv a columns).1 ++ (parseNvidiaCsv b columns).1,
        (parseNvidiaCsv a columns).2 + (parseNvidiaCsv b columns).2) := by
  obtain ⟨gap, hgap, hlines⟩ := splitlines_append_newline a b
  simp only [parseNvidiaCsv]
  rw [hlines, parseLines_append, parseLines_append, parseLines_blank hgap, List.append_nil,
    Nat.add_zero]

theorem parseNvidiaCsv_quotedLine (h : Csv.QuotedLine cells text)
    (hcells : ∀ cell ∈ cells, CellText cell) :
    parseNvidiaCsv text columns = ([cells].filter (!·.isEmpty) |>.map (toRow columns), 0) := by
  have hbreak := h.isLineBreak fun cell hc => (hcells cell hc).line
  by_cases hne : cells = []
  · subst hne
    rw [h.eq_nil]
    rfl
  · have hvisible := h.visible hne
    have hread := h.readLine hne fun cell hc => (hcells cell hc).length
    have htext : text ≠ [] := by
      rintro rfl
      exact hvisible rfl
    rw [parseNvidiaCsv, splitlines_line hbreak, if_neg htext]
    simp [parseLines, hvisible, hread, hne, toRow]

theorem TableText.parse {table : List (List Text)} (h : TableText table text)
    (hcells : ∀ cells ∈ table, ∀ cell ∈ cells, CellText cell) :
    parseNvidiaCsv text columns = ((table.filter (!·.isEmpty)).map (toRow columns), 0) := by
  induction h with
  | nil => rfl
  | last hline => exact parseNvidiaCsv_quotedLine hline (hcells _ List.mem_cons_self)
  | @cons cells line table text hline _ ih =>
    obtain ⟨hfirst, hrest⟩ := List.forall_mem_cons.1 hcells
    have hsplit : cells :: table = [cells] ++ table := rfl
    rw [parseNvidiaCsv_append, parseNvidiaCsv_quotedLine hline hfirst, ih hrest, hsplit,
      List.filter_append, List.map_append, Nat.add_zero]

/-! ## The order of the columns -/

/-- The elements at these positions. -/
def reorder {T : Type} (order : List ℕ) (xs : List T) : List T := order.filterMap (xs[·]?)

/-- The cells of a row, in the order of the columns; what follows them stays. -/
def reorderRow (order : List ℕ) (cells : List Text) : List Text :=
  reorder order cells ++ cells.drop order.length

section

variable {S T : Type} {order : List ℕ}

theorem reorder_range (xs : List T) : reorder (List.range xs.length) xs = xs := by
  induction xs with
  | nil => rfl
  | cons x xs ih =>
    rw [reorder, List.length_cons, List.range_succ_eq_map, List.filterMap_cons,
      List.filterMap_map]
    exact congrArg (x :: ·) ih

theorem reorder_perm {xs : List T} (h : order.Perm (List.range xs.length)) :
    (reorder order xs).Perm xs := by
  have := h.filterMap (xs[·]?)
  rwa [← reorder, ← reorder, reorder_range] at this

theorem reorder_map (f : S → T) (xs : List S) :
    reorder order (xs.map f) = (reorder order xs).map f := by
  rw [reorder, reorder, List.map_filterMap]
  refine List.filterMap_congr fun i _ => ?_
  rw [List.getElem?_map]

theorem length_reorder {xs : List T} (h : ∀ i ∈ order, i < xs.length) :
    (reorder order xs).length = order.length := by
  induction order with
  | nil => rfl
  | cons i order ih =>
    obtain ⟨hi, horder⟩ := List.forall_mem_cons.1 h
    rw [reorder, List.filterMap_cons_some (List.getElem?_eq_getElem hi), List.length_cons,
      List.length_cons]
    exact congrArg (· + 1) (ih horder)

theorem zip_reorder {xs : List S} {ys : List T} (h : ∀ i ∈ order, i < xs.length)
    (h' : ∀ i ∈ order, i < ys.length) :
    (reorder order xs).zip (reorder order ys) = reorder order (xs.zip ys) := by
  induction order with
  | nil => rfl
  | cons i order ih =>
    obtain ⟨hi, horder⟩ := List.forall_mem_cons.1 h
    obtain ⟨hi', horder'⟩ := List.forall_mem_cons.1 h'
    have hzip : (xs.zip ys)[i]? = some (xs[i], ys[i]) := by
      rw [List.getElem?_zip_eq_some]
      exact ⟨List.getElem?_eq_getElem hi, List.getElem?_eq_getElem hi'⟩
    rw [reorder, reorder, reorder, List.filterMap_cons_some (List.getElem?_eq_getElem hi),
      List.filterMap_cons_some (List.getElem?_eq_getElem hi'), List.filterMap_cons_some hzip]
    exact congrArg ((xs[i], ys[i]) :: ·) (ih horder horder')

end

theorem mem_of_mem_reorderRow {order : List ℕ} {cell : Text} (h : cell ∈ reorderRow order cells) :
    cell ∈ cells := by
  rw [reorderRow, List.mem_append, reorder, List.mem_filterMap] at h
  rcases h with ⟨i, -, hi⟩ | h
  · exact List.mem_of_getElem? hi
  · exact List.mem_of_mem_drop h

theorem length_reorderRow {order : List ℕ} (horder : order.Perm (List.range columns.length))
    (hlen : columns.length ≤ cells.length) : (reorderRow order cells).length = cells.length := by
  have hlt : ∀ i ∈ order, i < cells.length := fun i hi =>
    (List.mem_range.1 (horder.mem_iff.1 hi)).trans_le hlen
  have hlength := horder.length_eq
  rw [List.length_range] at hlength
  rw [reorderRow, List.length_append, length_reorder hlt, List.length_drop]
  omega

theorem reorderRow_nil (order : List ℕ) : reorderRow order [] = [] := by
  simp [reorderRow, reorder]

theorem toRow_reorder_perm {order : List ℕ} (horder : order.Perm (List.range columns.length))
    (hlen : columns.length ≤ cells.length) :
    (toRow (reorder order columns) (reorderRow order cells)).Perm (toRow columns cells) := by
  have hlt : ∀ i ∈ order, i < columns.length := fun i hi =>
    List.mem_range.1 (horder.mem_iff.1 hi)
  have hcells : ∀ i ∈ order, i < (cells.map parseCell).length := fun i hi => by
    rw [List.length_map]
    exact (hlt i hi).trans_le hlen
  have hrow : toRow (reorder order columns) (reorderRow order cells) =
      reorder order (toRow columns cells) := by
    rw [toRow, toRow, reorderRow, List.map_append, ← reorder_map, ← zip_reorder hlt hcells]
    have hzip := @List.zip_append _ _ (reorder order columns) []
      (reorder order (cells.map parseCell)) ((cells.drop order.length).map parseCell)
      (by rw [length_reorder hlt, length_reorder hcells])
    simpa using hzip
  have hlength : (toRow columns cells).length = columns.length := by
    rw [toRow, List.length_zip, List.length_map]
    omega
  rw [hrow]
  exact reorder_perm (hlength.symm ▸ horder)

theorem lookup_reorder (hnodup : columns.Nodup) {order : List ℕ}
    (horder : order.Perm (List.range columns.length)) (hlen : columns.length ≤ cells.length)
    (column : String) :
    (toRow (reorder order columns) (reorderRow order cells)).lookup column =
      (toRow columns cells).lookup column := by
  refine lookup_perm (toRow_reorder_perm horder hlen) ?_ column
  rw [toRow, List.map_fst_zip (by simpa using hlen)]
  exact hnodup

/-! ## The decoded tables -/

/-- **The CSV decoding inverts rendering.** -/
theorem csv_decoded (columns : List String) (hnodup : columns.Nodup) :
    (∀ table text, (∀ cells ∈ table, ∀ cell ∈ cells, CellText cell) → TableText table text →
      ∃ rows, parseNvidiaCsv text columns = (rows, 0) ∧
        List.Forall₂ (Decoded columns) (table.filter (!·.isEmpty)) rows) ∧
    (∀ order : List ℕ, order.Perm (List.range columns.length) →
      ∀ table text text', (∀ cells ∈ table, ∀ cell ∈ cells, CellText cell) →
        (∀ cells ∈ table, cells ≠ [] → columns.length ≤ cells.length) →
        TableText table text → TableText (table.map (reorderRow order)) text' →
        List.Forall₂ (fun row row' => ∀ column, row.lookup column = row'.lookup column)
          (parseNvidiaCsv text columns).1
          (parseNvidiaCsv text' (reorder order columns)).1) ∧
    ∀ a b, parseNvidiaCsv (a ++ '\n' :: b) columns =
      ((parseNvidiaCsv a columns).1 ++ (parseNvidiaCsv b columns).1,
        (parseNvidiaCsv a columns).2 + (parseNvidiaCsv b columns).2) := by
  refine ⟨fun table text hcells htext => ?_, fun order horder table text text' hcells hfull htext
    htext' => ?_, parseNvidiaCsv_append columns⟩
  · refine ⟨_, htext.parse hcells, ?_⟩
    rw [List.forall₂_map_right_iff, List.forall₂_same]
    exact fun cells _ => decoded_toRow hnodup cells
  · have hcells' : ∀ cells ∈ table.map (reorderRow order), ∀ cell ∈ cells, CellText cell :=
      List.forall_mem_map.2 fun cells hmem cell hcell =>
        hcells cells hmem cell (mem_of_mem_reorderRow hcell)
    have hnonempty : (table.map (reorderRow order)).filter (!·.isEmpty) =
        (table.filter (!·.isEmpty)).map (reorderRow order) := by
      rw [List.filter_map]
      refine congrArg (List.map (reorderRow order)) (List.filter_congr fun cells hmem => ?_)
      by_cases hne : cells = []
      · rw [hne, Function.comp_apply, reorderRow_nil]
      · have hlength := length_reorderRow horder (hfull cells hmem hne)
        rw [Function.comp_apply, Bool.eq_iff_iff]
        simp only [Bool.not_eq_true', Bool.eq_false_iff, ne_eq, List.isEmpty_iff_length_eq_zero,
          hlength]
    rw [htext.parse hcells, htext'.parse hcells', hnonempty, List.map_map,
      List.forall₂_map_left_iff, List.forall₂_map_right_iff, List.forall₂_same]
    intro cells hmem column
    obtain ⟨hmem, hne⟩ := List.mem_filter.1 hmem
    exact (lookup_reorder hnodup horder (hfull cells hmem (by simpa using hne)) column).symm

theorem csv_decoded_swapped :
    List.Forall₂ (fun row row' => ∀ column, row.lookup column = row'.lookup column)
      (parseNvidiaCsv "\"2\",  \"a \"\"b\"\", c\"\n\n\"3\",\"[N/A]\",\"x\"".toList
        ["index", "name"]).1
      (parseNvidiaCsv "\"a \"\"b\"\", c\",\"2\"\n\n\"[N/A]\", \"3\", \"x\"\n".toList
        ["name", "index"]).1 := by
  refine (csv_decoded ["index", "name"] (by simp)).2.1 [1, 0] (List.Perm.swap 0 1 [])
    [["2".toList, "a \"b\", c".toList], [], ["3".toList, "[N/A]".toList, "x".toList]] _ _ ?_ ?_
    (.cons (.cons _ [' ', ' '] (by simp) (.single _))
      (.cons .nil (.last (.cons _ [] (by simp) (.cons _ [] (by simp) (.single _))))))
    (.cons (.cons _ [] (by simp) (.single _)) (.cons .nil
      (.cons (.cons _ [' '] (by simp) (.cons _ [' '] (by simp) (.single _))) .nil)))
  · simp only [List.forall_mem_cons, List.not_mem_nil, false_implies, implies_true, and_true,
      true_and]
    exact ⟨⟨cellText_word rfl (by simp), cellText_word rfl (by simp)⟩,
      cellText_word rfl (by simp), cellText_word rfl (by simp), cellText_word rfl (by simp)⟩
  · simp

end SweatMeter
