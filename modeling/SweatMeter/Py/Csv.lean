/-
  `csv.reader` on one line, with `skipinitialspace` and `strict` set.

  A line is read back cell by cell, if its cells are quoted or hold no comma or
  quote (`readLine_rendered`).
-/
import Mathlib.Data.List.Forall2
import SweatMeter.Py.Text

namespace Py

namespace Csv

/-- The quote character. -/
def quotechar : Char := Char.ofNat 34

/-- `csv.field_size_limit()`. -/
@[irreducible] def fieldLimit : ℕ := 131072

theorem fieldLimit_ge : 4303 ≤ fieldLimit := by unfold fieldLimit; omega

inductive State where
  | startField
  | inField
  | inQuotedField
  | quoteInQuotedField

/-- The rest of the line, from this state and with this much of a field read. -/
def readFrom (state : State) (field : Text) : Text → Except Exn (List Text)
  | [] => match state with
    | .inQuotedField => .error ⟨"_csv.Error"⟩
    | _ => .ok [field]
  | c :: line =>
    let save : Except Exn (List Text) := (readFrom .startField [] line).map (field :: ·)
    let add (next : State) : Except Exn (List Text) :=
      if fieldLimit ≤ field.length then .error ⟨"_csv.Error"⟩ else readFrom next (field ++ [c]) line
    match state with
    | .startField =>
      if c = quotechar then readFrom .inQuotedField field line
      else if c = ' ' then readFrom .startField field line
      else if c = ',' then save
      else add .inField
    | .inField => if c = ',' then save else add .inField
    | .inQuotedField =>
      if c = quotechar then readFrom .quoteInQuotedField field line else add .inQuotedField
    | .quoteInQuotedField =>
      if c = quotechar then add .inQuotedField
      else if c = ',' then save
      else .error ⟨"_csv.Error"⟩

/-- The cells of a line. -/
def readLine (line : Text) : Except Exn (List Text) := readFrom .startField [] line

/-! ## Plain cells -/

/-- A cell that is read as it stands. -/
structure Plain (cell : Text) : Prop where
  separators : ∀ c ∈ cell, c ≠ ',' ∧ c ≠ quotechar
  head : cell.head? ≠ some ' '
  length : cell.length ≤ fieldLimit

/-- Cells as `nvidia-smi` separates them. -/
def join : List Text → Text
  | [] => []
  | [cell] => cell
  | cell :: cells => cell ++ ',' :: ' ' :: join cells

theorem join_cons_cons (cell cell' : Text) (cells : List Text) :
    join (cell :: cell' :: cells) = cell ++ ',' :: ' ' :: join (cell' :: cells) := by
  rw [join]
  simp

/-- The end of a field, with what follows it. -/
theorem readFrom_inField {field cell : Text} (hsep : ∀ c ∈ cell, c ≠ ',')
    (hlen : (field ++ cell).length ≤ fieldLimit) (rest : Text) :
    readFrom .inField field (cell ++ rest) = readFrom .inField (field ++ cell) rest := by
  induction cell generalizing field with
  | nil => simp
  | cons c cell ih =>
    have hc : c ≠ ',' := hsep c List.mem_cons_self
    have hlt : ¬ fieldLimit ≤ field.length := by simp at hlen; omega
    rw [List.cons_append, readFrom]
    simp only [hc, ↓reduceIte, hlt]
    rw [ih (fun d hd => hsep d (.tail _ hd)) (by simpa using hlen)]
    simp

theorem readFrom_plain {cell : Text} (h : Plain cell) (hne : cell ≠ []) (rest : Text) :
    readFrom .startField [] (cell ++ rest) = readFrom .inField cell rest := by
  obtain ⟨c, cell, rfl⟩ := List.exists_cons_of_ne_nil hne
  obtain ⟨hcomma, hquote⟩ := h.separators c List.mem_cons_self
  have hspace : c ≠ ' ' := fun hc => h.head (by rw [hc]; rfl)
  have hpos : ¬ fieldLimit ≤ [].length (α := Char) := by
    have := h.length; simp at this ⊢; omega
  rw [List.cons_append, readFrom]
  simp only [hquote, hspace, hcomma, ↓reduceIte, hpos, List.nil_append]
  rw [readFrom_inField (fun d hd => (h.separators d (.tail _ hd)).1) (by simpa using h.length)]
  rfl

/-! ## Quoted cells -/

/-- A quoted cell's characters, each quote doubled. -/
def escape (cell : Text) : Text := cell.flatMap fun c => if c = quotechar then [c, c] else [c]

/-- The cell between quotes. -/
def quoted (cell : Text) : Text := quotechar :: (escape cell ++ [quotechar])

theorem escape_cons (c : Char) (cell : Text) :
    escape (c :: cell) = (if c = quotechar then [c, c] else [c]) ++ escape cell := by
  rw [escape, List.flatMap_cons, ← escape]

theorem isLineBreak_quoted {cell : Text} (h : ∀ c ∈ cell, isLineBreak c = false) :
    ∀ c ∈ quoted cell, isLineBreak c = false := by
  have hquote : isLineBreak quotechar = false := rfl
  intro c hc
  rw [quoted, List.mem_cons, List.mem_append, List.mem_singleton, escape, List.mem_flatMap] at hc
  rcases hc with rfl | ⟨d, hd, hc⟩ | rfl
  · exact hquote
  · have hcd : c = d := by split_ifs at hc <;> simpa using hc
    exact hcd ▸ h d hd
  · exact hquote

/-- The text of a cell, and the cell that is read from it: without separators it is
    read from its first character that is no blank, and between quotes as it
    stands. -/
inductive Rendered : Text → Text → Prop
  | plain {t cell blanks : Text} : t = blanks ++ cell → (∀ c ∈ blanks, c = ' ') →
      Plain cell → cell ≠ [] → Rendered t cell
  | quoted {cell : Text} : cell.length ≤ fieldLimit → Rendered (quoted cell) cell

theorem readFrom_blanks {blanks : Text} (h : ∀ c ∈ blanks, c = ' ') (rest : Text) :
    readFrom .startField [] (blanks ++ rest) = readFrom .startField [] rest := by
  induction blanks with
  | nil => rfl
  | cons c blanks ih =>
    have hc : c = ' ' := h c List.mem_cons_self
    have hquote : ' ' ≠ quotechar := by decide
    rw [hc, List.cons_append, readFrom]
    simp only [hquote, ↓reduceIte]
    exact ih fun d hd => h d (.tail _ hd)

/-- One character of a quoted cell. -/
theorem readFrom_escape_cons (c : Char) (field cell rest : Text) :
    readFrom .inQuotedField field (escape (c :: cell) ++ rest) =
      if fieldLimit ≤ field.length then .error ⟨"_csv.Error"⟩
      else readFrom .inQuotedField (field ++ [c]) (escape cell ++ rest) := by
  rw [escape_cons]
  by_cases hc : c = quotechar
  · rw [if_pos hc, List.append_assoc, List.cons_append, List.cons_append, readFrom]
    simp only [hc, ↓reduceIte]
    rw [readFrom]
    simp only [↓reduceIte]
    rfl
  · rw [if_neg hc, List.append_assoc, List.singleton_append, readFrom]
    simp only [hc, ↓reduceIte]

/-- The characters of a quoted cell, with what follows them. -/
theorem readFrom_escape {field cell : Text} (hlen : (field ++ cell).length ≤ fieldLimit)
    (rest : Text) : readFrom .inQuotedField field (escape cell ++ rest) =
      readFrom .inQuotedField (field ++ cell) rest := by
  induction cell generalizing field with
  | nil => simp [escape]
  | cons c cell ih =>
    have hlt : ¬ fieldLimit ≤ field.length := by simp at hlen; omega
    rw [readFrom_escape_cons, if_neg hlt, ih (by simpa using hlen), List.append_assoc,
      List.singleton_append]

/-- A quoted cell that is too long. -/
theorem readFrom_escape_long {field cell : Text} (hfield : field.length ≤ fieldLimit)
    (hlen : fieldLimit < (field ++ cell).length) (rest : Text) :
    readFrom .inQuotedField field (escape cell ++ rest) = .error ⟨"_csv.Error"⟩ := by
  induction cell generalizing field with
  | nil => simp at hlen; omega
  | cons c cell ih =>
    rw [readFrom_escape_cons]
    split_ifs with hfull
    · rfl
    · exact ih (by simp; omega) (by simpa using hlen)

/-- A rendered cell at the end of the line. -/
theorem Rendered.readLine {t cell : Text} (h : Rendered t cell) :
    readFrom .startField [] t = .ok [cell] := by
  cases h with
  | plain ht hblanks hp hne =>
    rw [ht, readFrom_blanks hblanks]
    have := readFrom_plain hp hne []
    rwa [List.append_nil] at this
  | quoted hlen =>
    rw [Csv.quoted, readFrom]
    simp only [↓reduceIte]
    rw [readFrom_escape (by simpa using hlen), readFrom]
    simp only [↓reduceIte, List.nil_append]
    rfl

/-- A rendered cell, with the cells after it. -/
theorem Rendered.readCell {t cell : Text} (h : Rendered t cell) (rest : Text) :
    readFrom .startField [] (t ++ ',' :: rest) =
      (readFrom .startField [] rest).map (cell :: ·) := by
  have hquote : ',' ≠ quotechar := by decide
  cases h with
  | plain ht hblanks hp hne =>
    rw [ht, List.append_assoc, readFrom_blanks hblanks, readFrom_plain hp hne, readFrom]
    simp only [↓reduceIte]
  | quoted hlen =>
    rw [Csv.quoted, List.cons_append, List.append_assoc, readFrom]
    simp only [↓reduceIte]
    rw [readFrom_escape (by simpa using hlen), List.singleton_append, readFrom]
    simp only [↓reduceIte, List.nil_append]
    rw [readFrom]
    simp only [hquote, ↓reduceIte]

/-- A line is not read where a quoted cell after the first is too long. -/
theorem readLine_long {t cell first : Text} (ht : Rendered t first) (hlen : fieldLimit < cell.length)
    (ts : List Text) : readLine (join (t :: quoted cell :: ts)) = .error ⟨"_csv.Error"⟩ := by
  obtain ⟨rest, hrest⟩ : ∃ rest, join (quoted cell :: ts) = quotechar :: (escape cell ++ rest) := by
    cases ts with
    | nil => exact ⟨[quotechar], rfl⟩
    | cons t' ts => exact ⟨quotechar :: ',' :: ' ' :: join (t' :: ts), by simp [join, quoted]⟩
  have hblank := @readFrom_blanks [' '] (by simp) (join (quoted cell :: ts))
  rw [List.singleton_append] at hblank
  rw [readLine, join_cons_cons, ht.readCell, hblank, hrest, readFrom]
  simp only [↓reduceIte]
  rw [readFrom_escape_long (Nat.zero_le _) (by simpa using hlen)]
  rfl

/-- **A line of rendered cells is read back.** -/
theorem readLine_rendered {ts cells : List Text} (h : List.Forall₂ Rendered ts cells)
    (hne : ts ≠ []) : readLine (join ts) = .ok cells := by
  unfold readLine
  induction h with
  | nil => exact absurd rfl hne
  | @cons t cell ts cells ht hts ih =>
    cases hts with
    | nil => exact ht.readLine
    | @cons t' cell' ts' cells' ht' hts' =>
      rw [join_cons_cons, ht.readCell]
      have hblank := @readFrom_blanks [' '] (by simp) (join (t' :: ts'))
      rw [List.singleton_append] at hblank
      rw [hblank, ih (List.cons_ne_nil _ _)]
      rfl

/-! ## Lines of quoted cells -/

/-- A line with every cell between quotes, and any blanks after a comma. -/
inductive QuotedLine : List Text → Text → Prop
  | nil : QuotedLine [] []
  | single (cell : Text) : QuotedLine [cell] (quoted cell)
  | cons (cell blanks : Text) {cell' line : Text} {cells : List Text} :
      (∀ c ∈ blanks, c = ' ') → QuotedLine (cell' :: cells) line →
      QuotedLine (cell :: cell' :: cells) (quoted cell ++ ',' :: (blanks ++ line))

variable {cells : List Text} {line : Text}

/-- **A line of quoted cells is read back.** -/
theorem QuotedLine.readLine (h : QuotedLine cells line) (hne : cells ≠ [])
    (hlen : ∀ cell ∈ cells, cell.length ≤ fieldLimit) : readLine line = .ok cells := by
  unfold Csv.readLine
  induction h with
  | nil => exact absurd rfl hne
  | single cell => exact (Rendered.quoted (hlen cell List.mem_cons_self)).readLine
  | cons cell blanks hblanks _ ih =>
    obtain ⟨hcell, hcells⟩ := List.forall_mem_cons.1 hlen
    rw [(Rendered.quoted hcell).readCell, readFrom_blanks hblanks, ih (List.cons_ne_nil _ _) hcells]
    rfl

theorem QuotedLine.isLineBreak (h : QuotedLine cells line)
    (hcells : ∀ cell ∈ cells, ∀ c ∈ cell, isLineBreak c = false) :
    ∀ c ∈ line, isLineBreak c = false := by
  induction h with
  | nil => intro c hc; cases hc
  | single cell => exact isLineBreak_quoted (hcells cell List.mem_cons_self)
  | cons cell blanks hblanks _ ih =>
    obtain ⟨hcell, hcells⟩ := List.forall_mem_cons.1 hcells
    intro c hc
    rw [List.mem_append, List.mem_cons, List.mem_append] at hc
    rcases hc with hc | rfl | hc | hc
    · exact isLineBreak_quoted hcell c hc
    · rfl
    · rw [hblanks c hc]; rfl
    · exact ih hcells c hc

theorem QuotedLine.eq_nil (h : QuotedLine [] line) : line = [] := by
  cases h
  rfl

theorem QuotedLine.visible (h : QuotedLine cells line) (hne : cells ≠ []) : strip line ≠ [] := by
  have hquote : isspace quotechar = false := rfl
  refine strip_ne_nil (c := quotechar) ?_ hquote
  cases h with
  | nil => exact absurd rfl hne
  | single cell => simp [quoted]
  | cons cell => simp [quoted]

/-! ## Rows -/

/-- A cell that may stand in a printed row. -/
structure Printed (cell : Text) : Prop extends Plain cell where
  ne_nil : cell ≠ []
  line : ∀ c ∈ cell, isLineBreak c = false

/-- A short text without separators or line breaks. -/
theorem printed_word {t : Text} (hne : t ≠ []) (hhead : t.head? ≠ some ' ')
    (h : t.all fun c => c ≠ ',' && c ≠ quotechar && !isLineBreak c) (hlen : t.length ≤ 16) :
    Printed t := by
  simp only [List.all_eq_true, Bool.and_eq_true, decide_eq_true_eq, Bool.not_eq_true'] at h
  have hlimit := fieldLimit_ge
  exact ⟨⟨fun c hc => (h c hc).1, hhead, by omega⟩, hne, fun c hc => (h c hc).2⟩

theorem isLineBreak_join {cells : List Text}
    (h : ∀ cell ∈ cells, ∀ c ∈ cell, isLineBreak c = false) :
    ∀ c ∈ join cells, isLineBreak c = false := by
  induction cells with
  | nil => intro c hc; cases hc
  | cons cell cells ih =>
    have hcell := h cell List.mem_cons_self
    cases cells with
    | nil => exact hcell
    | cons cell' cells =>
      intro c hc
      rw [join_cons_cons, List.mem_append, List.mem_cons, List.mem_cons] at hc
      rcases hc with hc | rfl | rfl | hc
      · exact hcell c hc
      · rfl
      · rfl
      · exact ih (fun d hd => h d (.tail _ hd)) c hc

theorem mem_join_of_mem_head {cell : Text} {cells : List Text} {c : Char} (hc : c ∈ cell) :
    c ∈ join (cell :: cells) := by
  cases cells with
  | nil => exact hc
  | cons cell' cells => exact List.mem_append_left _ hc

theorem Printed.rendered {cell : Text} (h : Printed cell) : Rendered cell cell :=
  .plain (List.nil_append cell).symm (by simp) h.toPlain h.ne_nil

/-- A printed row is read back. -/
theorem readLine_printed {cells : List Text} (hne : cells ≠ []) (h : ∀ cell ∈ cells, Printed cell) :
    readLine (join cells) = .ok cells :=
  readLine_rendered (List.forall₂_same.2 fun cell hc => (h cell hc).rendered) hne

end Csv

end Py
