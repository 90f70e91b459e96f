/-
  Texts of blocks of lines, with blank lines between the blocks.

  Splitting at `\n\s*\n` gives the blocks back, whatever the blank lines are made
  of, and stripping the text only trims its first and its last line.
-/
import Mathlib.Data.List.TakeDrop
import SweatMeter.Py.Regex

namespace Py

/-- A line that is not blank. -/
structure Line (line : Text) : Prop where
  visible : ∃ c ∈ line, isspace c = false
  unbroken : ∀ c ∈ line, isLineBreak c = false

/-- The lines, with newlines between them. -/
def joinLines : List Text → Text
  | [] => []
  | [line] => line
  | line :: lines => line ++ '\n' :: joinLines lines

/-- The blocks, with one or more blank lines between them. -/
inductive Separated : List Text → Text → Prop
  | single (block : Text) : Separated [block] block
  | cons (block gap : Text) {blocks : List Text} {text : Text} :
      (∀ c ∈ gap, isspace c = true) → Separated blocks text →
      Separated (block :: blocks) (block ++ '\n' :: (gap ++ '\n' :: text))

/-- `\n\s*\n`. -/
def blankLines : Regex.Pattern :=
  Regex.seq (Regex.one (· = '\n'))
    (Regex.seq (Regex.many (Regex.one isspace)) (Regex.one (· = '\n')))

theorem joinLines_cons (line line' : Text) (lines : List Text) :
    joinLines (line :: line' :: lines) = line ++ '\n' :: joinLines (line' :: lines) := by
  rw [joinLines]
  simp

theorem Line.ne_nil {line : Text} (h : Line line) : line ≠ [] := by
  obtain ⟨c, hc, -⟩ := h.visible
  exact List.ne_nil_of_mem hc

theorem Line.newline {line : Text} (h : Line line) : ∀ c ∈ line, c ≠ '\n' := by
  rintro c hc rfl
  have := h.unbroken _ hc
  cases this

/-- **Joined lines are split again.** -/
theorem splitlines_joinLines {lines : List Text} (h : ∀ line ∈ lines, Line line) :
    splitlines (joinLines lines) = lines := by
  induction lines with
  | nil => rfl
  | cons line lines ih =>
    obtain ⟨hline, hlines⟩ := List.forall_mem_cons.1 h
    cases lines with
    | nil => rw [joinLines, splitlines_line hline.unbroken, if_neg hline.ne_nil]
    | cons line' lines =>
      rw [joinLines_cons, splitlines, splitlinesFrom_append hline.unbroken, List.nil_append]
      exact congrArg (line :: ·) (ih hlines)

/-! ## Blank lines -/

/-- The text goes on with a line that is not blank. -/
def Starts (text : Text) : Prop :=
  ∃ blanks c rest, text = blanks ++ c :: rest ∧ (∀ d ∈ blanks, isspace d = true ∧ d ≠ '\n') ∧
    isspace c = false

theorem Line.starts {line : Text} (h : Line line) (rest : Text) : Starts (line ++ rest) := by
  obtain ⟨c, hc, hspace⟩ := h.visible
  have hsplit := List.takeWhile_append_dropWhile (p := isspace) (l := line)
  cases hdrop : line.dropWhile isspace with
  | nil =>
    have hall := List.dropWhile_eq_nil_iff.1 hdrop c hc
    rw [hspace] at hall
    cases hall
  | cons d after =>
    rw [hdrop] at hsplit
    refine ⟨line.takeWhile isspace, d, after ++ rest, ?_, fun e he => ?_, ?_⟩
    · rw [← List.cons_append, ← List.append_assoc, hsplit]
    · exact ⟨List.mem_takeWhile_imp he, h.newline e (List.takeWhile_subset _ he)⟩
    · have := List.head?_dropWhile_not isspace line
      rw [hdrop] at this
      simpa using this

/-- The rest of the pattern, after its first newline. -/
def blankRun : Regex.Pattern :=
  Regex.seq (Regex.many (Regex.one isspace)) (Regex.one (· = '\n'))

theorem blankRun_cons {c : Char} (h : isspace c = true) (before after : Text) :
    blankRun ⟨before, c :: after⟩ =
      blankRun ⟨c :: before, after⟩ ++ Regex.one (· = '\n') ⟨before, c :: after⟩ := by
  rw [blankRun, Regex.seq, Regex.seq, Regex.many_one_cons h, List.flatMap_append,
    List.flatMap_singleton]

theorem blankRun_starts {text : Text} (h : Starts text) (before : Text) :
    blankRun ⟨before, text⟩ = [] := by
  obtain ⟨blanks, c, rest, rfl, hblanks, hc⟩ := h
  induction blanks generalizing before with
  | nil =>
    have hne : c ≠ '\n' := by
      rintro rfl
      cases hc
    rw [List.nil_append, blankRun, Regex.seq, Regex.many_one_stop hc, List.flatMap_singleton]
    exact Regex.one_eq_nil (by simpa [Regex.ahead] using hne)
  | cons d blanks ih =>
    obtain ⟨⟨hd, hne⟩, hblanks⟩ := List.forall_mem_cons.1 hblanks
    rw [List.cons_append, blankRun_cons hd, ih _ hblanks, List.nil_append]
    exact Regex.one_eq_nil (by simpa [Regex.ahead] using hne)

/-- Blanks are taken up to the last newline among them. -/
theorem first_blankRun {gap text : Text} (hgap : ∀ c ∈ gap, isspace c = true) (h : Starts text)
    (before : Text) : Regex.First blankRun ⟨before, gap ++ '\n' :: text⟩
      ⟨'\n' :: (gap.reverse ++ before), text⟩ := by
  induction gap generalizing before with
  | nil =>
    rw [List.nil_append, Regex.First, blankRun_cons rfl, blankRun_starts h, List.nil_append]
    rfl
  | cons c gap ih =>
    obtain ⟨hc, hgap⟩ := List.forall_mem_cons.1 hgap
    have hrest := ih hgap (c :: before)
    rw [Regex.First] at hrest ⊢
    rw [List.cons_append, blankRun_cons hc, List.head?_append, hrest, List.reverse_cons,
      List.append_assoc]
    rfl

theorem blankLines_of_ne {c : Char} (h : c ≠ '\n') (before after : Text) :
    blankLines ⟨before, c :: after⟩ = [] :=
  Regex.seq_eq_nil (Regex.one_eq_nil (by simpa [Regex.ahead] using h))

theorem blankLines_starts {text : Text} (h : Starts text) (before : Text) :
    blankLines ⟨before, '\n' :: text⟩ = [] := by
  rw [blankLines, Regex.seq, Regex.one, if_pos (by simp), List.flatMap_singleton]
  exact blankRun_starts h _

theorem first_blankLines {gap text : Text} (hgap : ∀ c ∈ gap, isspace c = true)
    (h : Starts text) (before : Text) :
    Regex.First blankLines ⟨before, '\n' :: (gap ++ '\n' :: text)⟩
      ⟨'\n' :: (gap.reverse ++ '\n' :: before), text⟩ :=
  (Regex.first_one (by simp) _ _).seq (first_blankRun hgap h _)

/-! ## Splitting -/

theorem splitFrom_line {line : Text} (h : ∀ c ∈ line, c ≠ '\n') (before piece after : Text) :
    Regex.splitFrom blankLines 0 before piece (line ++ after) =
      Regex.splitFrom blankLines 0 (line.reverse ++ before) (piece ++ line) after := by
  induction line generalizing before piece with
  | nil => rw [List.append_nil]; rfl
  | cons c line ih =>
    obtain ⟨hc, hline⟩ := List.forall_mem_cons.1 h
    rw [List.cons_append, Regex.splitFrom_cons (blankLines_of_ne hc _ _), ih hline,
      List.reverse_cons, List.append_assoc, List.append_assoc]
    rfl

theorem starts_joinLines {lines : List Text} (hne : lines ≠ []) (h : ∀ line ∈ lines, Line line)
    (rest : Text) : Starts (joinLines lines ++ rest) := by
  cases lines with
  | nil => exact absurd rfl hne
  | cons line lines =>
    have hline := h line List.mem_cons_self
    cases lines with
    | nil => exact hline.starts rest
    | cons line' lines =>
      rw [joinLines_cons, List.append_assoc]
      exact hline.starts _

/-- No match begins within a block. -/
theorem splitFrom_joinLines {lines : List Text} (h : ∀ line ∈ lines, Line line)
    (before piece after : Text) :
    Regex.splitFrom blankLines 0 before piece (joinLines lines ++ after) =
      Regex.splitFrom blankLines 0 ((joinLines lines).reverse ++ before)
        (piece ++ joinLines lines) after := by
  induction lines generalizing before piece with
  | nil => rw [joinLines, List.append_nil]; rfl
  | cons line lines ih =>
    obtain ⟨hline, hlines⟩ := List.forall_mem_cons.1 h
    cases lines with
    | nil => exact splitFrom_line hline.newline before piece after
    | cons line' lines =>
      have hstart := starts_joinLines (List.cons_ne_nil line' lines) hlines after
      rw [joinLines_cons, List.append_assoc, List.cons_append, splitFrom_line hline.newline,
        Regex.splitFrom_cons (blankLines_starts hstart _), ih hlines]
      simp

/-- Lines, at least one, none of which is blank. -/
structure Block (lines : List Text) : Prop where
  ne_nil : lines ≠ []
  line : ∀ line ∈ lines, Line line

/-- A text of blocks is its first block, and something after it. -/
theorem Separated.head {block text : Text} {blocks : List Text}
    (h : Separated (block :: blocks) text) :
    ∃ rest, text = block ++ rest ∧ ∀ block', Separated (block' :: blocks) (block' ++ rest) := by
  cases h with
  | single => exact ⟨[], (List.append_nil _).symm, fun block' => by
      rw [List.append_nil]
      exact .single block'⟩
  | cons _ gap hgap hrest => exact ⟨_, rfl, fun block' => .cons block' gap hgap hrest⟩

theorem splitFrom_separated {blocks : List (List Text)} (hblocks : ∀ lines ∈ blocks, Block lines)
    {text : Text} (h : Separated (blocks.map joinLines) text) (before : Text) :
    Regex.splitFrom blankLines 0 before [] text = blocks.map joinLines := by
  induction blocks generalizing text before with
  | nil => cases h
  | cons lines blocks ih =>
    obtain ⟨hlines, hrest⟩ := List.forall_mem_cons.1 hblocks
    rw [List.map_cons] at h ⊢
    cases blocks with
    | nil =>
      cases h with
      | single =>
        have := splitFrom_joinLines hlines.line before [] []
        rw [List.append_nil] at this
        rw [this]
        rfl
      | cons _ _ _ hnone => cases hnone
    | cons lines' blocks =>
      cases h with
      | @cons _ gap _ text hgap hnext =>
        obtain ⟨rest, htext, -⟩ := hnext.head
        have hblock' := hrest lines' List.mem_cons_self
        have hstart : Starts text := htext ▸ starts_joinLines hblock'.ne_nil hblock'.line rest
        have hgap' : gap ++ '\n' :: text = gap ++ ['\n'] ++ text := by simp
        have hfirst := first_blankLines hgap hstart ((joinLines lines).reverse ++ before)
        have hafter : '\n' :: (gap.reverse ++ '\n' :: ((joinLines lines).reverse ++ before)) =
            (gap ++ ['\n']).reverse ++ '\n' :: ((joinLines lines).reverse ++ before) := by simp
        rw [hafter, hgap'] at hfirst
        rw [splitFrom_joinLines hlines.line, hgap', Regex.splitFrom_first hfirst, ih hrest hnext,
          List.nil_append]

/-! ## Stripping -/

theorem dropWhile_append_stop {c : Char} (hc : isspace c = false) (s t : Text) :
    (s ++ c :: t).dropWhile isspace = s.dropWhile isspace ++ c :: t := by
  induction s with
  | nil => rw [List.nil_append, List.dropWhile_cons_of_neg (by simp [hc])]; rfl
  | cons d s ih =>
    by_cases hd : isspace d = true
    · rw [List.cons_append, List.dropWhile_cons_of_pos hd, List.dropWhile_cons_of_pos hd, ih]
    · rw [List.cons_append, List.dropWhile_cons_of_neg hd, List.dropWhile_cons_of_neg hd]
      rfl

theorem rdropWhile_append_stop {c : Char} (hc : isspace c = false) (s t : Text) :
    (s ++ c :: t).rdropWhile isspace = s ++ c :: t.rdropWhile isspace := by
  have hrev : (s ++ c :: t).reverse = t.reverse ++ c :: s.reverse := by simp
  rw [List.rdropWhile, hrev, dropWhile_append_stop hc, List.rdropWhile]
  simp

theorem strip_dropWhile (t : Text) : strip (t.dropWhile isspace) = strip t := by
  rw [strip, List.dropWhile_idempotent, ← strip]

theorem strip_rdropWhile (t : Text) : strip (t.rdropWhile isspace) = strip t := by
  cases h : t.dropWhile isspace with
  | nil =>
    have hnil : t.rdropWhile isspace = [] := by
      rw [List.rdropWhile_eq_nil_iff]
      exact List.dropWhile_eq_nil_iff.1 h
    rw [strip, strip, hnil, h]
    rfl
  | cons c rest =>
    have hc : isspace c = false := by
      have := List.head?_dropWhile_not isspace t
      rw [h] at this
      simpa using this
    have hsplit := List.takeWhile_append_dropWhile (p := isspace) (l := t)
    rw [h] at hsplit
    have hstop (u : Text) : (c :: u).rdropWhile isspace = c :: u.rdropWhile isspace :=
      rdropWhile_append_stop hc [] u
    rw [strip, strip, h, ← hsplit, rdropWhile_append_stop hc,
      List.dropWhile_append_of_pos fun d hd => List.mem_takeWhile_imp hd,
      List.dropWhile_cons_of_neg (by simp [hc]), hstop, hstop, List.rdropWhile_idempotent]

theorem strip_strip (t : Text) : strip (strip t) = strip t :=
  (strip_rdropWhile _).trans (strip_dropWhile t)

theorem dropWhile_blanks {blanks : Text} (h : ∀ c ∈ blanks, isspace c = true) (t : Text) :
    (blanks ++ t).dropWhile isspace = t.dropWhile isspace := List.dropWhile_append_of_pos h

theorem dropWhile_visible {t : Text} (h : ∃ c ∈ t, isspace c = false) (rest : Text) :
    (t ++ rest).dropWhile isspace = t.dropWhile isspace ++ rest := by
  rw [List.dropWhile_append, if_neg]
  rw [List.isEmpty_iff, List.dropWhile_eq_nil_iff]
  intro hall
  obtain ⟨c, hc, hspace⟩ := h
  rw [hall c hc] at hspace
  cases hspace

theorem Line.dropWhile {line : Text} (h : Line line) : Line (line.dropWhile isspace) := by
  obtain ⟨c, hc, hspace⟩ := h.visible
  exact ⟨⟨c, mem_dropWhile_of_visible hc hspace, hspace⟩, fun d hd =>
    h.unbroken d ((List.dropWhile_suffix _).subset hd)⟩

theorem Line.rdropWhile {line : Text} (h : Line line) : Line (line.rdropWhile isspace) := by
  obtain ⟨c, hc, hspace⟩ := h.visible
  refine ⟨⟨c, ?_, hspace⟩, fun d hd => h.unbroken d ((List.rdropWhile_prefix _ _).subset hd)⟩
  exact List.mem_reverse.2 (mem_dropWhile_of_visible (List.mem_reverse.2 hc) hspace)

theorem rdropWhile_visible {t : Text} (h : ∃ c ∈ t, isspace c = false) {blanks : Text}
    (hblanks : ∀ c ∈ blanks, isspace c = true) (start : Text) :
    (start ++ t ++ blanks).rdropWhile isspace = start ++ t.rdropWhile isspace := by
  obtain ⟨c, hc, hspace⟩ := h
  rw [List.rdropWhile, List.reverse_append, List.reverse_append,
    dropWhile_blanks fun d hd => hblanks d (List.mem_reverse.1 hd),
    dropWhile_visible ⟨c, List.mem_reverse.2 hc, hspace⟩, List.reverse_append,
    List.reverse_reverse]
  rfl

/-- The last block, and what is before it. -/
theorem Separated.last {block text : Text} {blocks : List Text}
    (h : Separated (blocks ++ [block]) text) :
    ∃ start, text = start ++ block ∧
      ∀ block', Separated (blocks ++ [block']) (start ++ block') := by
  induction blocks generalizing text with
  | nil =>
    cases h with
    | single => exact ⟨[], rfl, .single⟩
    | cons _ _ _ hnone => cases hnone
  | cons first blocks ih =>
    have hne : blocks ++ [block] ≠ [] := by simp
    rw [List.cons_append] at h
    generalize htail : blocks ++ [block] = tail at h hne
    cases h with
    | single => exact absurd rfl hne
    | cons _ gap hgap hrest =>
      obtain ⟨start, rfl, hstart⟩ := ih (htail ▸ hrest)
      refine ⟨first ++ '\n' :: (gap ++ '\n' :: start), by simp, fun block' => ?_⟩
      have := Separated.cons first gap hgap (hstart block')
      simpa using this

theorem joinLines_head (lines : List Text) :
    ∃ rest, ∀ line', joinLines (line' :: lines) = line' ++ rest := by
  cases lines with
  | nil => exact ⟨[], fun line' => (List.append_nil line').symm⟩
  | cons next lines => exact ⟨_, fun line' => joinLines_cons line' next lines⟩

theorem joinLines_last (lines : List Text) :
    ∃ start, ∀ line', joinLines (lines ++ [line']) = start ++ line' := by
  induction lines with
  | nil => exact ⟨[], fun line' => rfl⟩
  | cons first lines ih =>
    obtain ⟨start, hstart⟩ := ih
    refine ⟨first ++ '\n' :: start, fun line' => ?_⟩
    obtain ⟨next, rest, hrest⟩ := List.exists_cons_of_ne_nil
      (List.append_ne_nil_of_right_ne_nil lines (List.cons_ne_nil line' []))
    rw [List.cons_append, hrest, joinLines_cons, ← hrest, hstart, List.append_assoc]
    rfl

section

variable {T : Type} {item : Text → T} {blocks : List (List Text)} {text : Text}

/-- Blanks at the start go with those of the first line. -/
theorem Separated.dropWhile (hitem : ∀ line, Line line → item (line.dropWhile isspace) = item line)
    (hblocks : ∀ lines ∈ blocks, Block lines) (h : Separated (blocks.map joinLines) text) :
    ∃ (blocks' : List (List Text)) (text' : Text), (∀ lines ∈ blocks', Block lines) ∧
      blocks'.map (List.map item) = blocks.map (List.map item) ∧
      Separated (blocks'.map joinLines) text' ∧
      ∀ after, (text ++ after).dropWhile isspace = text' ++ after := by
  cases blocks with
  | nil => cases h
  | cons lines blocks =>
    obtain ⟨hlines, hrest⟩ := List.forall_mem_cons.1 hblocks
    obtain ⟨line, lines, rfl⟩ := List.exists_cons_of_ne_nil hlines.ne_nil
    obtain ⟨hline, htail⟩ := List.forall_mem_cons.1 hlines.line
    obtain ⟨rest, rfl, hsep⟩ := h.head
    obtain ⟨tail, hjoin⟩ := joinLines_head lines
    refine ⟨(line.dropWhile isspace :: lines) :: blocks, _, ?_, ?_, hsep _, fun after => ?_⟩
    · exact List.forall_mem_cons.2 ⟨⟨List.cons_ne_nil _ _,
        List.forall_mem_cons.2 ⟨hline.dropWhile, htail⟩⟩, hrest⟩
    · rw [List.map_cons, List.map_cons, List.map_cons, List.map_cons, hitem line hline]
    · rw [hjoin, hjoin, List.append_assoc, List.append_assoc, dropWhile_visible hline.visible]
      simp

/-- Blanks at the end go with those of the last line. -/
theorem Separated.rdropWhile
    (hitem : ∀ line, Line line → item (line.rdropWhile isspace) = item line)
    (hblocks : ∀ lines ∈ blocks, Block lines) (h : Separated (blocks.map joinLines) text)
    {blanks : Text} (hblanks : ∀ c ∈ blanks, isspace c = true) :
    ∃ blocks' : List (List Text), (∀ lines ∈ blocks', Block lines) ∧
      blocks'.map (List.map item) = blocks.map (List.map item) ∧
      Separated (blocks'.map joinLines) ((text ++ blanks).rdropWhile isspace) := by
  rcases List.eq_nil_or_concat blocks with rfl | ⟨blocks, lines, rfl⟩
  · cases h
  · rw [List.concat_eq_append] at *
    have hlines := hblocks lines (by simp)
    have hrest : ∀ lines ∈ blocks, Block lines := fun lines hmem => hblocks lines (by simp [hmem])
    rcases List.eq_nil_or_concat lines with rfl | ⟨lines, line, rfl⟩
    · exact absurd rfl hlines.ne_nil
    · rw [List.concat_eq_append] at *
      have hline := hlines.line line (by simp)
      have hinit : ∀ line ∈ lines, Line line := fun line hmem => hlines.line line (by simp [hmem])
      rw [List.map_append, List.map_singleton] at h
      obtain ⟨start, rfl, hsep⟩ := h.last
      obtain ⟨init, hjoin⟩ := joinLines_last lines
      refine ⟨blocks ++ [lines ++ [line.rdropWhile isspace]], ?_, ?_, ?_⟩
      · rw [List.forall_mem_append, List.forall_mem_singleton]
        refine ⟨hrest, by simp, ?_⟩
        rw [List.forall_mem_append, List.forall_mem_singleton]
        exact ⟨hinit, hline.rdropWhile⟩
      · simp [hitem line hline]
      · rw [hjoin, ← List.append_assoc, rdropWhile_visible hline.visible hblanks, List.append_assoc,
          ← hjoin, List.map_append, List.map_singleton]
        exact hsep _

/-- **The blocks of a text are found again**, up to blanks around the text. -/
theorem split_strip {blanks blanks' : Text} (hblanks : ∀ c ∈ blanks, isspace c = true)
    (hblanks' : ∀ c ∈ blanks', isspace c = true)
    (hleft : ∀ line, Line line → item (line.dropWhile isspace) = item line)
    (hright : ∀ line, Line line → item (line.rdropWhile isspace) = item line)
    (hblocks : ∀ lines ∈ blocks, Block lines) (h : Separated (blocks.map joinLines) text) :
    ∃ blocks' : List (List Text), (∀ lines ∈ blocks', Block lines) ∧
      blocks'.map (List.map item) = blocks.map (List.map item) ∧
      Regex.split blankLines (strip (blanks ++ text ++ blanks')) = blocks'.map joinLines := by
  obtain ⟨blocks₁, text₁, hblocks₁, hitems₁, hsep₁, hdrop⟩ := h.dropWhile hleft hblocks
  obtain ⟨blocks₂, hblocks₂, hitems₂, hsep₂⟩ := hsep₁.rdropWhile hright hblocks₁ hblanks'
  refine ⟨blocks₂, hblocks₂, hitems₂.trans hitems₁, ?_⟩
  rw [strip, List.append_assoc, dropWhile_blanks hblanks, hdrop]
  exact splitFrom_separated hblocks₂ hsep₂ []

end

/-! ## Keys and values -/

theorem partition_append {c : Char} {before : Text} (h : c ∉ before) (after : Text) :
    partition c (before ++ c :: after) = (before, some after) := by
  have hne : ∀ d ∈ before, decide (d ≠ c) = true := by
    intro d hd
    rw [decide_eq_true_eq]
    rintro rfl
    exact h hd
  rw [partition, List.span_eq_takeWhile_dropWhile, List.takeWhile_append_of_pos hne,
    List.dropWhile_append_of_pos hne]
  simp

theorem partition_of_not_mem {c : Char} {t : Text} (h : c ∉ t) : partition c t = (t, none) := by
  have hne : ∀ d ∈ t, decide (d ≠ c) = true := by
    intro d hd
    rw [decide_eq_true_eq]
    rintro rfl
    exact h hd
  rw [partition, List.span_eq_takeWhile_dropWhile, List.takeWhile_eq_self_iff.2 hne,
    List.dropWhile_eq_nil_iff.2 hne]

end Py
