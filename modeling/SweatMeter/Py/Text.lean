/-
  Python strings, as lists of characters.

  The character tables are those of `str.isspace`, `str.splitlines` and the
  decimal digits.  `casefold` and `lower` are exact where their result is ASCII,
  which is all they are compared with.  Parsed numbers are exact, as in
  `Py.Number`.
-/
import Mathlib.Data.List.DropRight
import SweatMeter.Py.Number

namespace Py

abbrev Text := List Char

/-- `text.endswith(s)`. -/
def endswith (text s : String) : Bool := s.toList.isSuffixOf text.toList

/-- `s in text`. -/
def inText (s text : String) : Bool := text.toList.tails.any s.toList.isPrefixOf

/-! ## Blanks and lines -/

def isspace (c : Char) : Bool :=
  let n := c.toNat
  (9 ≤ n && n ≤ 13) || (28 ≤ n && n ≤ 32) || (0x2000 ≤ n && n ≤ 0x200A) ||
    [0x85, 0xA0, 0x1680, 0x2028, 0x2029, 0x202F, 0x205F, 0x3000].contains n

def isLineBreak (c : Char) : Bool :=
  let n := c.toNat
  (10 ≤ n && n ≤ 13) || (28 ≤ n && n ≤ 30) || [0x85, 0x2028, 0x2029].contains n

def strip (t : Text) : Text := (t.dropWhile isspace).rdropWhile isspace

/-- `s in t`. -/
def occursIn (s : String) (t : Text) : Bool := t.tails.any s.toList.isPrefixOf

/-- `t.removesuffix(s)`. -/
def removesuffix (s : String) (t : Text) : Text :=
  if s.toList.isSuffixOf t then t.take (t.length - s.toList.length) else t

/-- `split()` of `word` and what follows it. -/
def splitFrom (word : Text) : Text → List Text
  | [] => if word = [] then [] else [word]
  | c :: t =>
    if isspace c then if word = [] then splitFrom [] t else word :: splitFrom [] t
    else splitFrom (word ++ [c]) t

/-- `t.split()`. -/
def split (t : Text) : List Text := splitFrom [] t

/-- `splitlines()` of `line` and what follows it. -/
def splitlinesFrom (line : Text) : Text → List Text
  | [] => if line = [] then [] else [line]
  | '\r' :: '\n' :: t => line :: splitlinesFrom [] t
  | c :: t => if isLineBreak c then line :: splitlinesFrom [] t else splitlinesFrom (line ++ [c]) t

/-- `t.splitlines()`. -/
def splitlines (t : Text) : List Text := splitlinesFrom [] t

/-- `t.partition(c)`: the text before the first `c`, and the text after it if there is
    one. -/
def partition (c : Char) (t : Text) : Text × Option Text :=
  match t.span (· ≠ c) with
  | (before, []) => (before, none)
  | (before, _ :: after) => (before, some after)

theorem dropWhile_eq_self {p : Char → Bool} {t : Text} (h : ∀ c ∈ t, p c = false) :
    t.dropWhile p = t := by
  cases t with
  | nil => rfl
  | cons c t => rw [List.dropWhile_cons_of_neg]; simp [h c List.mem_cons_self]

theorem strip_eq_self {t : Text} (h : ∀ c ∈ t, isspace c = false) : strip t = t := by
  rw [strip, dropWhile_eq_self h, List.rdropWhile, dropWhile_eq_self, List.reverse_reverse]
  intro c hc
  exact h c (List.mem_reverse.1 hc)

theorem mem_dropWhile_of_visible {t : Text} {c : Char} (h : c ∈ t) (hc : isspace c = false) :
    c ∈ t.dropWhile isspace := by
  rw [← List.takeWhile_append_dropWhile (p := isspace) (l := t), List.mem_append] at h
  rcases h with h | h
  · have := List.mem_takeWhile_imp h
    rw [hc] at this
    cases this
  · exact h

theorem strip_ne_nil {t : Text} {c : Char} (h : c ∈ t) (hc : isspace c = false) : strip t ≠ [] := by
  intro hstrip
  rw [strip, List.rdropWhile_eq_nil_iff] at hstrip
  have := hstrip c (mem_dropWhile_of_visible h hc)
  rw [hc] at this
  cases this

theorem strip_dropWhile_blank (t : Text) : strip (t.dropWhile (· = ' ')) = strip t := by
  induction t with
  | nil => rfl
  | cons c t ih =>
    by_cases hc : c = ' '
    · have hspace : isspace c = true := hc ▸ rfl
      rw [List.dropWhile_cons_of_pos (by simpa using hc), ih, strip, strip,
        List.dropWhile_cons_of_pos hspace]
    · rw [List.dropWhile_cons_of_neg (by simpa using hc)]

theorem splitFrom_blanks {blanks : Text} (h : ∀ c ∈ blanks, isspace c = true) (t : Text) :
    splitFrom [] (blanks ++ t) = splitFrom [] t := by
  induction blanks with
  | nil => rfl
  | cons c blanks ih =>
    obtain ⟨hc, hblanks⟩ := List.forall_mem_cons.1 h
    rw [List.cons_append, splitFrom, if_pos hc, if_pos rfl, ih hblanks]

theorem splitFrom_visible {w : Text} (h : ∀ c ∈ w, isspace c = false) (word t : Text) :
    splitFrom word (w ++ t) = splitFrom (word ++ w) t := by
  induction w generalizing word with
  | nil => rw [List.nil_append, List.append_nil]
  | cons c w ih =>
    obtain ⟨hc, hw⟩ := List.forall_mem_cons.1 h
    rw [List.cons_append, splitFrom, if_neg (by simp [hc]), ih hw, List.append_assoc]
    rfl

/-- Two words after blanks. -/
theorem split_pair {blanks v w : Text} (hblanks : ∀ c ∈ blanks, isspace c = true)
    (hv : ∀ c ∈ v, isspace c = false) (hw : ∀ c ∈ w, isspace c = false) (hvne : v ≠ [])
    (hwne : w ≠ []) : split (blanks ++ (v ++ ' ' :: w)) = [v, w] := by
  have hspace : isspace ' ' = true := rfl
  have hlast : splitFrom [] (w ++ []) = [w] := by
    rw [splitFrom_visible hw, List.nil_append, splitFrom, if_neg hwne]
  rw [split, splitFrom_blanks hblanks, splitFrom_visible hv, List.nil_append, splitFrom,
    if_pos hspace, if_neg hvne, ← List.append_nil w, hlast, List.append_nil]

theorem splitlinesFrom_append {line t : Text} (h : ∀ c ∈ t, isLineBreak c = false) (rest : Text) :
    splitlinesFrom line (t ++ '\n' :: rest) = (line ++ t) :: splitlinesFrom [] rest := by
  induction t generalizing line with
  | nil =>
    rw [List.nil_append, List.append_nil, splitlinesFrom]
    · rfl
    · intro t hr; cases hr
  | cons c t ih =>
    have hc := h c List.mem_cons_self
    rw [List.cons_append, splitlinesFrom]
    · rw [hc, if_neg Bool.false_ne_true, ih fun d hd => h d (.tail _ hd), List.append_assoc]
      rfl
    · rintro t' rfl
      cases hc

theorem splitlinesFrom_line {line t : Text} (h : ∀ c ∈ t, isLineBreak c = false) :
    splitlinesFrom line t = if line ++ t = [] then [] else [line ++ t] := by
  induction t generalizing line with
  | nil => rw [splitlinesFrom, List.append_nil]
  | cons c t ih =>
    have hc := h c List.mem_cons_self
    rw [splitlinesFrom]
    · rw [hc, if_neg Bool.false_ne_true, ih fun d hd => h d (.tail _ hd), List.append_assoc]
      rfl
    · rintro t' rfl
      cases hc

/-- A text without line breaks is one line, or none. -/
theorem splitlines_line {t : Text} (h : ∀ c ∈ t, isLineBreak c = false) :
    splitlines t = if t = [] then [] else [t] := splitlinesFrom_line h

/-- Lines, each terminated. -/
def unlines (lines : List Text) : Text := lines.flatMap (· ++ ['\n'])

/-- **Terminated lines are split as they stand.** -/
theorem splitlines_unlines {lines : List Text}
    (h : ∀ line ∈ lines, ∀ c ∈ line, isLineBreak c = false) : splitlines (unlines lines) = lines := by
  unfold splitlines
  induction lines with
  | nil => rfl
  | cons line lines ih =>
    have hcons : unlines (line :: lines) = line ++ '\n' :: unlines lines := by simp [unlines]
    rw [hcons, splitlinesFrom_append (h line List.mem_cons_self), List.nil_append,
      ih fun l hl => h l (.tail _ hl)]

theorem splitlinesFrom_append_newline (line a b : Text) :
    ∃ gap : List Text, (∀ blank ∈ gap, blank = []) ∧
      splitlinesFrom line (a ++ '\n' :: b) =
        splitlinesFrom line a ++ gap ++ splitlinesFrom [] b := by
  induction line, a using splitlinesFrom.induct with
  | case1 =>
    refine ⟨[[]], by simp, ?_⟩
    rfl
  | case2 line hline =>
    refine ⟨[], by simp, ?_⟩
    rw [List.nil_append, splitlinesFrom, splitlinesFrom, if_neg hline]
    · rfl
    · simp
  | case3 line t ih =>
    obtain ⟨gap, hgap, h⟩ := ih
    refine ⟨gap, hgap, ?_⟩
    rw [List.cons_append, List.cons_append, splitlinesFrom, splitlinesFrom, h]
    rfl
  | case4 line c t hc hbreak ih =>
    by_cases hcrlf : c = '\r' ∧ t = []
    · -- the newline completes the line break
      obtain ⟨rfl, rfl⟩ := hcrlf
      refine ⟨[], by simp, ?_⟩
      rfl
    · obtain ⟨gap, hgap, h⟩ := ih
      refine ⟨gap, hgap, ?_⟩
      rw [List.cons_append, splitlinesFrom, splitlinesFrom, if_pos hbreak, if_pos hbreak, h]
      · rfl
      · exact hc
      · intro t' hr ht'
        cases t with
        | nil => exact hcrlf ⟨hr, rfl⟩
        | cons d t => exact hc t hr (congrArg (· :: t) (List.cons.inj ht').1)
  | case5 line c t hc hbreak ih =>
    obtain ⟨gap, hgap, h⟩ := ih
    refine ⟨gap, hgap, ?_⟩
    have hne : c ≠ '\r' := by
      rintro rfl
      exact hbreak rfl
    rw [List.cons_append, splitlinesFrom, splitlinesFrom, if_neg hbreak, if_neg hbreak, h]
    · exact hc
    · intro t' hr
      exact absurd hr hne

/-- **Texts joined by a newline**: their lines, with at most blank ones in between. -/
theorem splitlines_append_newline (a b : Text) : ∃ gap : List Text, (∀ blank ∈ gap, blank = []) ∧
    splitlines (a ++ '\n' :: b) = splitlines a ++ gap ++ splitlines b :=
  splitlinesFrom_append_newline [] a b

/-- `len(t.encode("utf-8"))`. -/
def utf8Length : Text → ℕ
  | [] => 0
  | c :: t => c.utf8Size + utf8Length t

theorem utf8Length_perm {s t : Text} (h : s.Perm t) : utf8Length s = utf8Length t := by
  induction h with
  | nil => rfl
  | cons c _ ih => rw [utf8Length, utf8Length, ih]
  | swap c d t => simp only [utf8Length]; omega
  | trans _ _ ih₁ ih₂ => rw [ih₁, ih₂]

/-! ## Case -/

def casefoldChar (c : Char) : Text :=
  if c.isUpper then [c.toLower]
  else match c.toNat with
    | 0x17F => ['s']
    | 0x212A => ['k']
    | 0xDF | 0x1E9E => ['s', 's']
    | 0xFB00 => ['f', 'f']
    | 0xFB01 => ['f', 'i']
    | 0xFB02 => ['f', 'l']
    | 0xFB03 => ['f', 'f', 'i']
    | 0xFB04 => ['f', 'f', 'l']
    | 0xFB05 | 0xFB06 => ['s', 't']
    | _ => [c]

def casefold (t : Text) : Text := t.flatMap casefoldChar

theorem casefold_eq_self {t : Text} (h : ∀ c ∈ t, casefoldChar c = [c]) : casefold t = t := by
  induction t with
  | nil => rfl
  | cons c t ih =>
    rw [casefold, List.flatMap_cons, h c List.mem_cons_self]
    exact congrArg (c :: ·) (ih fun d hd => h d (.tail _ hd))

/-- A character of `str.lower`, exact where its result is ASCII. -/
def lowerChar (c : Char) : Text :=
  if c.isUpper then [c.toLower]
  else match c.toNat with
    | 0x130 => ['i', Char.ofNat 0x307]
    | 0x212A => ['k']
    | _ => [c]

def lower (t : Text) : Text := t.flatMap lowerChar

/-! ## Numbers -/

/-- The zeros of the scripts that have decimal digits. -/
def decimalZeros : List ℕ :=
  [0x30, 0x660, 0x6F0, 0x7C0, 0x966, 0x9E6, 0xA66, 0xAE6, 0xB66, 0xBE6, 0xC66, 0xCE6, 0xD66, 0xDE6,
    0xE50, 0xED0, 0xF20, 0x1040, 0x1090, 0x17E0, 0x1810, 0x1946, 0x19D0, 0x1A80, 0x1A90, 0x1B50,
    0x1BB0, 0x1C40, 0x1C50, 0xA620, 0xA8D0, 0xA900, 0xA9D0, 0xA9F0, 0xAA50, 0xABF0, 0xFF10,
    0x104A0, 0x10D30, 0x11066, 0x110F0, 0x11136, 0x111D0, 0x112F0, 0x11450, 0x114D0, 0x11650,
    0x116C0, 0x11730, 0x118E0, 0x11950, 0x11C50, 0x11D50, 0x11DA0, 0x11F50, 0x16A60, 0x16AC0,
    0x16B50, 0x1D7CE, 0x1D7D8, 0x1D7E2, 0x1D7EC, 0x1D7F6, 0x1E140, 0x1E2F0, 0x1E4F0, 0x1E950,
    0x1FBF0]

/-- A decimal digit of any script becomes an ASCII one. -/
def asciiDigit (c : Char) : Char :=
  match decimalZeros.find? fun z => z ≤ c.toNat && c.toNat < z + 10 with
  | some z => Nat.digitChar (c.toNat - z)
  | none => c

/-- Drop underscores, each of which must stand between two digits; `after` says
    that a digit comes before. -/
def dropUnderscores (after : Bool) : Text → Option Text
  | [] => some []
  | c :: t =>
    if c = '_' then
      if after && t.head?.any Char.isDigit then dropUnderscores false t else none
    else (dropUnderscores c.isDigit t).map (c :: ·)

/-- The sign in front, and the rest. -/
def sign : Text → Bool × Text
  | '-' :: t => (true, t)
  | '+' :: t => (false, t)
  | t => (false, t)

def negate {R : Type} [Neg R] (neg : Bool) (x : R) : R := if neg then -x else x

/-- `sys.get_int_max_str_digits()`. -/
@[irreducible] def maxStrDigits : ℕ := 4300

theorem maxStrDigits_pos : 0 < maxStrDigits := by unfold maxStrDigits; omega

theorem maxStrDigits_le : maxStrDigits ≤ 4300 := by unfold maxStrDigits; omega

/-- `str(n)`. -/
def intText (n : ℤ) : Except Exn String :=
  if 10 ^ maxStrDigits ≤ n.natAbs then .error ⟨"ValueError"⟩ else .ok (toString n)

/-- `str(n)` returns. -/
def Printable (n : ℤ) : Prop := n.natAbs < 10 ^ maxStrDigits

theorem printable_of_lt {n : ℤ} (h : n.natAbs < 100) : Printable n := by
  have hdigits : 10 ^ 2 ≤ 10 ^ maxStrDigits :=
    Nat.pow_le_pow_right (by simp) (by simp [maxStrDigits])
  exact h.trans_le hdigits

theorem returns_intText {n : ℤ} : Returns (intText n) ↔ Printable n := by
  simp only [intText, Printable]
  split
  · exact iff_of_false (not_returns_error _) (by omega)
  · exact iff_of_true (returns_ok _) (by omega)

def digitsValue (t : Text) : ℕ := Nat.ofDigitChars 10 t 0

/-- `int(t)`. -/
def toInt (t : Text) : Except Exn ℤ :=
  let (neg, t) := sign ((strip t).map asciiDigit)
  match dropUnderscores false t with
  | some ds =>
    if ds ≠ [] ∧ ds.all Char.isDigit ∧ ds.length ≤ maxStrDigits then
      .ok (negate neg (digitsValue ds : ℤ))
    else .error ⟨"ValueError"⟩
  | none => .error ⟨"ValueError"⟩

/-- The value of an exponent part. -/
def exponent : Text → Option ℤ
  | [] => some 0
  | c :: t =>
    let (neg, ds) := sign t
    if c.toLower = 'e' ∧ ds ≠ [] ∧ ds.all Char.isDigit then some (negate neg (digitsValue ds : ℤ))
    else none

/-- The fractional digits, and the rest. -/
def fraction : Text → Text × Text
  | '.' :: t => t.span Char.isDigit
  | t => ([], t)

/-- The value of an unsigned decimal literal. -/
def decimalLiteral (t : Text) : Option ℚ :=
  let (whole, t) := t.span Char.isDigit
  let (frac, t) := fraction t
  if whole = [] ∧ frac = [] then none
  else (exponent t).map fun exp =>
    let e : ℤ := exp - (frac.length : ℤ)
    if 0 ≤ e then digitsValue (whole ++ frac) * 10 ^ e.toNat
    else digitsValue (whole ++ frac) / 10 ^ (-e).toNat

/-- A rational number that rounds beyond the largest double is infinite. -/
def toDouble (q : ℚ) : Double := if (doubleLimit : ℚ) ≤ |q| then .inf (q < 0) else .finite q

/-- `float(t)`. -/
def toFloat (t : Text) : Except Exn Double :=
  match dropUnderscores false ((strip t).map asciiDigit) with
  | none => .error ⟨"ValueError"⟩
  | some t =>
    let (neg, t) := sign t
    if t.map Char.toLower = "inf".toList ∨ t.map Char.toLower = "infinity".toList then .ok (.inf neg)
    else if t.map Char.toLower = "nan".toList then .ok .nan
    else match decimalLiteral t with
      | some q => .ok (toDouble (negate neg q))
      | none => .error ⟨"ValueError"⟩

end Py
