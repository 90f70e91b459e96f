/-
  Decimal numerals, and how `int` and `float` read them back.
-/
import Mathlib.Algebra.Order.Field.Rat
import Mathlib.Data.List.TakeDrop
import Mathlib.Tactic.IntervalCases
import Mathlib.Tactic.Positivity.Basic
import Mathlib.Tactic.Ring
import SweatMeter.Py.Csv

namespace Py

/-- The characters from `-` to `9`: no letter, blank or separator among them. -/
def Numeric (c : Char) : Prop := 45 ≤ c.toNat ∧ c.toNat ≤ 57

theorem Numeric.exists_ofNat {c : Char} (h : Numeric c) : ∃ n, 45 ≤ n ∧ n ≤ 57 ∧ c = Char.ofNat n :=
  ⟨c.toNat, h.1, h.2, (Char.ofNat_toNat c).symm⟩

theorem Numeric.asciiDigit {c : Char} (h : Numeric c) : asciiDigit c = c := by
  obtain ⟨n, hlo, hhi, rfl⟩ := h.exists_ofNat
  interval_cases n <;> rfl

theorem Numeric.casefoldChar {c : Char} (h : Numeric c) : casefoldChar c = [c] := by
  obtain ⟨n, hlo, hhi, rfl⟩ := h.exists_ofNat
  interval_cases n <;> rfl

theorem Numeric.isspace {c : Char} (h : Numeric c) : isspace c = false := by
  obtain ⟨n, hlo, hhi, rfl⟩ := h.exists_ofNat
  interval_cases n <;> rfl

theorem Numeric.isLineBreak {c : Char} (h : Numeric c) : isLineBreak c = false := by
  obtain ⟨n, hlo, hhi, rfl⟩ := h.exists_ofNat
  interval_cases n <;> rfl

theorem Numeric.toLower {c : Char} (h : Numeric c) : c.toLower = c := by
  obtain ⟨n, hlo, hhi, rfl⟩ := h.exists_ofNat
  interval_cases n <;> rfl

theorem numeric_of_isDigit {c : Char} (h : c.isDigit = true) : Numeric c := by
  rw [Char.isDigit_iff_toNat] at h
  have h0 : '0'.toNat = 48 := rfl
  have h9 : '9'.toNat = 57 := rfl
  exact ⟨by omega, by omega⟩

theorem dropUnderscores_eq_self {t : Text} (h : '_' ∉ t) (after : Bool) :
    dropUnderscores after t = some t := by
  induction t generalizing after with
  | nil => rfl
  | cons c t ih =>
    have hc : c ≠ '_' := fun hc => h (hc ▸ List.mem_cons_self)
    rw [dropUnderscores, if_neg hc, ih fun ht => h (.tail _ ht)]
    rfl

/-! ## Texts of numeric characters -/

section

variable {t : Text} (h : ∀ c ∈ t, Numeric c)
include h

theorem strip_numeric : strip t = t := strip_eq_self fun c hc => (h c hc).isspace

theorem map_asciiDigit_numeric : t.map asciiDigit = t :=
  (List.map_congr_left fun c hc => (h c hc).asciiDigit).trans (List.map_id' t)

theorem map_toLower_numeric : t.map Char.toLower = t :=
  (List.map_congr_left fun c hc => (h c hc).toLower).trans (List.map_id' t)

theorem casefold_numeric : casefold t = t := casefold_eq_self fun c hc => (h c hc).casefoldChar

theorem underscore_not_mem_numeric : '_' ∉ t := by
  intro hmem
  have := (h _ hmem).2
  revert this
  decide

end

/-! ## Numerals -/

/-- The decimal numeral of `n`. -/
def numeral (n : ℕ) : Text := Nat.toDigits 10 n

/-- The decimal numeral of an integer. -/
def intNumeral : ℤ → Text
  | .ofNat n => numeral n
  | .negSucc n => '-' :: numeral (n + 1)

/-- `n` hundredths, with two decimals. -/
def hundredths (n : ℕ) : Text :=
  numeral (n / 100) ++ ['.', Nat.digitChar (n / 10 % 10), Nat.digitChar (n % 10)]

theorem isDigit_numeral {n : ℕ} {c : Char} (h : c ∈ numeral n) : c.isDigit = true :=
  Nat.isDigit_of_mem_toDigits (by omega) (by omega) h

theorem numeral_ne_nil (n : ℕ) : numeral n ≠ [] := Nat.toDigits_ne_nil

theorem intNumeral_ne_nil (n : ℤ) : intNumeral n ≠ [] := by
  cases n with
  | ofNat n => exact numeral_ne_nil n
  | negSucc n => exact List.cons_ne_nil _ _

theorem isDigit_digitChar {n : ℕ} (h : n < 10) : (Nat.digitChar n).isDigit = true := by
  interval_cases n <;> rfl

theorem numeric_numeral {n : ℕ} : ∀ c ∈ numeral n, Numeric c :=
  fun _ hc => numeric_of_isDigit (isDigit_numeral hc)

theorem numeric_intNumeral {n : ℤ} : ∀ c ∈ intNumeral n, Numeric c := by
  cases n with
  | ofNat n => exact numeric_numeral
  | negSucc n =>
    intro c hc
    rcases List.mem_cons.1 hc with rfl | hc
    · exact ⟨by simp, by simp⟩
    · exact numeric_numeral c hc

theorem numeric_hundredths {n : ℕ} : ∀ c ∈ hundredths n, Numeric c := by
  intro c hc
  rcases List.mem_append.1 hc with hc | hc
  · exact numeric_numeral c hc
  · simp only [List.mem_cons, List.not_mem_nil, or_false] at hc
    rcases hc with rfl | rfl | rfl
    · exact ⟨by decide, by simp⟩
    · exact numeric_of_isDigit (isDigit_digitChar (by omega))
    · exact numeric_of_isDigit (isDigit_digitChar (by omega))

/-- A text of numeric characters may stand in a cell. -/
theorem printed_of_numeric {t : Text} (h : ∀ c ∈ t, Numeric c) (hne : t ≠ [])
    (hlen : t.length ≤ Csv.fieldLimit) : Csv.Printed t where
  separators c hc := by
    constructor
    · rintro rfl; exact absurd (h _ hc).1 (by simp)
    · rintro rfl; exact absurd (h _ hc).1 (by decide)
  head hhead := absurd (h ' ' (List.mem_of_mem_head? hhead)).1 (by simp)
  length := hlen
  ne_nil := hne
  line c hc := (h c hc).isLineBreak

/-- Digits make a number with no more digits. -/
theorem digitsValue_lt {ds : Text} (h : ds.all Char.isDigit = true) :
    digitsValue ds < 10 ^ ds.length := by
  have hloop : ∀ (ds : Text) (init : ℕ), ds.all Char.isDigit = true →
      Nat.ofDigitChars 10 ds init < 10 ^ ds.length * (init + 1) := by
    intro ds
    induction ds with
    | nil => simp
    | cons c ds ih =>
      intro init hall
      rw [List.all_cons, Bool.and_eq_true] at hall
      obtain ⟨hc, hrest⟩ := hall
      rw [Char.isDigit_iff_toNat] at hc
      have hdigit : c.toNat - '0'.toNat ≤ 9 := by
        have hzero : '0'.toNat = 48 := rfl
        have hnine : '9'.toNat = 57 := rfl
        omega
      rw [Nat.ofDigitChars_cons, List.length_cons]
      calc Nat.ofDigitChars 10 ds (10 * init + (c.toNat - '0'.toNat))
          < 10 ^ ds.length * (10 * init + (c.toNat - '0'.toNat) + 1) := ih _ hrest
        _ ≤ 10 ^ ds.length * (10 * (init + 1)) := Nat.mul_le_mul_left _ (by omega)
        _ = 10 ^ (ds.length + 1) * (init + 1) := by rw [pow_succ, Nat.mul_assoc]
  simpa [digitsValue] using hloop ds 0 h

/-- What `int` reads can be printed. -/
theorem printable_of_toInt {t : Text} {n : ℤ} (h : toInt t = .ok n) : Printable n := by
  unfold toInt at h
  split at h
  rename_i neg t' _
  split at h
  · split_ifs at h with hds
    cases h
    obtain ⟨-, hall, hlength⟩ := hds
    have hlt := (digitsValue_lt hall).trans_le (Nat.pow_le_pow_right (by decide) hlength)
    cases neg with
    | true => simpa [negate, Printable] using hlt
    | false => simpa [negate, Printable] using hlt
  · cases h

theorem digitsValue_numeral (n : ℕ) : digitsValue (numeral n) = n := Nat.ofDigitChars_ten_toDigits

/-- A numeral ends where no digit follows. -/
theorem numeral_append_cancel {m n : ℕ} {s t : Text} (hs : s.head?.all (! ·.isDigit) = true)
    (ht : t.head?.all (! ·.isDigit) = true) (h : numeral m ++ s = numeral n ++ t) : m = n := by
  have hdigits (n : ℕ) (t : Text) (ht : t.head?.all (! ·.isDigit) = true) :
      (numeral n ++ t).takeWhile Char.isDigit = numeral n := by
    rw [List.takeWhile_append_of_pos fun c hc => isDigit_numeral hc]
    cases t with
    | nil => simp
    | cons c t =>
      have hc : c.isDigit = false := by simpa using ht
      simp [hc]
  have hnumeral : numeral m = numeral n := by
    rw [← hdigits m s hs, h, hdigits n t ht]
  rw [← digitsValue_numeral m, hnumeral, digitsValue_numeral]

theorem length_numeral_le {n k : ℕ} (hk : 0 < k) (h : n < 10 ^ k) : (numeral n).length ≤ k :=
  (Nat.length_toDigits_le_iff (by omega) hk).2 h

/-! ## Reading numerals -/

theorem sign_of_isDigit {t : Text} (h : ∀ c ∈ t.head?, c.isDigit = true) : sign t = (false, t) := by
  unfold sign
  split
  · exact absurd (h '-' rfl) (by simp)
  · exact absurd (h '+' rfl) (by simp)
  · rfl

theorem sign_numeral (n : ℕ) (t : Text) : sign (numeral n ++ t) = (false, numeral n ++ t) := by
  refine sign_of_isDigit ?_
  intro c hc
  rw [List.head?_append_of_ne_nil _ (numeral_ne_nil n)] at hc
  exact isDigit_numeral (List.mem_of_mem_head? hc)

/-- **`int` reads a numeral back.** -/
theorem toInt_numeral {n : ℕ} (h : n < 10 ^ maxStrDigits) : toInt (numeral n) = .ok n := by
  have hpos : 0 < maxStrDigits := by unfold maxStrDigits; omega
  have hsign : sign (numeral n) = (false, numeral n) := by simpa using sign_numeral n []
  have hall : (numeral n).all Char.isDigit = true := List.all_eq_true.2 fun c => isDigit_numeral
  simp only [toInt, strip_numeric numeric_numeral, map_asciiDigit_numeric numeric_numeral, hsign,
    dropUnderscores_eq_self (underscore_not_mem_numeric numeric_numeral)]
  rw [if_pos ⟨numeral_ne_nil n, hall, length_numeral_le hpos h⟩, digitsValue_numeral]
  rfl

theorem span_isDigit {ds t : Text} (hds : ∀ c ∈ ds, c.isDigit = true)
    (ht : ∀ c ∈ t.head?, c.isDigit = false) : (ds ++ t).span Char.isDigit = (ds, t) := by
  rw [List.span_eq_takeWhile_dropWhile, List.takeWhile_append_of_pos hds,
    List.dropWhile_append_of_pos hds]
  cases t with
  | nil => simp
  | cons c t => simp [ht c rfl]

theorem decimalLiteral_numeral (n : ℕ) : decimalLiteral (numeral n) = some (n : ℚ) := by
  have hspan : (numeral n).span Char.isDigit = (numeral n, []) := by
    have := span_isDigit (t := []) (fun c (hc : c ∈ numeral n) => isDigit_numeral hc) (by simp)
    rwa [List.append_nil] at this
  simp only [decimalLiteral, hspan, fraction, exponent, List.append_nil, digitsValue_numeral]
  simp [numeral_ne_nil]

theorem decimalLiteral_hundredths (n : ℕ) :
    decimalLiteral (hundredths n) = some ((n : ℚ) / 100) := by
  have hfrac : ∀ c ∈ [Nat.digitChar (n / 10 % 10), Nat.digitChar (n % 10)], c.isDigit = true := by
    simp [Nat.mod_lt]
  have hwhole : (hundredths n).span Char.isDigit =
      (numeral (n / 100), ['.', Nat.digitChar (n / 10 % 10), Nat.digitChar (n % 10)]) :=
    span_isDigit (fun c => isDigit_numeral) (by simp)
  have hspan : [Nat.digitChar (n / 10 % 10), Nat.digitChar (n % 10)].span Char.isDigit =
      ([Nat.digitChar (n / 10 % 10), Nat.digitChar (n % 10)], []) := by
    have := span_isDigit (t := []) hfrac (by simp)
    rwa [List.append_nil] at this
  have hvalue : digitsValue (numeral (n / 100) ++
      [Nat.digitChar (n / 10 % 10), Nat.digitChar (n % 10)]) = n := by
    rw [digitsValue, numeral, Nat.ofDigitChars_append, Nat.ofDigitChars_ten_toDigits,
      Nat.ofDigitChars_cons_digitChar_of_lt_ten (Nat.mod_lt _ (by omega)),
      Nat.ofDigitChars_cons_digitChar_of_lt_ten (Nat.mod_lt _ (by omega)), Nat.ofDigitChars_nil]
    omega
  simp only [decimalLiteral, hwhole, fraction, hspan, exponent, hvalue]
  simp [numeral_ne_nil]
  norm_num

theorem not_name_of_numeric {t : Text} (h : ∀ c ∈ t, Numeric c) :
    t ≠ "inf".toList ∧ t ≠ "infinity".toList ∧ t ≠ "nan".toList := by
  have hi : ¬ Numeric 'i' := by rintro ⟨-, hi⟩; revert hi; decide
  have hn : ¬ Numeric 'n' := by rintro ⟨-, hn⟩; revert hn; decide
  refine ⟨?_, ?_, ?_⟩
  · rintro rfl; exact hi (h 'i' (by simp))
  · rintro rfl; exact hi (h 'i' (by simp))
  · rintro rfl; exact hn (h 'n' (by simp))

theorem toFloat_numeric {t rest : Text} {neg : Bool} {q : ℚ} (h : ∀ c ∈ t, Numeric c)
    (hsign : sign t = (neg, rest)) (hrest : ∀ c ∈ rest, Numeric c)
    (hq : decimalLiteral rest = some q) : toFloat t = .ok (toDouble (negate neg q)) := by
  obtain ⟨hinf, hinfinity, hnan⟩ := not_name_of_numeric hrest
  simp only [toFloat, strip_numeric h, map_asciiDigit_numeric h,
    dropUnderscores_eq_self (underscore_not_mem_numeric h), hsign, map_toLower_numeric hrest]
  rw [if_neg (not_or.2 ⟨hinf, hinfinity⟩), if_neg hnan, hq]

/-- **`float` reads a numeral back.** -/
theorem toFloat_numeral (n : ℕ) : toFloat (numeral n) = .ok (toDouble n) := by
  have hsign : sign (numeral n) = (false, numeral n) := by simpa using sign_numeral n []
  rw [toFloat_numeric numeric_numeral hsign numeric_numeral (decimalLiteral_numeral n)]
  rfl

theorem toFloat_hundredths (n : ℕ) : toFloat (hundredths n) = .ok (toDouble (n / 100)) := by
  have hsign : sign (hundredths n) = (false, hundredths n) := sign_numeral _ _
  rw [toFloat_numeric numeric_hundredths hsign numeric_hundredths (decimalLiteral_hundredths n)]
  rfl

theorem toFloat_intNumeral (n : ℤ) : toFloat (intNumeral n) = .ok (toDouble n) := by
  cases n with
  | ofNat n => exact toFloat_numeral n
  | negSucc n =>
    have hsign : sign (intNumeral (.negSucc n)) = (true, numeral (n + 1)) := rfl
    rw [toFloat_numeric numeric_intNumeral hsign numeric_numeral (decimalLiteral_numeral (n + 1)),
      Int.cast_negSucc]
    rfl

end Py
