/-
  Backtracking patterns, as `re` runs them.

  A pattern maps a position in a text to the positions at which a match that
  starts there may end, in the order in which they are tried; the match is the
  first of them (`First`).
-/
import SweatMeter.Py.Text

namespace Py

namespace Regex

/-- A position: the text before it, backwards, and the text after it. -/
structure Cursor where
  before : Text
  after : Text

abbrev Pattern := Cursor → List Cursor

/-! ## Patterns -/

/-- One character of a class. -/
def one (p : Char → Bool) : Pattern
  | ⟨before, c :: after⟩ => if p c then [⟨c :: before, after⟩] else []
  | ⟨_, []⟩ => []

/-- One pattern after another. -/
def seq (m n : Pattern) : Pattern := fun s => (m s).flatMap n

def literal : Text → Pattern
  | [] => fun s => [s]
  | c :: t => seq (one (· = c)) (literal t)

/-- `m*` with at most so many turns, as many as there are. -/
def upTo (m : Pattern) : ℕ → Pattern
  | 0, s => [s]
  | k + 1, s => (m s).flatMap (upTo m k) ++ [s]

/-- `m*`, for a pattern that takes at least one character. -/
def many (m : Pattern) : Pattern := fun s => upTo m s.after.length s

/-- `m+`. -/
def many1 (m : Pattern) : Pattern := seq m (many m)

/-- The next character is of the class. -/
def ahead (p : Char → Bool) (t : Text) : Bool := t.head?.any p

theorem ahead_append {p : Char → Bool} {b : Bool} {t : Text} (hne : t ≠ []) (h : ∀ c ∈ t, p c = b)
    (rest : Text) : ahead p (t ++ rest) = b := by
  obtain ⟨c, t, rfl⟩ := List.exists_cons_of_ne_nil hne
  exact h c List.mem_cons_self

/-- `\b`, with the word characters of the text. -/
def boundary (word : Char → Bool) : Pattern := fun s =>
  if ahead word s.before = ahead word s.after then [] else [s]

/-- The text between two positions. -/
def Cursor.to (s e : Cursor) : Text := s.after.take (s.after.length - e.after.length)

/-- What the group `n` takes, between `m` and `k`. -/
def group (m n k : Pattern) (s : Cursor) : List Text :=
  (m s).flatMap fun s => (n s).flatMap fun e => (k e).map fun _ => s.to e

/-- `search` from this position on: the first result of the first position that has one. -/
def search {T : Type} (f : Cursor → List T) (before : Text) : Text → Option T
  | [] => (f ⟨before, []⟩).head?
  | c :: after => (f ⟨before, c :: after⟩).head?.or (search f (c :: before) after)

/-! ## First matches -/

/-- The match of `m` at `s` ends at `e`. -/
def First (m : Pattern) (s e : Cursor) : Prop := (m s).head? = some e

theorem head?_flatMap {S T : Type} {l : List S} {f : S → List T} {a : S} {b : T}
    (ha : l.head? = some a) (hb : (f a).head? = some b) : (l.flatMap f).head? = some b := by
  obtain ⟨l, rfl⟩ := List.head?_eq_some_iff.1 ha
  obtain ⟨bs, hbs⟩ := List.head?_eq_some_iff.1 hb
  rw [List.flatMap_cons, hbs]
  rfl

variable {m n k : Pattern} {s e e' : Cursor}

theorem First.seq (hm : First m s e) (hn : First n e e') : First (seq m n) s e' :=
  head?_flatMap hm hn

theorem seq_eq_nil (h : m s = []) : seq m n s = [] := by
  rw [Regex.seq, h]
  rfl

theorem first_one {p : Char → Bool} {c : Char} (h : p c = true) (before after : Text) :
    First (one p) ⟨before, c :: after⟩ ⟨c :: before, after⟩ := by
  rw [First, one, if_pos h]
  rfl

theorem one_eq_nil {p : Char → Bool} (h : ahead p s.after = false) : one p s = [] := by
  obtain ⟨before, after⟩ := s
  cases after with
  | nil => rfl
  | cons c after =>
    have hc : p c = false := h
    rw [one, if_neg (by simp [hc])]

theorem first_literal (t before after : Text) :
    First (literal t) ⟨before, t ++ after⟩ ⟨t.reverse ++ before, after⟩ := by
  induction t generalizing before with
  | nil => rfl
  | cons c t ih =>
    have hrest := ih (c :: before)
    rw [List.reverse_cons, List.append_assoc]
    exact (first_one (by simp) _ _).seq hrest

/-- A literal that does not come next does not match. -/
theorem literal_eq_nil {t : Text} (h : ¬ t <+: s.after) : literal t s = [] := by
  induction t generalizing s with
  | nil => exact absurd (List.nil_prefix) h
  | cons c t ih =>
    obtain ⟨before, after⟩ := s
    cases after with
    | nil => rfl
    | cons d after =>
      by_cases hd : d = c
      · subst hd
        have hrest : ¬ t <+: after := fun hp => h (List.cons_prefix_cons.2 ⟨rfl, hp⟩)
        have hone :
            one (fun x => decide (x = d)) ⟨before, d :: after⟩ = [⟨d :: before, after⟩] := by
          rw [one, if_pos (by simp)]
        rw [literal, Regex.seq, hone, List.flatMap_cons, List.flatMap_nil, List.append_nil]
        exact ih hrest
      · exact seq_eq_nil (one_eq_nil (by simpa [ahead] using hd))

theorem first_boundary {word : Char → Bool} (h : ahead word s.before ≠ ahead word s.after) :
    First (boundary word) s s := by
  rw [First, boundary, if_neg h]
  rfl

theorem boundary_subset (word : Char → Bool) (s : Cursor) :
    boundary word s = [] ∨ boundary word s = [s] := by
  unfold boundary
  split_ifs
  · exact Or.inl rfl
  · exact Or.inr rfl

/-! ## Repetition -/

/-- Every match takes at least one character. -/
def Consumes (m : Pattern) : Prop := ∀ s, ∀ e ∈ m s, e.after.length < s.after.length

theorem consumes_one (p : Char → Bool) : Consumes (one p) := by
  rintro ⟨before, after⟩ e he
  cases after with
  | nil => cases he
  | cons c after =>
    rw [one] at he
    split_ifs at he
    · rw [List.mem_singleton.1 he]
      exact Nat.lt_succ_self _
    · cases he

/-- More turns than there are characters make no difference. -/
theorem upTo_eq (hm : Consumes m) {i j : ℕ} (hi : s.after.length ≤ i) (hj : s.after.length ≤ j) :
    upTo m i s = upTo m j s := by
  induction i generalizing s j with
  | zero =>
    cases j with
    | zero => rfl
    | succ j =>
      have hnil : m s = [] := by
        refine List.eq_nil_iff_forall_not_mem.2 ?_
        intro e he
        have := hm s e he
        omega
      rw [upTo, upTo, hnil]
      rfl
  | succ i ih =>
    cases j with
    | zero =>
      have hnil : m s = [] := by
        refine List.eq_nil_iff_forall_not_mem.2 ?_
        intro e he
        have := hm s e he
        omega
      rw [upTo, upTo, hnil]
      rfl
    | succ j =>
      rw [upTo, upTo]
      refine congrArg (· ++ [s]) ?_
      rw [List.flatMap_def, List.flatMap_def]
      refine congrArg List.flatten (List.map_congr_left fun e he => ?_)
      have := hm s e he
      exact ih (by omega) (by omega)

theorem First.many_cons (hm : Consumes m) (h : First m s e) (hrest : First (many m) e e') :
    First (many m) s e' := by
  have hmem : e ∈ m s := List.mem_of_mem_head? h
  have hlt := hm s e hmem
  obtain ⟨k, hk⟩ := Nat.exists_eq_add_of_lt hlt
  have hlen : s.after.length = (e.after.length + k) + 1 := by omega
  have hfirst : ((m s).flatMap (upTo m (e.after.length + k))).head? = some e' := by
    refine head?_flatMap h ?_
    rw [upTo_eq hm (Nat.le_add_right _ _) (le_refl _)]
    exact hrest
  obtain ⟨es, hes⟩ := List.head?_eq_some_iff.1 hfirst
  rw [First, many, hlen, upTo, hes]
  rfl

theorem first_many_nil (h : m s = []) : First (many m) s s := by
  rw [First, many]
  cases s.after.length with
  | zero => rfl
  | succ k =>
    rw [upTo, h]
    rfl

/-- A class is taken as long as it lasts. -/
theorem first_many_one {p : Char → Bool} {t after : Text} (ht : ∀ c ∈ t, p c = true)
    (hafter : ahead p after = false) (before : Text) :
    First (many (one p)) ⟨before, t ++ after⟩ ⟨t.reverse ++ before, after⟩ := by
  induction t generalizing before with
  | nil => exact first_many_nil (one_eq_nil hafter)
  | cons c t ih =>
    have hrest := ih (fun d hd => ht d (.tail _ hd)) (c :: before)
    rw [List.reverse_cons, List.append_assoc]
    exact (first_one (ht c List.mem_cons_self) _ _).many_cons (consumes_one p) hrest

theorem first_many1_one {p : Char → Bool} {t after : Text} (hne : t ≠ []) (ht : ∀ c ∈ t, p c = true)
    (hafter : ahead p after = false) (before : Text) :
    First (many1 (one p)) ⟨before, t ++ after⟩ ⟨t.reverse ++ before, after⟩ := by
  obtain ⟨c, t, rfl⟩ := List.exists_cons_of_ne_nil hne
  have hrest := first_many_one (fun d hd => ht d (.tail _ hd)) hafter (c :: before)
  rw [List.reverse_cons, List.append_assoc]
  exact (first_one (ht c List.mem_cons_self) _ _).seq hrest

theorem consumes_seq (hm : Consumes m) (hn : ∀ s, ∀ e ∈ n s, e.after.length ≤ s.after.length) :
    Consumes (seq m n) := by
  intro s e he
  obtain ⟨s', hs', he⟩ := List.mem_flatMap.1 he
  exact (hn s' e he).trans_lt (hm s s' hs')

theorem length_le_of_mem_upTo (hm : Consumes m) {j : ℕ} (he : e ∈ upTo m j s) :
    e.after.length ≤ s.after.length := by
  induction j generalizing s with
  | zero => rw [List.mem_singleton.1 he]
  | succ j ih =>
    rcases List.mem_append.1 he with he | he
    · obtain ⟨s', hs', he⟩ := List.mem_flatMap.1 he
      exact (ih he).trans (hm s s' hs').le
    · rw [List.mem_singleton.1 he]

theorem consumes_many1 (hm : Consumes m) : Consumes (many1 m) :=
  consumes_seq hm fun _ _ he => length_le_of_mem_upTo hm he

/-! ## Groups and searches -/

theorem head?_group (hm : First m s e) (hn : First n e e') (hk : ∃ e'', First k e' e'') :
    (group m n k s).head? = some (e.to e') := by
  obtain ⟨e'', hk⟩ := hk
  refine head?_flatMap hm (head?_flatMap hn ?_)
  rw [List.head?_map, hk]
  rfl

theorem group_eq_nil (h : m s = []) : group m n k s = [] := by
  rw [group, h]
  rfl

/-- A search passes over positions without a result. -/
theorem search_append {T : Type} {f : Cursor → List T} {before skipped after : Text}
    (h : ∀ u v, skipped = u ++ v → v ≠ [] → f ⟨u.reverse ++ before, v ++ after⟩ = []) :
    search f before (skipped ++ after) = search f (skipped.reverse ++ before) after := by
  induction skipped generalizing before with
  | nil => rfl
  | cons c skipped ih =>
    have hc := h [] (c :: skipped) rfl (List.cons_ne_nil _ _)
    rw [List.reverse_nil, List.nil_append] at hc
    have hrest := @ih (c :: before) fun u v huv hv => by
      have := h (c :: u) v (by rw [huv, List.cons_append]) hv
      rwa [List.reverse_cons, List.append_assoc] at this
    rw [List.cons_append, search, ← List.cons_append, hc, List.reverse_cons, List.append_assoc]
    exact hrest

theorem search_of_head? {T : Type} {f : Cursor → List T} {before after : Text} {x : T}
    (h : (f ⟨before, after⟩).head? = some x) : search f before after = some x := by
  cases after with
  | nil => exact h
  | cons c after => rw [search, h, Option.some_or]

/-! ## Splitting -/

/-- `re.split` from this position on, for a pattern that takes at least one character:
    the next `skip` characters belong to a match, and `piece` is read already. -/
def splitFrom (m : Pattern) (skip : ℕ) (before piece : Text) : Text → List Text
  | [] => [piece]
  | c :: after => match skip with
    | skip + 1 => splitFrom m skip (c :: before) piece after
    | 0 => match (m ⟨before, c :: after⟩).head? with
      | none => splitFrom m 0 (c :: before) (piece ++ [c]) after
      | some e => piece :: splitFrom m (after.length - e.after.length) (c :: before) [] after

/-- `re.split(m, t)`. -/
def split (m : Pattern) (t : Text) : List Text := splitFrom m 0 [] [] t

theorem splitFrom_skip (m : Pattern) (before piece t rest : Text) :
    splitFrom m t.length before piece (t ++ rest) =
      splitFrom m 0 (t.reverse ++ before) piece rest := by
  induction t generalizing before with
  | nil => rfl
  | cons c t ih =>
    rw [List.length_cons, List.cons_append, splitFrom, ih, List.reverse_cons, List.append_assoc]
    rfl

theorem splitFrom_cons {c : Char} {before after : Text} (h : m ⟨before, c :: after⟩ = [])
    (piece : Text) : splitFrom m 0 before piece (c :: after) =
      splitFrom m 0 (c :: before) (piece ++ [c]) after := by
  rw [splitFrom, h]
  rfl

/-- A match ends the piece. -/
theorem splitFrom_first {c : Char} {before t rest : Text}
    (h : First m ⟨before, c :: (t ++ rest)⟩ ⟨t.reverse ++ c :: before, rest⟩) (piece : Text) :
    splitFrom m 0 before piece (c :: (t ++ rest)) =
      piece :: splitFrom m 0 (t.reverse ++ c :: before) [] rest := by
  rw [First] at h
  rw [splitFrom, h]
  have hlength : (t ++ rest).length - rest.length = t.length := by
    rw [List.length_append]
    omega
  simp only [hlength, splitFrom_skip]

theorem many_one_cons {p : Char → Bool} {c : Char} (h : p c = true) (before after : Text) :
    many (one p) ⟨before, c :: after⟩ =
      many (one p) ⟨c :: before, after⟩ ++ [⟨before, c :: after⟩] := by
  rw [many, many, List.length_cons, upTo, one, if_pos h]
  simp

theorem many_one_stop {p : Char → Bool} {c : Char} (h : p c = false) (before after : Text) :
    many (one p) ⟨before, c :: after⟩ = [⟨before, c :: after⟩] := by
  rw [many, List.length_cons, upTo, one, if_neg (by simp [h])]
  rfl

end Regex

end Py
