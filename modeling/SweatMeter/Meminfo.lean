/-
  The memory figures of a Linux host (`parse_meminfo`), from any text of
  `/proc/meminfo`.

  A line sets the value of its own key or nothing (`meminfoItem`), so the values
  are a dictionary of the items.  The three figures are computed from these
  values, and whatever is missing, they agree with each other.
-/
import SweatMeter.Py.Blocks
import SweatMeter.Py.Dict
import SweatMeter.Py.Numeral
import SweatMeter.Py.Text
import SweatMeter.Types

namespace SweatMeter

open Py

/-! ## `/proc/meminfo` -/

/-- The key of a line and its amount in bytes, if it is a quantity in KiB. -/
def meminfoItem (line : Text) : Option (String × ℤ) :=
  match partition ':' line with
  | (_, none) => none
  | (key, some remainder) => match split remainder with
    | [] => none
    | field :: fields => match toInt field with
      | .error _ => none
      | .ok amount =>
        if amount < 0 ∨ fields.head?.any (fun unit => lower unit ≠ "kb".toList) then none
        else some (String.ofList (strip key), amount * 1024)

/-- The body of the loop of `_meminfo_values`. -/
def meminfoLine (values : Dict ℤ) (line : Text) : Dict ℤ :=
  match meminfoItem line with
  | some (key, bytes) => values.set key bytes
  | none => values

/-- `_meminfo_values`. -/
def meminfoValues (text : Text) : Dict ℤ := (splitlines text).foldl meminfoLine ∅

/-- The estimate of the available memory, where the kernel does not report it. -/
def availableFallback (values : Dict ℤ) : Option ℤ :=
  match values["MemFree"]? with
  | none => none
  | some free =>
    let fallback := free + values["Buffers"]?.getD 0 + values["Cached"]?.getD 0 +
      values["SReclaimable"]?.getD 0 - values["Shmem"]?.getD 0
    let fallback := max 0 fallback
    match values["MemTotal"]? with
    | none => some fallback
    | some total => some (min fallback total)

/-- The figures for these values. -/
def memoryOf (values : Dict ℤ) : MemoryReading (Option ℤ) :=
  let total := values["MemTotal"]?
  let available := values["MemAvailable"]?.or (availableFallback values)
  let used := match total, available with
    | some total, some available => if available ≤ total then some (total - available) else none
    | _, _ => none
  ⟨total, available, used⟩

/-- `parse_meminfo`. -/
def parseMeminfo (text : Text) : MemoryReading (Option ℤ) := memoryOf (meminfoValues text)

/-! ## Items -/

/-- The key of a line. -/
def lineKey (line : Text) : String := String.ofList (strip (partition ':' line).1)

/-- A line that sets nothing. -/
inductive Rejected (line : Text) : Prop
  | noColon : (partition ':' line).2 = none → Rejected line
  | empty {rest : Text} : (partition ':' line).2 = some rest → split rest = [] → Rejected line
  | malformed {rest field : Text} {fields : List Text} {e : Exn} :
      (partition ':' line).2 = some rest → split rest = field :: fields →
      toInt field = .error e → Rejected line
  | negative {rest field : Text} {fields : List Text} {amount : ℤ} :
      (partition ':' line).2 = some rest → split rest = field :: fields →
      toInt field = .ok amount → amount < 0 → Rejected line
  | unit {rest field unit : Text} {fields : List Text} :
      (partition ':' line).2 = some rest → split rest = field :: unit :: fields →
      lower unit ≠ "kb".toList → Rejected line

theorem meminfoItem_of_rejected {line : Text} (h : Rejected line) : meminfoItem line = none := by
  have hpair {rest : Option Text} (hrest : (partition ':' line).2 = rest) :
      partition ':' line = ((partition ':' line).1, rest) := by rw [← hrest]
  cases h with
  | noColon hrest => rw [meminfoItem, hpair hrest]
  | empty hrest hsplit =>
    rw [meminfoItem, hpair hrest]
    simp only [hsplit]
  | malformed hrest hsplit hfield =>
    rw [meminfoItem, hpair hrest]
    simp only [hsplit, hfield]
  | negative hrest hsplit hfield hneg =>
    rw [meminfoItem, hpair hrest]
    simp only [hsplit, hfield, if_pos (Or.inl hneg)]
  | @unit _ field _ _ hrest hsplit hunit =>
    rw [meminfoItem, hpair hrest]
    simp only [hsplit]
    cases toInt field with
    | error e => rfl
    | ok amount => exact if_pos (.inr (by simpa using hunit))

/-- An item is a whole number of KiB under the key of its line. -/
theorem meminfoItem_eq_some {line : Text} {p : String × ℤ} (h : meminfoItem line = some p) :
    p.1 = lineKey line ∧ 0 ≤ p.2 ∧ 1024 ∣ p.2 := by
  unfold meminfoItem at h
  split at h
  · cases h
  · rename_i key remainder hline
    split at h
    · cases h
    · split at h
      · cases h
      · rename_i amount _
        split_ifs at h with hbad
        cases h
        rw [not_or] at hbad
        exact ⟨by rw [lineKey, hline], by omega, Int.dvd_mul_left _ _⟩

theorem meminfoValues_eq (text : Text) :
    meminfoValues text = Dict.update ∅ ((splitlines text).filterMap meminfoItem) := by
  refine Dict.foldl_eq_update _ (fun d line hline => ?_) (fun d line p hline => ?_) _
  · rw [meminfoLine, hline]
  · rw [meminfoLine, hline]

/-- A value is a whole number of KiB. -/
def WholeKib (n : ℤ) : Prop := 0 ≤ n ∧ 1024 ∣ n

theorem wholeKib_values {text : Text} {key : String} {n : ℤ}
    (h : (meminfoValues text)[key]? = some n) : WholeKib n := by
  rw [meminfoValues_eq] at h
  rcases Dict.mem_of_getElem?_update _ h with h | h
  · simp at h
  · obtain ⟨line, -, hline⟩ := List.mem_filterMap.1 h
    exact (meminfoItem_eq_some hline).2

/-! ## The figures -/

/-- Each figure is a whole number of KiB, and they add up. -/
structure Consistent (m : MemoryReading (Option ℤ)) : Prop where
  total : ∀ n ∈ m.totalBytes, WholeKib n
  available : ∀ n ∈ m.availableBytes, WholeKib n
  used : ∀ n ∈ m.usedBytes, WholeKib n
  supported : (∃ used, m.usedBytes = some used) ↔
    ∃ total available, m.totalBytes = some total ∧ m.availableBytes = some available ∧
      available ≤ total
  sum : ∀ used ∈ m.usedBytes, ∀ total ∈ m.totalBytes, ∀ available ∈ m.availableBytes,
    used + available = total

theorem usedBytes_eq_some {values : Dict ℤ} {used : ℤ} :
    (memoryOf values).usedBytes = some used ↔ ∃ total available,
      (memoryOf values).totalBytes = some total ∧
        (memoryOf values).availableBytes = some available ∧ available ≤ total ∧
          used = total - available := by
  simp only [memoryOf]
  cases values["MemTotal"]? with
  | none => simp
  | some total =>
    cases values["MemAvailable"]?.or (availableFallback values) with
    | none => simp
    | some available =>
      by_cases hle : available ≤ total
      · simp [hle, eq_comm]
      · simp [hle]

theorem WholeKib.fallback {values : Dict ℤ}
    (h : ∀ (key : String) n, values[key]? = some n → WholeKib n) {n : ℤ}
    (hn : availableFallback values = some n) : WholeKib n := by
  have hterm (key : String) : 1024 ∣ values[key]?.getD 0 := by
    cases hkey : values[key]? with
    | none => exact Int.dvd_zero _
    | some n => exact (h key n hkey).2
  unfold availableFallback at hn
  cases hfree : values["MemFree"]? with
  | none =>
    rw [hfree] at hn
    cases hn
  | some free =>
    have hsum : 1024 ∣ free + values["Buffers"]?.getD 0 + values["Cached"]?.getD 0 +
        values["SReclaimable"]?.getD 0 - values["Shmem"]?.getD 0 :=
      Int.dvd_sub (Int.dvd_add (Int.dvd_add (Int.dvd_add (h _ _ hfree).2 (hterm _)) (hterm _))
        (hterm _)) (hterm _)
    rw [hfree] at hn
    simp only at hn
    generalize free + values["Buffers"]?.getD 0 + values["Cached"]?.getD 0 +
        values["SReclaimable"]?.getD 0 - values["Shmem"]?.getD 0 = sum at hn hsum
    cases htotal : values["MemTotal"]? with
    | none =>
      rw [htotal] at hn
      cases hn
      exact ⟨by omega, by omega⟩
    | some total =>
      obtain ⟨hpos, hdvd⟩ := h _ _ htotal
      rw [htotal] at hn
      cases hn
      exact ⟨by omega, by omega⟩

theorem fallback_le {values : Dict ℤ} {n total : ℤ} (hn : availableFallback values = some n)
    (htotal : values["MemTotal"]? = some total) : n ≤ total := by
  unfold availableFallback at hn
  cases hfree : values["MemFree"]? with
  | none =>
    rw [hfree] at hn
    cases hn
  | some free =>
    simp only [hfree, htotal, Option.some.injEq] at hn
    omega

theorem consistent_memoryOf {values : Dict ℤ}
    (h : ∀ (key : String) n, values[key]? = some n → WholeKib n) :
    Consistent (memoryOf values) := by
  have havailable : ∀ n ∈ (memoryOf values).availableBytes, WholeKib n := by
    intro n hn
    rcases Option.or_eq_some_iff.1 hn with hn | ⟨-, hn⟩
    · exact h _ _ hn
    · exact WholeKib.fallback h hn
  have htotal : ∀ n ∈ (memoryOf values).totalBytes, WholeKib n := fun n hn => h _ _ hn
  refine ⟨htotal, havailable, fun n hn => ?_, ?_, fun used hused total ht available ha => ?_⟩
  · obtain ⟨total, available, ht, ha, hle, rfl⟩ := usedBytes_eq_some.1 hn
    exact ⟨by omega, Int.dvd_sub (htotal total ht).2 (havailable available ha).2⟩
  · constructor
    · rintro ⟨used, hused⟩
      obtain ⟨total, available, ht, ha, hle, -⟩ := usedBytes_eq_some.1 hused
      exact ⟨total, available, ht, ha, hle⟩
    · rintro ⟨total, available, ht, ha, hle⟩
      exact ⟨total - available, usedBytes_eq_some.2 ⟨total, available, ht, ha, hle, rfl⟩⟩
  · obtain ⟨total', available', ht', ha', -, rfl⟩ := usedBytes_eq_some.1 hused
    cases ht.symm.trans ht'
    cases ha.symm.trans ha'
    omega

/-! ## The lines -/

/-- A line affects its own key only, and a rejected one affects none. -/
theorem meminfoValues_line {text text' line : Text} {xs ys : List Text}
    (htext : splitlines text = xs ++ line :: ys) (htext' : splitlines text' = xs ++ ys) :
    (∀ key, key ≠ lineKey line → (meminfoValues text)[key]? = (meminfoValues text')[key]?) ∧
      (Rejected line → meminfoValues text = meminfoValues text') := by
  rw [meminfoValues_eq, meminfoValues_eq, htext, htext', List.filterMap_append,
    List.filterMap_append, Dict.update_append, Dict.update_append]
  refine ⟨fun key hkey => ?_, fun hrejected => ?_⟩
  · cases hline : meminfoItem line with
    | none => rw [List.filterMap_cons_none hline]
    | some p =>
      rw [List.filterMap_cons_some hline]
      refine Dict.getElem?_update_congr (d := Dict.set _ p.1 p.2) (Dict.getElem?_set_of_ne _ _ ?_) _
      rw [(meminfoItem_eq_some hline).1]
      exact hkey.symm
  · rw [List.filterMap_cons_none (meminfoItem_of_rejected hrejected)]

theorem not_rejected {line : Text} {p : String × ℤ} (h : meminfoItem line = some p) :
    ¬ Rejected line := by
  intro hrejected
  rw [meminfoItem_of_rejected hrejected] at h
  cases h

/-- Lines with distinct keys may come in any order. -/
theorem meminfoValues_perm {text text' : Text} (hperm : (splitlines text).Perm (splitlines text'))
    (hkeys : (splitlines text).Pairwise fun a b =>
      ¬ Rejected a → ¬ Rejected b → lineKey a ≠ lineKey b) :
    meminfoValues text = meminfoValues text' := by
  rw [meminfoValues_eq, meminfoValues_eq]
  refine Dict.update_perm _ (hperm.filterMap _) ?_
  refine List.pairwise_filterMap.2 (hkeys.imp fun {a b} hne p hp q hq => ?_)
  rw [(meminfoItem_eq_some hp).1, (meminfoItem_eq_some hq).1]
  exact hne (not_rejected hp) (not_rejected hq)

/-! ## A line that is shown -/

/-- A text with this amount under the key: no line after that of the amount has the key. -/
def ShowsKib (key : String) (kib : ℕ) (text : Text) : Prop :=
  ∃ before blanks after, (∀ c ∈ blanks, isspace c = true) ∧
    splitlines text =
      before ++ (key.toList ++ ':' :: (blanks ++ (numeral kib ++ " kB".toList))) :: after ∧
    ∀ line ∈ after, lineKey line ≠ key

/-- The words after the colon. -/
theorem split_kib {blanks : Text} (h : ∀ c ∈ blanks, isspace c = true) (kib : ℕ) :
    split (blanks ++ (numeral kib ++ " kB".toList)) = [numeral kib, "kB".toList] := by
  have hunit : " kB".toList = ' ' :: "kB".toList := rfl
  rw [hunit]
  exact split_pair h (fun c hc => (numeric_numeral c hc).isspace) (by simp [isspace])
    (numeral_ne_nil _) (by decide)

theorem getElem?_of_showsKib {key : String} {kib : ℕ} {text : Text} (h : ShowsKib key kib text)
    (hcolon : ':' ∉ key.toList) (htrim : strip key.toList = key.toList)
    (hkib : kib < 10 ^ maxStrDigits) :
    (meminfoValues text)[key]? = some (kib * 1024 : ℕ) := by
  obtain ⟨before, blanks, after, hblanks, hlines, hafter⟩ := h
  have hline : meminfoItem (key.toList ++ ':' :: (blanks ++ (numeral kib ++ " kB".toList))) =
      some (key, (kib : ℤ) * 1024) := by
    rw [meminfoItem, partition_append hcolon]
    simp only [split_kib hblanks, toInt_numeral hkib, htrim, String.ofList_toList]
    rw [if_neg]
    rintro (h | h)
    · omega
    · exact absurd h (by decide)
  have hne : ∀ p ∈ after.filterMap meminfoItem, p.1 ≠ key := by
    intro p hp
    obtain ⟨line, hmem, hitem⟩ := List.mem_filterMap.1 hp
    rw [(meminfoItem_eq_some hitem).1]
    exact hafter line hmem
  rw [meminfoValues_eq, hlines, List.filterMap_append, List.filterMap_cons_some hline,
    Dict.update_append]
  refine (Dict.getElem?_update_of_ne (d := Dict.set _ key ((kib : ℤ) * 1024)) hne).trans ?_
  rw [Dict.getElem?_set, if_pos rfl]
  norm_cast

/-- **The memory figures agree with each other.** -/
theorem memory_figures_consistent :
    (∀ text, Consistent (parseMeminfo text)) ∧
    (∀ text available total, (meminfoValues text)["MemAvailable"]? = none →
      (parseMeminfo text).availableBytes = some available →
      (parseMeminfo text).totalBytes = some total →
      0 ≤ available ∧ available ≤ total ∧
        (parseMeminfo text).usedBytes = some (total - available)) ∧
    (∀ text text' xs line ys, splitlines text = xs ++ line :: ys →
      splitlines text' = xs ++ ys →
      (∀ key, key ≠ lineKey line →
        (meminfoValues text)[key]? = (meminfoValues text')[key]?) ∧
      (Rejected line → parseMeminfo text = parseMeminfo text')) ∧
    ∀ text text', (splitlines text).Perm (splitlines text') →
      ((splitlines text).Pairwise fun a b =>
        ¬ Rejected a → ¬ Rejected b → lineKey a ≠ lineKey b) →
      parseMeminfo text = parseMeminfo text' := by
  refine ⟨fun text => consistent_memoryOf fun _ _ => wholeKib_values,
    fun text available total hnone ha ht => ?_,
    fun text text' xs line ys htext htext' => ?_, fun text text' hperm hkeys => ?_⟩
  · have hfallback : availableFallback (meminfoValues text) = some available := by
      rcases Option.or_eq_some_iff.1 ha with h | ⟨-, h⟩
      · rw [hnone] at h
        cases h
      · exact h
    have hle : available ≤ total := fallback_le hfallback ht
    have hpos : WholeKib available := WholeKib.fallback (fun _ _ => wholeKib_values) hfallback
    exact ⟨hpos.1, hle, usedBytes_eq_some.2 ⟨total, available, ht, ha, hle, rfl⟩⟩
  · obtain ⟨hother, hrejected⟩ := meminfoValues_line htext htext'
    exact ⟨hother, fun h => congrArg memoryOf (hrejected h)⟩
  · exact congrArg memoryOf (meminfoValues_perm hperm hkeys)

theorem memory_figures_consistent_swapped :
    parseMeminfo "MemTotal: 4 kB\nMemFree: 1 kB\n".toList =
      parseMeminfo "MemFree: 1 kB\nMemTotal: 4 kB\n".toList := by
  have hlines : splitlines "MemTotal: 4 kB\nMemFree: 1 kB\n".toList =
      ["MemTotal: 4 kB".toList, "MemFree: 1 kB".toList] := by
    decide +kernel
  have hlines' : splitlines "MemFree: 1 kB\nMemTotal: 4 kB\n".toList =
      ["MemFree: 1 kB".toList, "MemTotal: 4 kB".toList] := by
    decide +kernel
  refine memory_figures_consistent.2.2.2 _ _ ?_ ?_
  · rw [hlines, hlines']
    exact .swap _ _ []
  · rw [hlines]
    have hkeys : lineKey "MemTotal: 4 kB".toList ≠ lineKey "MemFree: 1 kB".toList := by
      decide +kernel
    exact List.pairwise_pair.2 fun _ _ => hkeys

end SweatMeter
