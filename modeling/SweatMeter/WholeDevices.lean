/-
  What `parse_diskstats` counts.

  A whole-device name starts and ends as its kind does (`LetterName`,
  `NumberName`), and the name of a partition mixes the kinds, so it is never
  matched itself.  The loop returns the sums over the selected rows, and they
  depend on these rows only, in any order.
-/
import Mathlib.Tactic.IntervalCases
import SweatMeter.DiskReset
import SweatMeter.Py.Sort

namespace SweatMeter

open Py

/-! ## Names -/

/-- No letter of ASCII is a decimal digit, nor what stands between its two alphabets. -/
theorem isDecimal_of_between {c : Char} (hlo : 'A'.val ≤ c.val) (hhi : c.val ≤ 'z'.val) :
    isDecimal c = false := by
  have hlo' : 65 ≤ c.toNat := UInt32.le_iff_toNat_le.1 hlo
  have hhi' : c.toNat ≤ 122 := UInt32.le_iff_toNat_le.1 hhi
  rw [← Char.ofNat_toNat c]
  generalize c.toNat = n at hlo' hhi'
  interval_cases n <;> rfl

theorem isDecimal_of_isLower {c : Char} (h : c.isLower = true) : isDecimal c = false := by
  have hlower : decide ('a'.val ≤ c.val) = true ∧ decide (c.val ≤ 'z'.val) = true :=
    Bool.and_eq_true_iff.1 h
  exact isDecimal_of_between (UInt32.le_trans (by decide) (of_decide_eq_true hlower.1))
    (of_decide_eq_true hlower.2)

theorem isDecimal_of_isUpper {c : Char} (h : c.isUpper = true) : isDecimal c = false := by
  have hupper : 'A'.val ≤ c.val ∧ c.val ≤ 'Z'.val := of_decide_eq_true h
  exact isDecimal_of_between hupper.1 (UInt32.le_trans hupper.2 (by decide))

theorem isDecimal_of_isAlpha {c : Char} (h : c.isAlpha = true) : isDecimal c = false := by
  rcases Bool.or_eq_true_iff.1 h with h | h
  · exact isDecimal_of_isUpper h
  · exact isDecimal_of_isLower h

/-- A name that starts as a disk with a letter does, and ends with a letter. -/
structure LetterName (name : Text) : Prop where
  head : ∃ c ∈ ['s', 'h', 'v', 'x', 'd'], name.head? = some c
  last : ∃ c, name.getLast? = some c ∧ c.isLower = true

/-- A name that starts as a disk with a number does, without a `p`, and ends with a
    digit. -/
structure NumberName (name : Text) : Prop where
  head : ∃ c ∈ ['n', 'm'], name.head? = some c
  last : ∃ c, name.getLast? = some c ∧ isDecimal c = true
  plain : 'p' ∉ name

theorem afterPrefix_eq_some {p : String} {name t : Text} (h : afterPrefix p name = some t) :
    name = p.toList ++ t := by
  unfold afterPrefix at h
  split_ifs at h with hp
  cases h
  obtain ⟨t, rfl⟩ := List.isPrefixOf_iff_prefix.1 hp
  rw [List.drop_left]

theorem of_prefixed {p : String} {isClass : Char → Bool} {name : Text}
    (h : prefixed p isClass name = true) :
    ∃ t, name = p.toList ++ t ∧ t ≠ [] ∧ ∀ c ∈ t, isClass c = true := by
  obtain ⟨t, ht, hclass⟩ := Option.any_eq_true _ _ |>.1 h
  rw [Bool.and_eq_true, decide_eq_true_eq, List.all_eq_true] at hclass
  exact ⟨t, afterPrefix_eq_some ht, hclass⟩

theorem letterName_of_prefixed {p : String} {c : Char} (hp : p.toList.head? = some c)
    (hc : c ∈ ['s', 'h', 'v', 'x', 'd']) {name : Text}
    (h : prefixed p Char.isLower name = true) : LetterName name := by
  obtain ⟨t, rfl, hne, ht⟩ := of_prefixed h
  refine ⟨⟨c, hc, ?_⟩, t.getLast hne, ?_, ht _ (List.getLast_mem hne)⟩
  · rw [List.head?_append, hp]
    rfl
  · rw [List.getLast?_append, List.getLast?_eq_some_getLast hne]
    rfl

theorem numberName_append {p t : Text} {c : Char} (hp : p.head? = some c) (hc : c ∈ ['n', 'm'])
    (hplain : 'p' ∉ p) (hne : t ≠ []) (ht : ∀ c ∈ t, isDecimal c = true) :
    NumberName (p ++ t) := by
  refine ⟨⟨c, hc, ?_⟩, ⟨t.getLast hne, ?_, ht _ (List.getLast_mem hne)⟩, fun h => ?_⟩
  · rw [List.head?_append, hp]
    rfl
  · rw [List.getLast?_append, List.getLast?_eq_some_getLast hne]
    rfl
  · rcases List.mem_append.1 h with h | h
    · exact hplain h
    · have := ht _ h
      cases this

theorem wholeDevice_cases {name : Text} (h : wholeDevice name = true) :
    LetterName name ∨ NumberName name := by
  simp only [wholeDevice, Bool.or_eq_true] at h
  rcases h with (((((h | h) | h) | h) | h) | h) | h
  · exact .inl (letterName_of_prefixed (c := 's') rfl (by simp) h)
  · exact .inl (letterName_of_prefixed (c := 'h') rfl (by simp) h)
  · exact .inl (letterName_of_prefixed (c := 'v') rfl (by simp) h)
  · exact .inl (letterName_of_prefixed (c := 'x') rfl (by simp) h)
  · obtain ⟨t, ht, h⟩ := Option.any_eq_true _ _ |>.1 h
    simp only [List.span_eq_takeWhile_dropWhile, Bool.and_eq_true, decide_eq_true_eq] at h
    obtain ⟨digits, hrest, hne, hdigits⟩ := of_prefixed h.2
    have hsplit : t = t.takeWhile isDecimal ++ ('n' :: digits) := by
      conv_lhs => rw [← List.takeWhile_append_dropWhile (p := isDecimal) (l := t), hrest]
      rfl
    rw [afterPrefix_eq_some ht, hsplit, List.append_cons, ← List.append_assoc]
    refine .inr (numberName_append (c := 'n') rfl (by simp) ?_ hne hdigits)
    simp only [List.mem_append, not_or]
    refine ⟨by decide, fun hp => ?_, by decide⟩
    have := List.mem_takeWhile_imp hp
    cases this
  · obtain ⟨t, rfl, hne, ht⟩ := of_prefixed h
    exact .inr (numberName_append (c := 'm') rfl (by simp) (by decide) hne ht)
  · exact .inl (letterName_of_prefixed (c := 'd') rfl (by simp) h)

/-- The names of a device's partitions. -/
inductive Partition (name : Text) : Text → Prop
  | letter {digits : Text} {c : Char} : name.getLast? = some c → c.isAlpha = true →
      digits ≠ [] → (∀ d ∈ digits, isDecimal d = true) → Partition name (name ++ digits)
  | digit {digits : Text} {c : Char} : name.getLast? = some c → isDecimal c = true →
      digits ≠ [] → (∀ d ∈ digits, isDecimal d = true) → Partition name (name ++ 'p' :: digits)

theorem Partition.exists_rest {name part : Text} (h : Partition name part) :
    ∃ rest, part = name ++ rest ∧ ∃ c, part.getLast? = some c ∧ isDecimal c = true := by
  cases h with
  | letter _ _ hne hdigits =>
    refine ⟨_, rfl, _, ?_, hdigits _ (List.getLast_mem hne)⟩
    rw [List.getLast?_append, List.getLast?_eq_some_getLast hne]
    rfl
  | @digit digits _ _ _ hne hdigits =>
    refine ⟨_, rfl, _, ?_, hdigits _ (List.getLast_mem hne)⟩
    rw [List.append_cons, List.getLast?_append, List.getLast?_eq_some_getLast hne]
    rfl

/-- **No partition of a whole device is one.** -/
theorem not_wholeDevice_partition {name part : Text} (hname : wholeDevice name = true)
    (h : Partition name part) : wholeDevice part = false := by
  rw [← Bool.not_eq_true]
  intro hpart
  obtain ⟨rest, hrest, c, hlast, hc⟩ := h.exists_rest
  rcases wholeDevice_cases hpart with hletter | hnumber
  · obtain ⟨d, hd, hlower⟩ := hletter.last
    cases Option.some.inj (hlast.symm.trans hd)
    rw [isDecimal_of_isLower hlower] at hc
    cases hc
  · have hnumbered : NumberName name := by
      rcases wholeDevice_cases hname with hletter | hnumbered
      · obtain ⟨a, ha, hhead⟩ := hletter.head
        obtain ⟨b, hb, hhead'⟩ := hnumber.head
        rw [hrest, List.head?_append, hhead] at hhead'
        cases hhead'
        have hdisjoint : ∀ c ∈ ['s', 'h', 'v', 'x', 'd'], c ∉ ['n', 'm'] := by simp
        exact absurd hb (hdisjoint a ha)
      · exact hnumbered
    cases h with
    | letter hend halpha =>
      obtain ⟨d, hd, hdecimal⟩ := hnumbered.last
      cases Option.some.inj (hend.symm.trans hd)
      rw [isDecimal_of_isAlpha halpha] at hdecimal
      cases hdecimal
    | digit =>
      refine hnumber.plain ?_
      simp

/-! ## Selected rows -/

/-- The column of a direction's counter. -/
def Direction.column : Direction → ℕ
  | read => 5
  | write => 9

/-- The third field is there and is selected. -/
def ofDevice (selected : Text → Bool) (fields : List Text) : Bool := fields[2]?.any selected

/-- The fields of the lines of selected devices. -/
def selectedRows (devices : Option (List Text)) (text : Text) : List (List Text) :=
  ((splitlines text).map split).filter (ofDevice (isSelected devices))

/-- The row is too short, or a counter is no integer or negative. -/
def Malformed (fields : List Text) : Prop :=
  fields.length < 10 ∨
    ∃ d : Direction, ∀ n, toInt (fields.getD d.column []) = .ok n → n < 0

/-- The counter of a row, in sectors. -/
def counter (d : Direction) (fields : List Text) : ℕ :=
  match toInt (fields.getD d.column []) with
  | .ok n => n.toNat
  | .error _ => 0

/-- What the fields of a line are to the loop. -/
inductive Reads (selected : Text → Bool) (fields : List Text) : DiskLine → Prop
  | skipped : ¬ ofDevice selected fields = true → Reads selected fields .skipped
  | malformed : ofDevice selected fields = true → Malformed fields →
      Reads selected fields .malformed
  | row {r : DiskRow} : ofDevice selected fields = true → ¬ Malformed fields →
      fields[2]? = some r.name → (∀ d, r.sectors d = counter d fields) →
      Reads selected fields (.row r)

theorem malformed_iff {fields : List Text} {read write : ℤ} (hlen : ¬ fields.length < 10)
    (hread : toInt (fields.getD 5 []) = .ok read) (hwrite : toInt (fields.getD 9 []) = .ok write) :
    Malformed fields ↔ read < 0 ∨ write < 0 := by
  rw [Malformed, or_iff_right hlen]
  constructor
  · rintro ⟨d, h⟩
    cases d with
    | read => exact .inl (h read hread)
    | write => exact .inr (h write hwrite)
  · rintro (h | h)
    · refine ⟨.read, fun n hn => ?_⟩
      cases hread.symm.trans hn
      exact h
    · refine ⟨.write, fun n hn => ?_⟩
      cases hwrite.symm.trans hn
      exact h

theorem parseDiskLine_reads (selected : Text → Bool) (line : Text) :
    Reads selected (split line) (parseDiskLine selected line) := by
  unfold parseDiskLine
  generalize split line = fields
  by_cases hshort : fields.length ≤ 2
  · simp only [if_pos hshort]
    refine .skipped ?_
    rw [ofDevice, List.getElem?_eq_none hshort]
    exact Bool.false_ne_true
  · have hname : fields[2]? = some (fields.getD 2 []) := by
      rw [List.getD_eq_getElem?_getD, List.getElem?_eq_getElem (by omega)]
      rfl
    simp only [if_neg hshort]
    cases hsel : selected (fields.getD 2 []) with
    | false =>
      refine .skipped ?_
      rw [ofDevice, hname, Option.any_some, hsel]
      exact Bool.false_ne_true
    | true =>
      have hany : ofDevice selected fields = true := by
        rw [ofDevice, hname, Option.any_some, hsel]
      simp only [Bool.not_true, Bool.false_eq_true, ↓reduceIte]
      by_cases hlen : fields.length < 10
      · rw [if_pos hlen]
        exact .malformed hany (.inl hlen)
      · rw [if_neg hlen]
        cases hread : toInt (fields.getD 5 []) with
        | error e =>
          refine .malformed hany (.inr ⟨.read, fun n hn => ?_⟩)
          cases hread.symm.trans hn
        | ok read =>
          cases hwrite : toInt (fields.getD 9 []) with
          | error e =>
            refine .malformed hany (.inr ⟨.write, fun n hn => ?_⟩)
            cases hwrite.symm.trans hn
          | ok write =>
            simp only
            by_cases hneg : read < 0 ∨ write < 0
            · rw [if_pos hneg]
              exact .malformed hany ((malformed_iff hlen hread hwrite).2 hneg)
            · rw [if_neg hneg]
              refine .row hany (mt (malformed_iff hlen hread hwrite).1 hneg) hname fun d => ?_
              cases d with
              | read => simp only [counter, Direction.column, hread]
              | write => simp only [counter, Direction.column, hwrite]

/-- The sum of a direction over these rows. -/
def counterSum (d : Direction) (rows : List (List Text)) : ℕ := (rows.map (counter d)).sum

/-- The rows are added to the totals. -/
structure Added (rows : List (List Text)) (totals totals' : DiskTotals) : Prop where
  wellFormed : ∀ fields ∈ rows, ¬ Malformed fields
  seen : ∀ name, name ∈ totals'.seen ↔
    name ∈ totals.seen ∨ ∃ fields ∈ rows, fields[2]? = some name
  sectors : ∀ d, totals'.sectors d = totals.sectors d + counterSum d rows

/-- The loop adds the rows of the selected lines, if none is malformed. -/
theorem diskLoop_spec (selected : Text → Bool) (totals : DiskTotals) (lines : List Text) :
    (diskLoop selected totals lines = none ∧
      ∃ fields ∈ (lines.map split).filter (ofDevice selected),
        Malformed fields) ∨
    ∃ totals', diskLoop selected totals lines = some totals' ∧
      Added ((lines.map split).filter (ofDevice selected)) totals totals' := by
  induction lines generalizing totals with
  | nil =>
    refine .inr ⟨totals, rfl, by simp, by simp, fun d => ?_⟩
    simp [counterSum]
  | cons line lines ih =>
    rw [diskLoop, List.map_cons]
    have hline := parseDiskLine_reads selected line
    cases hparse : parseDiskLine selected line with
    | skipped =>
      rw [hparse] at hline
      cases hline with
      | skipped hsel =>
        rw [List.filter_cons_of_neg hsel]
        exact ih totals
    | malformed =>
      rw [hparse] at hline
      cases hline with
      | malformed hsel hbad =>
        rw [List.filter_cons_of_pos hsel]
        exact .inl ⟨rfl, _, List.mem_cons_self, hbad⟩
    | row r =>
      rw [hparse] at hline
      cases hline with
      | row hsel hgood hname hcounter =>
        rw [List.filter_cons_of_pos hsel]
        rcases ih (totals.add r) with ⟨hnone, fields, hmem, hbad⟩ | ⟨totals', hsome, hadded⟩
        · exact .inl ⟨hnone, fields, .tail _ hmem, hbad⟩
        · refine .inr ⟨totals', hsome, ?_, fun name => ?_, fun d => ?_⟩
          · exact List.forall_mem_cons.2 ⟨hgood, hadded.wellFormed⟩
          · rw [hadded.seen, DiskTotals.add, List.mem_cons, List.exists_mem_cons_iff, hname,
              Option.some.injEq, eq_comm, or_assoc, or_left_comm]
          · simp only [hadded.sectors, DiskTotals.add, counterSum, List.map_cons, List.sum_cons,
              hcounter, Nat.add_assoc]

/-! ## The result -/

/-- A row is malformed, or there is none, or a listed device has none. -/
def Unreadable (devices : Option (List Text)) (rows : List (List Text)) : Prop :=
  (∃ fields ∈ rows, Malformed fields) ∨ rows = [] ∨
    ∃ names, devices = some names ∧ ∃ name ∈ names, ∀ fields ∈ rows, fields[2]? ≠ some name

theorem exists_name {selected : Text → Bool} {fields : List Text}
    (h : ofDevice selected fields = true) :
    ∃ name, fields[2]? = some name ∧ selected name = true :=
  (Option.any_eq_true _ _).1 h

/-- The checks after the loop. -/
theorem covered_iff {devices : Option (List Text)} {text : Text} {totals : DiskTotals}
    (h : Added (selectedRows devices text) {} totals) :
    (totals.seen = [] ∨ (devices.any fun names => names.any (!totals.seen.contains ·) ||
        totals.seen.any (!names.contains ·)) = true) ↔
      selectedRows devices text = [] ∨ ∃ names, devices = some names ∧
        ∃ name ∈ names, ∀ fields ∈ selectedRows devices text, fields[2]? ≠ some name := by
  have hseen (name : Text) : name ∈ totals.seen ↔
      ∃ fields ∈ selectedRows devices text, fields[2]? = some name := by
    rw [h.seen]
    simp
  have hnil : totals.seen = [] ↔ selectedRows devices text = [] := by
    rw [List.eq_nil_iff_forall_not_mem, List.eq_nil_iff_forall_not_mem]
    constructor
    · intro hempty fields hmem
      obtain ⟨name, hname, -⟩ := exists_name (List.mem_filter.1 hmem).2
      exact hempty name ((hseen name).2 ⟨fields, hmem, hname⟩)
    · intro hempty name hmem
      obtain ⟨fields, hmem, -⟩ := (hseen name).1 hmem
      exact hempty fields hmem
  rw [hnil]
  refine or_congr Iff.rfl ?_
  cases devices with
  | none => simp
  | some names =>
    -- what is seen is selected, so only the other inclusion can fail
    have hlisted : totals.seen.any (!names.contains ·) = false := by
      rw [List.any_eq_false]
      intro name hmem
      obtain ⟨fields, hmem, hname⟩ := (hseen name).1 hmem
      obtain ⟨name', hname', hsel⟩ := exists_name (List.mem_filter.1 hmem).2
      cases Option.some.inj (hname.symm.trans hname')
      have : names.contains name = true := hsel
      rw [this]
      exact Bool.false_ne_true
    rw [Option.any_some, hlisted, Bool.or_false, List.any_eq_true]
    constructor
    · rintro ⟨name, hmem, hnot⟩
      refine ⟨names, rfl, name, hmem, fun fields hfields hname => ?_⟩
      have := (hseen name).2 ⟨fields, hfields, hname⟩
      simp [this] at hnot
    · rintro ⟨names', hnames, name, hmem, hnot⟩
      cases hnames
      refine ⟨name, hmem, ?_⟩
      have : name ∉ totals.seen := by
        rw [hseen]
        rintro ⟨fields, hfields, hname⟩
        exact hnot fields hfields hname
      simpa using this

/-- **The bytes are those of the selected rows.** -/
theorem parseDiskstats_spec (text : Text) (devices : Option (List Text)) :
    (parseDiskstats text devices = none ↔ Unreadable devices (selectedRows devices text)) ∧
      ∀ p, parseDiskstats text devices = some p →
        ∀ d, p d = 512 * counterSum d (selectedRows devices text) := by
  unfold parseDiskstats Unreadable
  rcases diskLoop_spec (isSelected devices) {} (splitlines text) with
    ⟨hnone, hbad⟩ | ⟨totals, hsome, hadded⟩
  · rw [hnone]
    exact ⟨iff_of_true rfl (.inl hbad), by simp⟩
  · rw [hsome]
    have hgood : ¬ ∃ fields ∈ selectedRows devices text, Malformed fields := by
      rintro ⟨fields, hmem, hbad⟩
      exact hadded.wellFormed fields hmem hbad
    have hcovered := covered_iff hadded
    rw [or_iff_right hgood, ← hcovered]
    simp only
    split_ifs with hempty hdiff
    · exact ⟨iff_of_true rfl (.inl hempty), by simp⟩
    · exact ⟨iff_of_true rfl (.inr hdiff), by simp⟩
    · refine ⟨iff_of_false (by simp) (not_or.2 ⟨hempty, hdiff⟩), ?_⟩
      rintro p ⟨rfl⟩ d
      simp only [hadded.sectors d, Nat.zero_add, Nat.mul_comm]
      rfl

theorem Unreadable.perm {devices : Option (List Text)} {rows rows' : List (List Text)}
    (hperm : rows.Perm rows') (h : Unreadable devices rows) : Unreadable devices rows' := by
  rcases h with ⟨fields, hmem, hbad⟩ | rfl | ⟨names, hnames, name, hmem, hnone⟩
  · exact .inl ⟨fields, hperm.mem_iff.1 hmem, hbad⟩
  · exact .inr (.inl (List.nil_perm.1 hperm))
  · exact .inr (.inr ⟨names, hnames, name, hmem, fun fields hfields =>
      hnone fields (hperm.mem_iff.2 hfields)⟩)

/-- Only the selected rows matter, in any order. -/
theorem parseDiskstats_congr {text text' : Text} {devices : Option (List Text)}
    (hperm : (selectedRows devices text).Perm (selectedRows devices text')) :
    parseDiskstats text devices = parseDiskstats text' devices := by
  obtain ⟨hnone, hsome⟩ := parseDiskstats_spec text devices
  obtain ⟨hnone', hsome'⟩ := parseDiskstats_spec text' devices
  have hiff : parseDiskstats text devices = none ↔ parseDiskstats text' devices = none := by
    rw [hnone, hnone']
    exact ⟨fun h => h.perm hperm, fun h => h.perm hperm.symm⟩
  cases h : parseDiskstats text devices with
  | none => exact (hiff.1 h).symm
  | some p =>
    cases h' : parseDiskstats text' devices with
    | none =>
      rw [hiff.2 h'] at h
      cases h
    | some p' =>
      refine congrArg some (funext fun d => ?_)
      rw [hsome p h, hsome' p' h', counterSum, counterSum, (hperm.map (counter d)).sum_eq]

/-- **Each whole device is counted once, and nothing else.** -/
theorem whole_devices_counted :
    (∀ text text' : Text, (splitlines text).Perm (splitlines text') →
      parseDiskstats text none = parseDiskstats text' none) ∧
    (∀ text text' : Text, Inserted (fun line => ∀ name ∈ (split line)[2]?, wholeDevice name = false)
        (splitlines text) (splitlines text') →
      parseDiskstats text none = parseDiskstats text' none) ∧
    (∀ name part : Text, wholeDevice name = true → Partition name part →
      wholeDevice part = false) ∧
    ∀ (text : Text) (devices : Option (List Text)),
      (parseDiskstats text devices = none ↔ Unreadable devices (selectedRows devices text)) ∧
        ∀ p, parseDiskstats text devices = some p →
          ∀ d, p d = 512 * counterSum d (selectedRows devices text) := by
  refine ⟨fun text text' h => ?_, fun text text' h => ?_, fun name part =>
    not_wholeDevice_partition, parseDiskstats_spec⟩
  · exact parseDiskstats_congr ((h.map split).filter _)
  · refine parseDiskstats_congr (List.Perm.of_eq ?_)
    simp only [selectedRows, List.filter_map]
    refine congrArg (List.map split) (h.filter_eq fun line hline => ?_).symm
    rw [Function.comp_apply, ofDevice, Option.any_eq_false]
    intro name hname
    simp [isSelected, hline name hname]

theorem whole_devices_counted_partition :
    parseDiskstats "8 0 sda 1 0 10 0 1 0 20\n".toList none =
      parseDiskstats "8 1 sda1 1 0 10 0 1 0 20\n8 0 sda 1 0 10 0 1 0 20\n".toList none := by
  refine whole_devices_counted.2.1 _ _ (.insert _ ?_ (.keep _ .nil))
  intro name hname
  cases hname
  rfl

end SweatMeter
