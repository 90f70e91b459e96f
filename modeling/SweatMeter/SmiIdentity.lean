/-
  What `NvidiaSmiReader.static_info` reads from the tables and the banner of a
  machine: the profiles of its devices (`staticInfo_prints`).
-/
import SweatMeter.StaticTables

namespace SweatMeter

open Py

/-! ## Labels -/

namespace Label

variable {l : Label} {t : Text}

theorem value_ne_nil (l : Label) : l.value ≠ [] := by
  intro h
  have hmem := l.available
  rw [show strip l.text = [] from h] at hmem
  exact hmem (by decide)

theorem parseCell_eq (h : strip t = l.value) : parseCell t = some l.value := by
  rw [parseCell, h, if_neg]
  exact l.available

theorem Cell.line (h : l.Cell t) : ∀ c ∈ t, isLineBreak c = false := by
  cases h with
  | plain => exact l.line
  | quoted => exact Csv.isLineBreak_quoted l.line

/-- A label's cell is read as its text, but for blanks in front. -/
theorem Cell.rendered (h : l.Cell t) (hlen : l.text.length ≤ Csv.fieldLimit) :
    ∃ cell, Csv.Rendered t cell ∧ parseCell cell = some l.value := by
  cases h with
  | quoted => exact ⟨l.text, .quoted hlen, parseCell_eq rfl⟩
  | plain hsep =>
    have hstrip : strip (l.text.dropWhile (· = ' ')) = l.value := strip_dropWhile_blank l.text
    refine ⟨l.text.dropWhile (· = ' '), ?_, parseCell_eq hstrip⟩
    refine .plain (List.takeWhile_append_dropWhile (p := fun c => c = ' ')).symm ?_ ⟨?_, ?_, ?_⟩ ?_
    · intro c hc
      simpa using List.mem_takeWhile_imp hc
    · exact fun c hc => hsep c ((List.dropWhile_sublist _).mem hc)
    · intro hhead
      have := List.head?_dropWhile_not (fun c => decide (c = ' ')) l.text
      rw [hhead] at this
      simp at this
    · exact (List.dropWhile_sublist _).length_le.trans hlen
    · intro hnil
      rw [hnil] at hstrip
      exact l.value_ne_nil hstrip.symm

end Label

/-! ## Versions -/

theorem numeric_dotted {version : ℤ × ℤ} : ∀ c ∈ dotted version, Numeric c := by
  intro c hc
  rw [dotted, List.mem_append, List.mem_cons] at hc
  rcases hc with hc | rfl | hc
  · exact numeric_intNumeral c hc
  · exact ⟨by simp, by simp⟩
  · exact numeric_intNumeral c hc

theorem length_intNumeral_le {n : ℤ} (h : Printable n) :
    (intNumeral n).length ≤ maxStrDigits + 1 := by
  cases n with
  | ofNat n => exact (length_numeral_le maxStrDigits_pos h).trans (Nat.le_succ _)
  | negSucc n => exact Nat.succ_le_succ (length_numeral_le maxStrDigits_pos h)

/-- A version may stand in a cell. -/
theorem printed_dotted {version : ℤ × ℤ} (h : Printable version.1 ∧ Printable version.2) :
    Csv.Printed (dotted version) := by
  refine printed_of_numeric numeric_dotted (by simp [dotted]) ?_
  have h₁ := length_intNumeral_le h.1
  have h₂ := length_intNumeral_le h.2
  have hdigits := maxStrDigits_le
  have hlimit : 8603 ≤ Csv.fieldLimit := by unfold Csv.fieldLimit; omega
  rw [dotted, List.length_append, List.length_cons]
  omega

/-! ## Lines -/

/-- A device's row of the static table. -/
def MachineIdentity.coreRow (m : MachineIdentity) (p : DeviceIdentity × ℕ) : SmiRow :=
  staticFields.zip [some (numeral p.2), some p.1.name.value, some p.1.uuid.value,
    some (numeral p.1.vramMib), some m.driver.value]

/-- A device's row of the compute table. -/
def computeRow (p : DeviceIdentity × ℕ) : SmiRow :=
  computeFields.zip [some (numeral p.2), some (dotted p.1.capability)]

/-- A line of rendered cells that starts with a number. -/
theorem readsAs_rendered {columns : List String} {n : ℕ} {ts cells : List Text}
    (h : List.Forall₂ Csv.Rendered (numeral n :: ts) cells)
    (hbreaks : ∀ t ∈ ts, ∀ c ∈ t, isLineBreak c = false) :
    ReadsAs columns (Csv.join (numeral n :: ts)) (toRow columns cells) where
  breaks := by
    refine Csv.isLineBreak_join (List.forall_mem_cons.2 ⟨?_, hbreaks⟩)
    exact fun c hc => (numeric_numeral c hc).isLineBreak
  visible := by
    obtain ⟨c, hc⟩ := List.exists_mem_of_ne_nil _ (numeral_ne_nil n)
    exact strip_ne_nil (Csv.mem_join_of_mem_head hc) (numeric_numeral c hc).isspace
  cells := ⟨cells, Csv.readLine_rendered h (List.cons_ne_nil _ _), rfl⟩

section

variable {m : MachineIdentity} {p : DeviceIdentity × ℕ} {line : Text}

/-- The numbers of the machine are exact as doubles, or can be printed. -/
structure MachineIdentity.InRange (m : MachineIdentity) : Prop where
  count : m.devices.length ≤ 10 ^ maxStrDigits
  vram : ∀ d ∈ m.devices, d.vramMib ≤ 2 ^ 53
  capability : ∀ d ∈ m.devices, Printable d.capability.1 ∧ Printable d.capability.2
  cuda : Printable m.cudaMajor

/-- Besides, its texts fit a cell. -/
structure MachineIdentity.Legible (m : MachineIdentity) : Prop extends m.InRange where
  labels : ∀ d ∈ m.devices, d.name.text.length ≤ Csv.fieldLimit ∧ d.uuid.text.length ≤ Csv.fieldLimit
  driver : m.driver.text.length ≤ Csv.fieldLimit

theorem MachineIdentity.InRange.index_lt (hm : m.InRange) (hp : p ∈ m.devices.zipIdx) :
    p.2 < 10 ^ maxStrDigits := by
  have := (List.mem_zipIdx' hp).1
  exact this.trans_le hm.count

theorem vram_lt {n : ℕ} (h : n ≤ 2 ^ 53) : n * 2 ^ 20 < doubleLimit := by
  have hlimit : 2 ^ 73 < doubleLimit := by decide +kernel
  omega

theorem MachineIdentity.CoreLine.readsAs (hm : m.Legible) (hp : p ∈ m.devices.zipIdx)
    (h : m.CoreLine p line) : ReadsAs staticFields line (m.coreRow p) := by
  have hd := List.fst_mem_of_mem_zipIdx hp
  have hi := hm.index_lt hp
  obtain ⟨name, uuid, driver, hname, huuid, hdriver, rfl⟩ := h
  obtain ⟨cname, hrname, hpname⟩ := hname.rendered (hm.labels _ hd).1
  obtain ⟨cuuid, hruuid, hpuuid⟩ := huuid.rendered (hm.labels _ hd).2
  obtain ⟨cdriver, hrdriver, hpdriver⟩ := hdriver.rendered hm.driver
  have hvram := vram_lt (hm.vram _ hd)
  have hrendered : List.Forall₂ Csv.Rendered [numeral p.2, name, uuid, numeral p.1.vramMib, driver]
      [numeral p.2, cname, cuuid, numeral p.1.vramMib, cdriver] :=
    .cons (printed_index hi).rendered <| .cons hrname <| .cons hruuid <|
      .cons (printed_numeral (by omega)).rendered <| .cons hrdriver .nil
  have hrow : m.coreRow p =
      toRow staticFields [numeral p.2, cname, cuuid, numeral p.1.vramMib, cdriver] := by
    simp only [toRow, List.map_cons, List.map_nil, hpname, hpuuid, hpdriver,
      parseCell_numeric numeric_numeral (numeral_ne_nil _)]
    rfl
  rw [hrow]
  refine readsAs_rendered hrendered ?_
  simp only [List.forall_mem_cons, List.not_mem_nil, false_imp_iff, implies_true, and_true]
  exact ⟨hname.line, huuid.line, fun c hc => (numeric_numeral c hc).isLineBreak, hdriver.line⟩

theorem ComputeLine.readsAs (hm : m.Legible) (hp : p ∈ m.devices.zipIdx) (h : ComputeLine p line) :
    ReadsAs computeFields line (computeRow p) := by
  have hd := List.fst_mem_of_mem_zipIdx hp
  have hi := hm.index_lt hp
  obtain rfl := h
  have hdotted := printed_dotted (hm.capability _ hd)
  have hrow : computeRow p = toRow computeFields [numeral p.2, dotted p.1.capability] := by
    simp only [toRow, List.map_cons, List.map_nil, parseCell_numeric numeric_dotted hdotted.ne_nil,
      parseCell_numeric numeric_numeral (numeral_ne_nil _)]
    rfl
  rw [hrow]
  refine readsAs_rendered (.cons (printed_index hi).rendered <| .cons hdotted.rendered .nil) ?_
  simpa using hdotted.line

end

/-! ## Tables -/

theorem forall₂_map_of_forall₂ {α β γ : Type} {R : α → β → Prop} {S : β → γ → Prop} {f : α → γ}
    {xs : List α} {ys : List β} (h : List.Forall₂ R xs ys)
    (hRS : ∀ x ∈ xs, ∀ y, R x y → S y (f x)) : List.Forall₂ S ys (xs.map f) := by
  induction h with
  | nil => exact .nil
  | cons hxy _ ih =>
    exact .cons (hRS _ List.mem_cons_self _ hxy) (ih fun x hx => hRS x (.tail _ hx))

/-- The rows of a table that lists the devices, whatever the order of its lines. -/
theorem query_printsLines {c : SmiCall} {fields : List String} {key : String}
    {L : DeviceIdentity × ℕ → Text → Prop} {row : DeviceIdentity × ℕ → SmiRow}
    {ds : List DeviceIdentity} (h : (c.command (queryArguments fields)).PrintsLines L ds)
    (hlimit : ∀ text, (c.command (queryArguments fields)).PrintsText text →
      utf8Length text ≤ c.maxOutputBytes)
    (hread : ∀ p ∈ ds.zipIdx, ∀ line, L p line → ReadsAs fields line (row p))
    (hindex : ∀ p ∈ ds.zipIdx, smiRowIndex (row p) = p.2) :
    ∃ rows, (query c fields key).outcome = .ok rows ∧
      IndexedRows (ds.zipIdx.map fun p => ((p.2 : ℤ), row p)) rows := by
  obtain ⟨lines, lines', hperm, hL, hprints⟩ := h
  have hrows := forall₂_map_of_forall₂ hL hread
  obtain ⟨rows, hlines, hrowsPerm⟩ := List.perm_comp_forall₂ hperm hrows
  refine ⟨rows, ?_, ?_⟩
  · rw [query_outcome (invoke_text hprints), if_neg (not_lt.2 (hlimit _ hprints)), answered,
      parseNvidiaCsv_unlines hlines]
  · refine ⟨?_, ?_, ?_, sorted_positions row ds⟩
    · rwa [List.map_map]
    · intro e he
      obtain ⟨p, hp, rfl⟩ := List.mem_map.1 he
      exact hindex p hp
    · intro e he
      obtain ⟨p, -, rfl⟩ := List.mem_map.1 he
      exact Int.natCast_nonneg _

theorem smiRowIndex_coreRow {m : MachineIdentity} (hm : m.Legible) {p : DeviceIdentity × ℕ}
    (hp : p ∈ m.devices.zipIdx) : smiRowIndex (m.coreRow p) = p.2 :=
  smiRowIndex_of_lookup (hm.index_lt hp) rfl

theorem smiRowIndex_computeRow {m : MachineIdentity} (hm : m.Legible) {p : DeviceIdentity × ℕ}
    (hp : p ∈ m.devices.zipIdx) : smiRowIndex (computeRow p) = p.2 :=
  smiRowIndex_of_lookup (hm.index_lt hp) rfl

/-! ## The banner -/

/-- The label does not overlap itself, so it starts nowhere before. -/
theorem cudaLabel_starts {v rest : Text} (hv : v ≠ []) (h : cudaLabel <+: v ++ (cudaLabel ++ rest)) :
    cudaLabel <+: v := by
  by_cases hlen : cudaLabel.length ≤ v.length
  · exact List.prefix_of_prefix_length_le h (List.prefix_append v _) hlen
  · exfalso
    have hlength : cudaLabel.length = 13 := rfl
    have hpos : 0 < v.length := List.length_pos_iff.2 hv
    have hget := h.getElem (i := v.length) (by omega)
    rw [List.getElem_append_right (le_refl _)] at hget
    simp only [Nat.sub_self] at hget
    have hother : ∀ i : Fin 13, 0 < i.1 → cudaLabel[i.1]? ≠ some 'C' := by decide
    refine hother ⟨v.length, by omega⟩ hpos ?_
    rw [List.getElem?_eq_getElem (by omega), hget]
    rfl

section

variable {alnum : Char → Bool}

theorem isWord_of_isDigit {c : Char} (h : c.isDigit = true) : isWord alnum c = true := by
  have hnumeric := (numeric_of_isDigit h).2
  rw [isWord, if_pos (by omega)]
  simp [Char.isAlphanum, h]

theorem ahead_isDigit_of_isWord {t : Text} (h : Regex.ahead (isWord alnum) t = false) :
    Regex.ahead Char.isDigit t = false := by
  cases t with
  | nil => rfl
  | cons c t =>
    by_contra hc
    rw [Bool.not_eq_false] at hc
    have hword : isWord alnum c = false := h
    rw [isWord_of_isDigit hc] at hword
    cases hword

/-- The label matches where it stands as a word of its own. -/
theorem first_cudaPrefix {before after : Text} (hbefore : Regex.ahead (isWord alnum) before = false)
    (hafter : Regex.ahead isspace after = false) :
    Regex.First (cudaPrefix alnum) ⟨before, cudaLabel ++ ' ' :: after⟩
      ⟨' ' :: (cudaLabel.reverse ++ before), after⟩ := by
  have hword : isWord alnum 'C' = true := rfl
  have hstart : Regex.ahead (isWord alnum) before ≠
      Regex.ahead (isWord alnum) (cudaLabel ++ ' ' :: after) := by
    rw [hbefore]
    exact fun h => absurd (h.trans hword) Bool.false_ne_true
  have hspace : ∀ c ∈ [' '], isspace c = true := by
    intro c hc
    rw [List.mem_singleton.1 hc]
    rfl
  have hblank := Regex.first_many_one hspace hafter (cudaLabel.reverse ++ before)
  exact (Regex.first_boundary hstart).seq ((Regex.first_literal _ _ _).seq hblank)

/-- No further part of a version comes next. -/
theorem dottedPart_eq_nil {before after : Text} (hdot : ∀ c rest, after = '.' :: c :: rest →
    c.isDigit = false) : Regex.seq (Regex.one (· = '.')) (Regex.many1 (Regex.one Char.isDigit))
      ⟨before, after⟩ = [] := by
  cases after with
  | nil => rfl
  | cons c rest =>
    by_cases hc : c = '.'
    · subst hc
      have hnext : Regex.ahead Char.isDigit rest = false := by
        cases rest with
        | nil => rfl
        | cons d rest => exact hdot d rest rfl
      have hmore : Regex.many1 (Regex.one Char.isDigit) ⟨'.' :: before, rest⟩ = [] :=
        Regex.seq_eq_nil (Regex.one_eq_nil hnext)
      rw [Regex.seq, Regex.one, if_pos (by simp), List.flatMap_cons, hmore]
      rfl
    · exact Regex.seq_eq_nil (Regex.one_eq_nil (by simpa [Regex.ahead] using hc))

theorem reverse_dotted (major minor : ℕ) (before : Text) :
    (dotted (major, minor)).reverse ++ before =
      (numeral minor).reverse ++ '.' :: ((numeral major).reverse ++ before) := by
  rw [show dotted (major, minor) = numeral major ++ '.' :: numeral minor from rfl,
    List.reverse_append, List.reverse_cons, List.append_assoc, List.append_assoc]
  rfl

/-- A version is taken to its end. -/
theorem first_dottedDigits {major minor : ℕ} {before after : Text}
    (hdigit : Regex.ahead Char.isDigit after = false)
    (hdot : ∀ c rest, after = '.' :: c :: rest → c.isDigit = false) :
    Regex.First dottedDigits ⟨before, dotted (major, minor) ++ after⟩
      ⟨(dotted (major, minor)).reverse ++ before, after⟩ := by
  have hdigits {n : ℕ} : ∀ c ∈ numeral n, c.isDigit = true := fun c => isDigit_numeral
  have htext : dotted (major, minor) ++ after =
      numeral major ++ '.' :: (numeral minor ++ after) := List.append_assoc ..
  have hmajor : Regex.First (Regex.many1 (Regex.one Char.isDigit))
      ⟨before, numeral major ++ '.' :: (numeral minor ++ after)⟩
      ⟨(numeral major).reverse ++ before, '.' :: (numeral minor ++ after)⟩ :=
    Regex.first_many1_one (numeral_ne_nil major) hdigits rfl before
  have hpoint : Regex.First (Regex.one (· = '.'))
      ⟨(numeral major).reverse ++ before, '.' :: (numeral minor ++ after)⟩
      ⟨'.' :: ((numeral major).reverse ++ before), numeral minor ++ after⟩ :=
    Regex.first_one rfl _ _
  have hminor := Regex.first_many1_one (numeral_ne_nil minor) hdigits hdigit
    ('.' :: ((numeral major).reverse ++ before))
  have hconsumes : Regex.Consumes
      (Regex.seq (Regex.one (· = '.')) (Regex.many1 (Regex.one Char.isDigit))) := by
    refine Regex.consumes_seq (Regex.consumes_one _) ?_
    intro s e he
    exact (Regex.consumes_many1 (Regex.consumes_one _) s e he).le
  rw [htext, reverse_dotted]
  exact hmajor.seq <| (hpoint.seq hminor).many_cons hconsumes <|
    Regex.first_many_nil (dottedPart_eq_nil hdot)

/-- The banner's version is found. -/
theorem searchCudaVersion_eq {major minor : ℕ} {text : Text}
    (h : Advertises alnum (major, minor) text) :
    searchCudaVersion alnum text = some (dotted (major, minor)) := by
  obtain ⟨before, after, rfl, hnone, hbefore, hafter, hdot⟩ := h
  have hskip : ∀ u v, before = u ++ v → v ≠ [] →
      Regex.group (cudaPrefix alnum) dottedDigits (Regex.boundary (isWord alnum))
        ⟨u.reverse ++ [], v ++ (cudaLabel ++ ' ' :: (dotted (major, minor) ++ after))⟩ = [] := by
    intro u v huv hv
    refine Regex.group_eq_nil ?_
    have hlabel : ¬ cudaLabel <+: v ++ (cudaLabel ++ ' ' :: (dotted (major, minor) ++ after)) :=
      fun hstart => hnone ((cudaLabel_starts hv hstart).isInfix.trans
        (huv ▸ (List.suffix_append u v).isInfix))
    rcases Regex.boundary_subset (isWord alnum) ⟨u.reverse ++ [],
      v ++ (cudaLabel ++ ' ' :: (dotted (major, minor) ++ after))⟩ with hb | hb
    · exact Regex.seq_eq_nil hb
    · rw [cudaPrefix, Regex.seq, hb, List.flatMap_cons, List.flatMap_nil, List.append_nil]
      exact Regex.seq_eq_nil (Regex.literal_eq_nil hlabel)
  rw [searchCudaVersion, Regex.search_append hskip, List.append_nil]
  have hspace : Regex.ahead isspace (dotted (major, minor) ++ after) = false :=
    Regex.ahead_append (by simp [dotted]) (fun c hc => (numeric_dotted c hc).isspace) after
  have hend : Regex.ahead (isWord alnum) ((dotted (major, minor)).reverse ++
      ' ' :: (cudaLabel.reverse ++ before.reverse)) ≠ Regex.ahead (isWord alnum) after := by
    have hword : ∀ c ∈ (numeral minor).reverse, isWord alnum c = true := fun c hc =>
      isWord_of_isDigit (isDigit_numeral (List.mem_reverse.1 hc))
    rw [reverse_dotted, hafter, Regex.ahead_append (by simpa using numeral_ne_nil minor) hword]
    decide
  have hfound := Regex.head?_group (first_cudaPrefix hbefore hspace)
    (first_dottedDigits (ahead_isDigit_of_isWord hafter) hdot) ⟨_, Regex.first_boundary hend⟩
  refine Regex.search_of_head? (hfound.trans (congrArg some ?_))
  rw [Regex.Cursor.to, List.length_append, Nat.add_sub_cancel, List.take_left]

theorem readCudaVersion_outcome {c : SmiCall} {major minor : ℕ} {text : Text}
    (h : Advertises alnum (major, minor) text) (hprints : (c.command []).PrintsText text)
    (hlimit : utf8Length text ≤ c.maxOutputBytes) :
    (readCudaVersion alnum c).outcome = .ok (some (dotted (major, minor))) := by
  have hinvoke : c.invoke [] = .ok (.ok text) := by
    rw [invoke_text hprints, if_neg (not_lt.2 hlimit)]
  unfold readCudaVersion
  refine (Logged.bind_of_ok hinvoke).2 ?_
  simp only [searchCudaVersion_eq h]
  rfl

end

/-! ## Profiles -/

/-- The profile that the cells of a row make. -/
def rowProfile (cuda : Option Text) (computeRow row : SmiRow) (index : ℤ) : GpuProfile where
  index := index
  name := (row.lookup "name").join.map String.ofList
  uuid := (row.lookup "uuid").join.map String.ofList
  vramTotalBytes := (cellMeasurement (row.lookup "memory.total") none true).toOption
  driverVersion := (row.lookup "driver_version").join.map String.ofList
  cudaVersion := cuda.map String.ofList
  computeCapability := (computeRow.lookup "compute_cap").join.map String.ofList

section

variable {construct : GpuProfile → Except Exn Unit} {cuda : Option Text}

theorem profileFromRow_ok {computeRow row : SmiRow} {index : ℤ}
    (h : construct (rowProfile cuda computeRow row index) = .ok ()) :
    (profileFromRow construct cuda computeRow row index).outcome =
      .ok (rowProfile cuda computeRow row index) := by
  unfold profileFromRow
  refine (Logged.bind_of_ok (optionalText_outcome ..)).2 ?_
  refine (Logged.bind_of_ok (optionalText_outcome ..)).2 ?_
  refine (Logged.bind_of_ok (smiMeasurement_outcome ..)).2 ?_
  refine (Logged.bind_of_ok (optionalText_outcome ..)).2 ?_
  refine (Logged.bind_of_ok (optionalText_outcome ..)).2 ?_
  exact (Logged.bind_of_ok h).2 rfl

theorem profileRows_ok {S : Type} {computeRows : List (ℤ × SmiRow)} {entry : S → ℤ × SmiRow}
    {profile : S → GpuProfile} {xs : List S}
    (h : ∀ x ∈ xs, rowProfile cuda ((computeRows.lookup (entry x).1).getD []) (entry x).2
      (entry x).1 = profile x ∧ construct (profile x) = .ok ()) :
    (profileRows construct cuda computeRows (xs.map entry)).outcome = .ok (xs.map profile) := by
  induction xs with
  | nil => rfl
  | cons x xs ih =>
    obtain ⟨⟨hprofile, hconstruct⟩, hrest⟩ := List.forall_mem_cons.1 h
    rw [← hprofile] at hconstruct
    have hrow := profileFromRow_ok hconstruct
    rw [hprofile] at hrow
    refine (Logged.bind_of_ok hrow).2 ?_
    exact (Logged.bind_of_ok (ih hrest)).2 rfl

end

theorem dotted_ne_nil (version : ℤ × ℤ) : dotted version ≠ [] := by simp [dotted]

theorem rowProfile_eq {m : MachineIdentity} (hm : m.Legible) {p : DeviceIdentity × ℕ}
    (hp : p ∈ m.devices.zipIdx) :
    rowProfile (some (dotted m.cuda)) (computeRow p) (m.coreRow p) p.2 = m.profile p := by
  have hvram := vram_lt (hm.vram _ (List.fst_mem_of_mem_zipIdx hp))
  have htotal : (cellMeasurement ((m.coreRow p).lookup "memory.total") none true).toOption =
      some (.int (p.1.vramMib * 2 ^ 20 : ℕ)) :=
    congrArg Except.toOption (cellMeasurement_mib (toFloat_numeral p.1.vramMib) hvram)
  rw [rowProfile, htotal]
  rfl

theorem ofList_ne_empty {t : Text} (h : t ≠ []) : some (String.ofList t) ≠ some "" := by
  intro heq
  have := congrArg String.toList (Option.some.inj heq)
  rw [String.toList_ofList] at this
  exact h this

theorem MachineIdentity.normalized_profile (m : MachineIdentity) (p : DeviceIdentity × ℕ) :
    (m.profile p).Normalized where
  index := Int.natCast_nonneg _
  texts := by
    simp only [MachineIdentity.profile, List.forall_mem_cons, List.not_mem_nil, false_imp_iff,
      implies_true, and_true]
    exact ⟨ofList_ne_empty p.1.name.value_ne_nil, ofList_ne_empty p.1.uuid.value_ne_nil,
      ofList_ne_empty m.driver.value_ne_nil, ofList_ne_empty (dotted_ne_nil _),
      ofList_ne_empty (dotted_ne_nil _)⟩
  vram := by
    rintro x ⟨⟩
    exact ⟨_, rfl, by positivity⟩

/-- **The tables and the banner of a machine are read as its profiles.** -/
theorem staticInfo_prints {alnum : Char → Bool} {construct : GpuProfile → Except Exn Unit}
    (haccepts : ∀ p : GpuProfile, p.Normalized → construct p = .ok ()) {c : SmiCall}
    {m : MachineIdentity} (h : c.PrintsIdentity alnum m) (hlimit : c.WithinLimit)
    (hm : m.Legible) : (c.staticInfo alnum construct).outcome = .ok m.profiles := by
  obtain ⟨rows, hquery, hrows⟩ := query_printsLines h.core (hlimit _ (by simp))
    (fun p hp line hline => hline.readsAs hm hp) fun p hp => smiRowIndex_coreRow hm hp
  obtain ⟨rows', hquery', hrows'⟩ := query_printsLines h.compute (hlimit _ (by simp))
    (fun p hp line hline => hline.readsAs hm hp) fun p hp => smiRowIndex_computeRow hm hp
  obtain ⟨text, htext, hprints⟩ := h.banner
  have hcuda := readCudaVersion_outcome htext hprints (hlimit _ (by simp) _ hprints)
  unfold SmiCall.staticInfo
  refine (Logged.bind_of_ok hquery).2 ?_
  refine (Logged.bind_of_ok (hrows.rowsByIndex _)).2 ?_
  split_ifs with hnil
  · have hentries := hrows.perm_keyed
    rw [hnil] at hentries
    have hdevices := List.zipIdx_eq_nil_iff.1 (List.map_eq_nil_iff.1 hentries.nil_eq.symm)
    rw [MachineIdentity.profiles, hdevices]
    rfl
  · refine (Logged.bind_of_ok hquery').2 ?_
    refine (Logged.bind_of_ok (hrows'.rowsByIndex _)).2 ?_
    refine (Logged.bind_of_ok hcuda).2 ?_
    rw [hrows.insertionSort]
    refine profileRows_ok fun p hp => ⟨?_, haccepts _ (m.normalized_profile p)⟩
    have hmem : ((p.2 : ℤ), computeRow p) ∈
        m.devices.zipIdx.map fun p => ((p.2 : ℤ), computeRow p) := List.mem_map_of_mem hp
    rw [hrows'.lookup, lookup_of_mem (nodup_keys hrows'.sorted) hmem]
    exact rowProfile_eq hm hp

end SweatMeter
