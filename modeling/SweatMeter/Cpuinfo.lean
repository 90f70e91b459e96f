/-
  The topology of a Linux host (`parse_cpuinfo`), from any rendering of it.

  A block is a dictionary of the items of its lines, so the order of the lines and
  the lines that are padding do not matter.  The loop over the blocks counts the
  processors, collects the cores and keeps the first model.
-/
import Mathlib.Data.Finset.Card
import Mathlib.Data.List.Forall2
import SweatMeter.Py.Blocks
import SweatMeter.Py.Dict

namespace SweatMeter

open Py

/-! ## `/proc/cpuinfo` -/

/-- The key and the value of a line that has a value. -/
def cpuinfoItem (line : Text) : Option (String × Text) :=
  match partition ':' line with
  | (_, none) => none
  | (key, some value) =>
    if strip value ≠ [] then some (String.ofList (strip key), strip value) else none

/-- The body of the loop over the lines of a block. -/
def cpuinfoLine (fields : Dict Text) (line : Text) : Dict Text :=
  match cpuinfoItem line with
  | some (key, value) => fields.set key value
  | none => fields

/-- The fields of a block. -/
def blockFields (block : Text) : Dict Text := (splitlines block).foldl cpuinfoLine ∅

/-- The variables of the loop over the blocks. -/
structure CpuinfoTotals where
  modelCandidates : Dict Text := ∅
  logicalCount : ℕ := 0
  physicalCoreIds : Finset (Text × Text) := ∅

/-- The candidates for the model, with that of a key of this block. -/
def addCandidate (fields candidates : Dict Text) (key : String) : Dict Text :=
  match fields[key]? with
  | some value => candidates.setdefault key value
  | none => candidates

/-- The body of the loop over the blocks. -/
def CpuinfoTotals.add (totals : CpuinfoTotals) (fields : Dict Text) : CpuinfoTotals where
  modelCandidates := ["model name", "Processor", "Hardware", "Model"].foldl
    (addCandidate fields) totals.modelCandidates
  logicalCount := totals.logicalCount + if fields["processor"]?.isSome then 1 else 0
  physicalCoreIds := match fields["physical id"]?, fields["core id"]? with
    | some physicalId, some coreId => insert (physicalId, coreId) totals.physicalCoreIds
    | _, _ => totals.physicalCoreIds

/-- The facts read from the text; `none` for `UNSUPPORTED`. -/
structure CpuFacts where
  cpuModel : Option Text
  physicalCores : Option ℕ
  logicalCores : Option ℕ

/-- The facts after the loop. -/
def CpuinfoTotals.facts (totals : CpuinfoTotals) : CpuFacts where
  cpuModel := ["model name", "Hardware", "Processor", "Model"].findSome?
    fun key => totals.modelCandidates[key]?
  physicalCores :=
    if totals.physicalCoreIds.card ≠ 0 then some totals.physicalCoreIds.card else none
  logicalCores := if totals.logicalCount ≠ 0 then some totals.logicalCount else none

/-- `parse_cpuinfo`. -/
def parseCpuinfo (text : Text) : CpuFacts :=
  CpuinfoTotals.facts <| ((Regex.split blankLines (strip text)).map blockFields).foldl
    CpuinfoTotals.add {}

/-! ## Renderings -/

/-- A text that is the value of a line as it stands. -/
structure CpuText where
  text : Text
  ne_nil : text ≠ []
  trimmed : strip text = text
  unbroken : ∀ c ∈ text, isLineBreak c = false

/-- A logical CPU: its socket and core, if they are known, and its model. -/
structure Cpu where
  core : Option (CpuText × CpuText)
  model : CpuText

/-- The keys that tell the topology and the model. -/
def topologyKeys : List String := ["processor", "model name", "physical id", "core id"]

/-- `key : value`, with any blanks around the key and the value. -/
structure FieldLine (key : String) (value line : Text) : Prop where
  unbroken : ∀ c ∈ line, isLineBreak c = false
  parts : ∃ before after, line = before ++ ':' :: after ∧ ':' ∉ before ∧
    strip before = key.toList ∧ strip after = value

/-- Any other line: without a colon, or with another key. -/
structure Padding (line : Text) : Prop extends Line line where
  key : ∀ before after, line = before ++ ':' :: after → ':' ∉ before →
    String.ofList (strip before) ∉ topologyKeys

/-- The lines of a socket and a core. -/
inductive CoreLines : Option (CpuText × CpuText) → List Text → Prop
  | none : CoreLines none []
  | some {socket core : CpuText} {line line' : Text} : FieldLine "physical id" socket.text line →
      FieldLine "core id" core.text line' → CoreLines (some (socket, core)) [line, line']

/-- The lines of a logical CPU, in any order. -/
inductive CpuLines (cpu : Cpu) (lines : List Text) : Prop
  | intro {number processor model : Text} {ids padding : List Text} :
      lines.Perm (processor :: model :: (ids ++ padding)) → number ≠ [] →
      FieldLine "processor" number processor → FieldLine "model name" cpu.model.text model →
      CoreLines cpu.core ids → (∀ line ∈ padding, Padding line) → CpuLines cpu lines

/-- The cores of these CPUs. -/
def coreIds (cpus : List Cpu) : Finset (Text × Text) :=
  ((cpus.filterMap Cpu.core).map fun p => (p.1.text, p.2.text)).toFinset

/-! ## Lines -/

theorem FieldLine.line {key : String} {value line : Text} (h : FieldLine key value line) :
    Line line := by
  obtain ⟨before, after, rfl, -⟩ := h.parts
  exact ⟨⟨':', by simp, rfl⟩, h.unbroken⟩

theorem FieldLine.item {key : String} {value line : Text} (h : FieldLine key value line)
    (hne : value ≠ []) : cpuinfoItem line = some (key, value) := by
  obtain ⟨before, after, rfl, hbefore, hkey, hvalue⟩ := h.parts
  simp only [cpuinfoItem, partition_append hbefore, hkey, hvalue, ne_eq, hne, not_false_eq_true,
    ↓reduceIte, String.ofList_toList]

theorem cpuinfoItem_of_not_mem {line : Text} (h : ':' ∉ line) : cpuinfoItem line = none := by
  rw [cpuinfoItem, partition_of_not_mem h]

theorem cpuinfoItem_append {before : Text} (h : ':' ∉ before) (after : Text) :
    cpuinfoItem (before ++ ':' :: after) =
      if strip after ≠ [] then some (String.ofList (strip before), strip after) else none := by
  rw [cpuinfoItem, partition_append h]

/-- An item of a padding line has another key. -/
theorem Padding.item {line : Text} (h : Padding line) {p : String × Text}
    (hp : cpuinfoItem line = some p) : p.1 ∉ topologyKeys := by
  by_cases hmem : ':' ∈ line
  · obtain ⟨before, after, rfl, hbefore⟩ := List.eq_append_cons_of_mem hmem
    rw [cpuinfoItem_append hbefore] at hp
    split_ifs at hp
    cases hp
    exact h.key before after rfl hbefore
  · rw [cpuinfoItem_of_not_mem hmem] at hp
    cases hp

/-- Trimming a line leaves its item. -/
theorem cpuinfoItem_dropWhile (line : Text) :
    cpuinfoItem (line.dropWhile isspace) = cpuinfoItem line := by
  by_cases hmem : ':' ∈ line
  · obtain ⟨before, after, rfl, hbefore⟩ := List.eq_append_cons_of_mem hmem
    have hdrop : ':' ∉ before.dropWhile isspace :=
      fun h => hbefore ((List.dropWhile_suffix _).subset h)
    rw [dropWhile_append_stop rfl, cpuinfoItem_append hdrop, cpuinfoItem_append hbefore,
      strip_dropWhile]
  · rw [cpuinfoItem_of_not_mem hmem,
      cpuinfoItem_of_not_mem fun h => hmem ((List.dropWhile_suffix _).subset h)]

theorem cpuinfoItem_rdropWhile (line : Text) :
    cpuinfoItem (line.rdropWhile isspace) = cpuinfoItem line := by
  by_cases hmem : ':' ∈ line
  · obtain ⟨before, after, rfl, hbefore⟩ := List.eq_append_cons_of_mem hmem
    rw [rdropWhile_append_stop rfl, cpuinfoItem_append hbefore, cpuinfoItem_append hbefore,
      strip_rdropWhile]
  · rw [cpuinfoItem_of_not_mem hmem,
      cpuinfoItem_of_not_mem fun h => hmem ((List.rdropWhile_prefix _ _).subset h)]

/-! ## Blocks -/

variable {cpu : Cpu} {cpus : List Cpu} {lines : List Text} {fields : Dict Text}

theorem CoreLines.line {core : Option (CpuText × CpuText)} {ids : List Text}
    (h : CoreLines core ids) : ∀ line ∈ ids, Line line := by
  cases h with
  | none => simp
  | some hsocket hcore => simp [hsocket.line, hcore.line]

theorem CpuLines.block (h : CpuLines cpu lines) : Block lines := by
  obtain ⟨hperm, -, hprocessor, hmodel, hids, hpadding⟩ := h
  refine ⟨?_, fun line hline => ?_⟩
  · rintro rfl
    exact absurd (List.nil_perm.1 hperm) (List.cons_ne_nil _ _)
  · rw [hperm.mem_iff, List.mem_cons, List.mem_cons, List.mem_append] at hline
    rcases hline with rfl | rfl | hline | hline
    · exact hprocessor.line
    · exact hmodel.line
    · exact hids.line line hline
    · exact (hpadding line hline).toLine

theorem block_of_cpuLines {blocks : List (List Text)} (h : List.Forall₂ CpuLines cpus blocks) :
    ∀ lines ∈ blocks, Block lines := by
  induction h with
  | nil => simp
  | cons hlines _ ih => exact List.forall_mem_cons.2 ⟨hlines.block, ih⟩

/-- The items of a socket and a core. -/
def coreItems : Option (CpuText × CpuText) → List (String × Text)
  | none => []
  | some (socket, core) => [("physical id", socket.text), ("core id", core.text)]

theorem mem_coreItems {core : Option (CpuText × CpuText)} {key : String} {value : Text} :
    (key, value) ∈ coreItems core ↔
      key = "physical id" ∧ (core.map fun p => p.1.text) = some value ∨
        key = "core id" ∧ (core.map fun p => p.2.text) = some value := by
  cases core with
  | none => simp [coreItems]
  | some p => simp [coreItems, eq_comm]

theorem CoreLines.items {core : Option (CpuText × CpuText)} {ids : List Text}
    (h : CoreLines core ids) : ids.filterMap cpuinfoItem = coreItems core := by
  cases h with
  | none => rfl
  | @some socket core _ _ hsocket hcore =>
    rw [List.filterMap_cons_some (hsocket.item socket.ne_nil),
      List.filterMap_cons_some (hcore.item core.ne_nil)]
    rfl

/-- The items that tell the topology are those of the CPU. -/
theorem CpuLines.items (h : CpuLines cpu lines) : ∃ number, number ≠ [] ∧
    ∀ key ∈ topologyKeys, ∀ value, (key, value) ∈ lines.filterMap cpuinfoItem ↔
      (key, value) ∈ ("processor", number) :: ("model name", cpu.model.text) ::
        coreItems cpu.core := by
  obtain ⟨hperm, hne, hprocessor, hmodel, hids, hpadding⟩ := h
  refine ⟨_, hne, fun key hkey value => ?_⟩
  have hother : (key, value) ∉ List.filterMap cpuinfoItem _ := fun hmem => by
    obtain ⟨line, hline, hitem⟩ := List.mem_filterMap.1 hmem
    exact (hpadding line hline).item hitem hkey
  rw [(hperm.filterMap cpuinfoItem).mem_iff, List.filterMap_cons_some (hprocessor.item hne),
    List.filterMap_cons_some (hmodel.item cpu.model.ne_nil), List.filterMap_append, hids.items,
    List.mem_cons, List.mem_cons, List.mem_append, or_iff_left hother, List.mem_cons, List.mem_cons]

/-- The fields of a block are those of the CPU. -/
structure Describes (cpu : Cpu) (fields : Dict Text) : Prop where
  processor : fields["processor"]?.isSome = true
  model : fields["model name"]? = some cpu.model.text
  socket : fields["physical id"]? = cpu.core.map fun p => p.1.text
  core : fields["core id"]? = cpu.core.map fun p => p.2.text

theorem blockFields_joinLines (h : ∀ line ∈ lines, Line line) :
    blockFields (joinLines lines) = Dict.ofItems (lines.filterMap cpuinfoItem) := by
  rw [blockFields, splitlines_joinLines h]
  refine Dict.foldl_eq_update _ (fun d line hline => ?_) (fun d line p hline => ?_) _
  · rw [cpuinfoLine, hline]
  · rw [cpuinfoLine, hline]

theorem CpuLines.describes (h : CpuLines cpu lines) :
    Describes cpu (Dict.ofItems (lines.filterMap cpuinfoItem)) := by
  obtain ⟨number, -, hitems⟩ := h.items
  have hlookup (key : String) (hkey : key ∈ topologyKeys) (value : Option Text)
      (hvalue : ∀ v, (key, v) ∈ ("processor", number) :: ("model name", cpu.model.text) ::
        coreItems cpu.core ↔ value = some v) :
      (Dict.ofItems (lines.filterMap cpuinfoItem))[key]? = value :=
    Dict.getElem?_ofItems fun v => (hitems key hkey v).trans (hvalue v)
  have hprocessor := hlookup "processor" (by simp [topologyKeys]) (some number) fun v => by
    simp [mem_coreItems, eq_comm]
  refine ⟨hprocessor ▸ rfl, hlookup _ (by simp [topologyKeys]) _ fun v => ?_,
    hlookup _ (by simp [topologyKeys]) _ fun v => ?_,
    hlookup _ (by simp [topologyKeys]) _ fun v => ?_⟩
  · simp [mem_coreItems, eq_comm]
  · simp [mem_coreItems]
  · simp [mem_coreItems]

/-! ## The loop -/

theorem foldl_addCandidate_of_ne {keys : List String} {key : String} (h : ∀ a ∈ keys, a ≠ key)
    (candidates : Dict Text) :
    (keys.foldl (addCandidate fields) candidates)[key]? = candidates[key]? := by
  induction keys generalizing candidates with
  | nil => rfl
  | cons a keys ih =>
    obtain ⟨ha, hkeys⟩ := List.forall_mem_cons.1 h
    rw [List.foldl_cons, ih hkeys, addCandidate]
    cases fields[a]? with
    | none => rfl
    | some value => exact Dict.getElem?_setdefault_of_ne _ _ ha

/-- The first model is kept. -/
theorem modelCandidates_add {model : Text} (h : fields["model name"]? = some model)
    (totals : CpuinfoTotals) :
    (totals.add fields).modelCandidates["model name"]? =
      some (totals.modelCandidates["model name"]?.getD model) := by
  rw [CpuinfoTotals.add, List.foldl_cons, foldl_addCandidate_of_ne (by simp), addCandidate, h]
  show (Dict.setdefault _ _ _)["model name"]? = _
  rw [Dict.getElem?_setdefault, if_pos rfl]

theorem physicalCoreIds_add (h : Describes cpu fields) (totals : CpuinfoTotals)
    (cpus : List Cpu) : (totals.add fields).physicalCoreIds ∪ coreIds cpus =
      totals.physicalCoreIds ∪ coreIds (cpu :: cpus) := by
  cases hcore : cpu.core with
  | none => simp [CpuinfoTotals.add, h.socket, h.core, coreIds, hcore]
  | some p => simp [CpuinfoTotals.add, h.socket, h.core, coreIds, hcore]

/-- What the loop adds for these CPUs. -/
theorem foldl_add {fieldsList : List (Dict Text)} (h : List.Forall₂ Describes cpus fieldsList)
    (totals : CpuinfoTotals) :
    (fieldsList.foldl CpuinfoTotals.add totals).logicalCount =
        totals.logicalCount + cpus.length ∧
      (fieldsList.foldl CpuinfoTotals.add totals).physicalCoreIds =
        totals.physicalCoreIds ∪ coreIds cpus ∧
      (fieldsList.foldl CpuinfoTotals.add totals).modelCandidates["model name"]? =
        totals.modelCandidates["model name"]?.or (cpus.head?.map fun cpu => cpu.model.text) := by
  induction h generalizing totals with
  | nil => simp [coreIds]
  | @cons cpu fields cpus fieldsList hcpu _ ih =>
    obtain ⟨hcount, hids, hmodel⟩ := ih (totals.add fields)
    rw [List.foldl_cons]
    refine ⟨?_, ?_, ?_⟩
    · rw [hcount]
      simp only [CpuinfoTotals.add, hcpu.processor, ↓reduceIte, List.length_cons]
      omega
    · rw [hids, physicalCoreIds_add hcpu]
    · rw [hmodel, modelCandidates_add hcpu.model]
      cases totals.modelCandidates["model name"]? <;> rfl

theorem card_coreIds_le (cpus : List Cpu) : (coreIds cpus).card ≤ cpus.length := by
  refine (List.toFinset_card_le _).trans ?_
  rw [List.length_map]
  exact List.length_filterMap_le _ _

theorem coreIds_eq_empty : coreIds cpus = ∅ ↔ ∀ cpu ∈ cpus, cpu.core = none := by
  rw [coreIds, List.toFinset_eq_empty_iff, List.map_eq_nil_iff, List.filterMap_eq_nil_iff]

/-- The dictionaries of the blocks are those of their lines, wherever the text is cut. -/
theorem blockFields_split {blocks : List (List Text)} {text blanks blanks' : Text}
    (hblocks : ∀ lines ∈ blocks, Block lines) (htext : Separated (blocks.map joinLines) text)
    (hblanks : ∀ c ∈ blanks, isspace c = true) (hblanks' : ∀ c ∈ blanks', isspace c = true) :
    (Regex.split blankLines (strip (blanks ++ text ++ blanks'))).map blockFields =
      blocks.map fun lines => Dict.ofItems (lines.filterMap cpuinfoItem) := by
  obtain ⟨blocks', hblocks', hitems, hsplit⟩ := split_strip hblanks hblanks'
    (fun line _ => cpuinfoItem_dropWhile line) (fun line _ => cpuinfoItem_rdropWhile line)
    hblocks htext
  have hof (lines : List Text) : Dict.ofItems (lines.filterMap cpuinfoItem) =
      Dict.ofItems ((lines.map cpuinfoItem).filterMap id) := by
    rw [List.filterMap_map]
    rfl
  calc (Regex.split blankLines (strip (blanks ++ text ++ blanks'))).map blockFields
      = blocks'.map fun lines => Dict.ofItems ((lines.map cpuinfoItem).filterMap id) := by
        rw [hsplit, List.map_map]
        refine List.map_congr_left fun lines hmem => ?_
        rw [Function.comp_apply, blockFields_joinLines (hblocks' lines hmem).line, hof]
    _ = (blocks'.map (List.map cpuinfoItem)).map fun items =>
          Dict.ofItems (items.filterMap id) := by
        rw [List.map_map]
        rfl
    _ = blocks.map fun lines => Dict.ofItems (lines.filterMap cpuinfoItem) := by
        rw [hitems, List.map_map]
        exact List.map_congr_left fun lines _ => (hof lines).symm

/-- **The topology is recovered from any rendering.** -/
theorem topology_recovered (cpu : Cpu) (cpus : List Cpu) (blocks : List (List Text))
    (text blanks blanks' : Text) (hcpus : List.Forall₂ CpuLines (cpu :: cpus) blocks)
    (htext : Separated (blocks.map joinLines) text) (hblanks : ∀ c ∈ blanks, isspace c = true)
    (hblanks' : ∀ c ∈ blanks', isspace c = true) :
    (parseCpuinfo (blanks ++ text ++ blanks')).logicalCores = some (cpus.length + 1) ∧
      ((∀ c ∈ cpu :: cpus, c.core = none) →
        (parseCpuinfo (blanks ++ text ++ blanks')).physicalCores = none) ∧
      ((∃ c ∈ cpu :: cpus, c.core ≠ none) →
        (parseCpuinfo (blanks ++ text ++ blanks')).physicalCores =
          some (coreIds (cpu :: cpus)).card) ∧
      (coreIds (cpu :: cpus)).card ≤ cpus.length + 1 ∧
      (parseCpuinfo (blanks ++ text ++ blanks')).cpuModel = some cpu.model.text := by
  have hblocks := block_of_cpuLines hcpus
  have hdescribes : List.Forall₂ Describes (cpu :: cpus)
      (blocks.map fun lines => Dict.ofItems (lines.filterMap cpuinfoItem)) := by
    rw [List.forall₂_map_right_iff]
    exact hcpus.imp fun c lines h => h.describes
  obtain ⟨hcount, hids, hmodel⟩ := foldl_add hdescribes {}
  have hempty : (∅ : Finset (Text × Text)) ∪ coreIds (cpu :: cpus) = coreIds (cpu :: cpus) :=
    Finset.empty_union _
  rw [parseCpuinfo, blockFields_split hblocks htext hblanks hblanks']
  generalize List.foldl CpuinfoTotals.add {} _ = totals at hcount hids hmodel
  rw [hempty] at hids
  refine ⟨?_, fun hnone => ?_, fun hsome => ?_, card_coreIds_le _, ?_⟩
  · simp [CpuinfoTotals.facts, hcount]
  · simp [CpuinfoTotals.facts, hids, coreIds_eq_empty.2 hnone]
  · have hne : coreIds (cpu :: cpus) ≠ ∅ := by
      rw [ne_eq, coreIds_eq_empty]
      push Not
      exact hsome
    simp [CpuinfoTotals.facts, hids, hne]
  · simp [CpuinfoTotals.facts, hmodel]

/-- One of two threads of a core. -/
def smtCpu : Cpu where
  core := some
    (⟨"0".toList, by simp, rfl, by simp [isLineBreak]⟩,
      ⟨"1".toList, by simp, rfl, by simp [isLineBreak]⟩)
  model := ⟨"A: B".toList, by simp, rfl, by simp [isLineBreak]⟩

/-- Its block, with this line for the processor. -/
def smtLines (processor : Text) : List Text :=
  ["model name\t: A: B".toList, processor, "core id : 1".toList, "power management:".toList,
    "physical id : 0".toList]

theorem cpuLines_smt {number processor : Text} (hne : number ≠ [])
    (h : FieldLine "processor" number processor) : CpuLines smtCpu (smtLines processor) := by
  have hmodel : FieldLine "model name" "A: B".toList "model name\t: A: B".toList :=
    ⟨by simp [isLineBreak], "model name\t".toList, " A: B".toList, rfl, by decide, rfl, rfl⟩
  have hsocket : FieldLine "physical id" "0".toList "physical id : 0".toList :=
    ⟨by simp [isLineBreak], "physical id ".toList, " 0".toList, rfl, by decide, rfl, rfl⟩
  have hcore : FieldLine "core id" "1".toList "core id : 1".toList :=
    ⟨by simp [isLineBreak], "core id ".toList, " 1".toList, rfl, by decide, rfl, rfl⟩
  have hpadding : Padding "power management:".toList := by
    have hline : Line "power management:".toList :=
      ⟨⟨'p', by decide, rfl⟩, by simp [isLineBreak]⟩
    refine ⟨hline, fun before after hline hbefore => ?_⟩
    have hsplit : partition ':' "power management:".toList = ("power management".toList, some []) :=
      rfl
    rw [hline, partition_append hbefore] at hsplit
    cases hsplit
    decide +kernel
  refine .intro ?_ hne h hmodel (.some hsocket hcore) (List.forall_mem_singleton.2 hpadding)
  exact (List.Perm.swap _ _ _).trans (.cons _ (.cons _
    (List.perm_append_comm : (["core id : 1".toList, "power management:".toList] ++
      ["physical id : 0".toList]).Perm _)))

/-- Both threads, with two blank lines in between. -/
def smtText : Text :=
  joinLines (smtLines "processor\t: 0".toList) ++ '\n' :: (" \n".toList ++ '\n' ::
    joinLines (smtLines "processor\t: 1".toList))

theorem topology_recovered_smt :
    (parseCpuinfo ([] ++ smtText ++ ['\n'])).logicalCores = some 2 ∧
      (parseCpuinfo ([] ++ smtText ++ ['\n'])).cpuModel = some "A: B".toList := by
  have hfirst : FieldLine "processor" "0".toList "processor\t: 0".toList :=
    ⟨by simp [isLineBreak], "processor\t".toList, " 0".toList, rfl, by decide, rfl, rfl⟩
  have hsecond : FieldLine "processor" "1".toList "processor\t: 1".toList :=
    ⟨by simp [isLineBreak], "processor\t".toList, " 1".toList, rfl, by decide, rfl, rfl⟩
  have h := topology_recovered smtCpu [smtCpu]
    [smtLines "processor\t: 0".toList, smtLines "processor\t: 1".toList] smtText [] ['\n']
    (.cons (cpuLines_smt (by simp) hfirst) (.cons (cpuLines_smt (by simp) hsecond) .nil))
    (.cons _ _ (by simp [isspace]) (.single _)) (by simp) (by simp [isspace])
  exact ⟨h.1, h.2.2.2.2⟩

end SweatMeter
