/-
  Scripted readers replay in step.

  The seven cursors of the host script and the one of the GPU script follow the
  calls made (`InStep`).  A completed `_snapshot` makes each live call once and
  `machine_profile` makes the one for the static facts, so the `i`-th snapshot
  shows row `i` and the `j`-th profile uses the facts of row `j`.  A snapshot
  whose normalization raises is lost, and its later calls are not made.
-/
import Mathlib.Tactic.NormNum
import SweatMeter.Identity
import SweatMeter.Isolation
import SweatMeter.Outlives
import SweatMeter.Scripted

namespace SweatMeter

open Py Py.Stateful

/-! ## The script -/

/-- A host script, a GPU script and the host operation injected to fail. -/
structure Script where
  rows : List HostReading
  steps : List (List (GpuSample Number))
  fail : Option HostOperation := none

/-- The operation that feeds a live field. -/
def HostField.operation : HostField → HostOperation
  | cpuPercent => .cpuPercent
  | loadAverage1m => .loadAverage1m
  | ramUsedBytes | ramAvailableBytes | ramTotalBytes => .memory
  | cpuTemperatureC => .cpuTemperature
  | diskReadBytesPerSec | diskWriteBytesPerSec => .diskThroughput
  | processRssBytes => .processRssBytes

/-- The value a row has for a live field. -/
def HostReading.value (row : HostReading) : HostField → Measurement Number
  | .cpuPercent => row.cpuPercent
  | .loadAverage1m => row.loadAverage1m
  | .ramUsedBytes => row.memory.usedBytes
  | .ramAvailableBytes => row.memory.availableBytes
  | .ramTotalBytes => row.memory.totalBytes
  | .cpuTemperatureC => row.cpuTemperatureC
  | .diskReadBytesPerSec => row.diskThroughput.readBytesPerSec
  | .diskWriteBytesPerSec => row.diskThroughput.writeBytesPerSec
  | .processRssBytes => row.processRssBytes

/-- The numbers of the row are finite and in the range of their field. -/
def HostReading.WithinRange (row : HostReading) : Prop :=
  ∀ f x, row.value f = some x → ∃ q, x.toRat = some q ∧ f.minimum ≤ q ∧ ∀ m ∈ f.maximum, q ≤ m

namespace Script

variable (S : Script)

/-- The scripted host reader, wrapped if an operation is to fail. -/
def hostReader : HostReaderObject Cursors :=
  match S.fail with
  | none => ScriptedHostReader.reader S.rows
  | some fail => FaultInjectingReader.reader (ScriptedHostReader.reader S.rows) fail

/-- The row an operation returns at its `i`-th call, if it does not raise. -/
def row (operation : HostOperation) (i : ℕ) : Option HostReading :=
  if S.fail = some operation then none else S.rows[i]?

/-- The GPU samples of step `i`, none past the script. -/
def step (i : ℕ) : List (GpuSample Number) := (S.steps[i]?).getD []

/-- The `i`-th snapshot: each host field has the value of row `i`, or is
    unsupported because its operation raised; the GPUs are those of step `i`. -/
structure ShowsRow (i : ℕ) (x : TelemetrySnapshot Number) : Prop where
  host : ∀ f row, S.row f.operation i = some row → x.host f = row.value f
  failed : ∀ f : HostField, S.row f.operation i = none →
    x.host f = none ∧ x.unavailableReasons[f.name]? = some "reader_error"
  gpus : ∃ r, normalizeGpuSamples ((S.step i).map fun g => some g.row) ∅ = .ok (x.gpus, r)

/-- The static facts of row `j`, or the empty ones if the operation raises. -/
def facts (j : ℕ) : HostFacts :=
  match S.row .staticFacts j with
  | some row => row.staticFacts
  | none => emptyFacts

/-- The `j`-th profile, with the diagnostics after it: its facts are those of row
    `j`, or none because the operation raised. -/
structure UsesFacts {F : Type} (j : ℕ) (p : MachineProfile F) (reasons : Dict String) : Prop where
  text : ∀ f, p.text f = profileText ((S.facts j).text f)
  number : ∀ f, p.number f = numberOf ((S.facts j).number f)
  storage : p.storage = (S.facts j).storage.getD []
  failed : S.row .staticFacts j = none → ∀ key ∈ factFields, reasons[key]? = some "reader_error"

/-- The facts of row `j` are read, and all of them are normalized to "unsupported". -/
structure BlankFacts (j : ℕ) : Prop where
  row : S.row .staticFacts j ≠ none
  text : ∀ f, profileText ((S.facts j).text f) = none
  number : ∀ f, numberOf ((S.facts j).number f) = none
  storage : (S.facts j).storage.getD [] = []

/-- The integers of row `i` and step `i` that are normalized fit a double, and
    the indices print. -/
structure Fits (i : ℕ) : Prop where
  host : ∀ f row, S.row f.operation i = some row → Py.Fits (measured (row.value f))
  gpus : RowsNormalizable ((S.step i).map fun g => some g.row)

/-! ## One operation -/

/-- An operation of the script: `f` of its next row. -/
def operation {T : Type} (operation : HostOperation) (f : HostReading → T) :
    EStateM Exn Cursors T :=
  match S.fail with
  | none => do return f (← ScriptedHostReader.next S.rows operation)
  | some fail => FaultInjectingReader.call fail operation do
      return f (← ScriptedHostReader.next S.rows operation)

/-- What an operation does at its `i`-th call. -/
def outcomeAt {T : Type} (operation : HostOperation) (i : ℕ) (f : HostReading → T) : Except Exn T :=
  if S.fail = some operation then .error ⟨"RuntimeError"⟩
  else match S.rows[i]? with
    | none => .error ⟨"IndexError"⟩
    | some row => .ok (f row)

theorem outcomeAt_eq {T : Type} (op : HostOperation) (i : ℕ) (f : HostReading → T) :
    (∃ row, S.row op i = some row ∧ S.outcomeAt op i f = .ok (f row)) ∨
      S.row op i = none ∧ ∃ e, S.outcomeAt op i f = .error e := by
  unfold row outcomeAt
  split_ifs
  · exact Or.inr ⟨rfl, _, rfl⟩
  · cases S.rows[i]? with
    | none => exact Or.inr ⟨rfl, _, rfl⟩
    | some row => exact Or.inl ⟨row, rfl, rfl⟩

/-- The cursor of an operation after `k` calls; that of a failing one never moves. -/
def At (operation : HostOperation) (k : ℕ) (s : Cursors) : Prop :=
  S.fail ≠ some operation → s.host operation = min k S.rows.length

/-- The cursors after `n op` calls of each operation and `m` of `sample`. -/
structure InStep (n : HostOperation → ℕ) (m : ℕ) (s : Cursors) : Prop where
  host : ∀ op, S.At op (n op) s
  gpu : s.gpu = min m S.steps.length

end Script

theorem getElem?_min_length {α : Type} (l : List α) (n : ℕ) : l[min n l.length]? = l[n]? := by
  rcases Nat.le_total n l.length with h | h
  · rw [Nat.min_eq_left h]
  · rw [Nat.min_eq_right h, List.getElem?_eq_none h, List.getElem?_eq_none le_rfl]

namespace Script

variable {S : Script} {n : HostOperation → ℕ} {m : ℕ} {s : Cursors}

theorem operation_injected {T : Type} {op : HostOperation} (h : S.fail = some op)
    (f : HostReading → T) : S.operation op f = throw ⟨"RuntimeError"⟩ := by
  simp only [Script.operation, h, FaultInjectingReader.call, ↓reduceIte]

theorem operation_next {T : Type} {op : HostOperation} (h : S.fail ≠ some op)
    (f : HostReading → T) :
    S.operation op f = (do return f (← ScriptedHostReader.next S.rows op)) := by
  unfold Script.operation
  cases hfail : S.fail with
  | none => rfl
  | some fail => exact if_neg fun heq => h (by rw [hfail, heq])

theorem outcome_next {T : Type} (op : HostOperation) (f : HostReading → T) (s : Cursors) :
    outcome (do return f (← ScriptedHostReader.next S.rows op)) s =
      match S.rows[s.host op]? with
      | none => (.error ⟨"IndexError"⟩, s)
      | some row => (.ok (f row), { s with host := Function.update s.host op (s.host op + 1) }) := by
  show outcome (EStateM.bind _ _) s = _
  unfold outcome EStateM.bind ScriptedHostReader.next
  dsimp only
  cases S.rows[s.host op]? <;> rfl

/-- A call does what the script says for its count, and advances the cursor. -/
theorem At.operation {T : Type} {op : HostOperation} {k : ℕ} (h : S.At op k s)
    (f : HostReading → T) : (outcome (S.operation op f) s).1 = S.outcomeAt op k f ∧
      S.At op (k + 1) (outcome (S.operation op f) s).2 := by
  by_cases hfail : S.fail = some op
  · rw [operation_injected hfail, outcomeAt, if_pos hfail]
    exact ⟨rfl, fun hop => absurd hfail hop⟩
  · rw [operation_next hfail, outcome_next, outcomeAt, if_neg hfail, h hfail, getElem?_min_length]
    cases hrow : S.rows[k]? with
    | none =>
      have hlen := List.getElem?_eq_none_iff.1 hrow
      refine ⟨rfl, ?_⟩
      intro hop
      rw [h hop]
      omega
    | some row =>
      obtain ⟨hlen, -⟩ := List.getElem?_eq_some_iff.1 hrow
      refine ⟨rfl, ?_⟩
      intro _
      simp only [Function.update_self]
      omega

/-- A call leaves the cursors of the other operations. -/
theorem preserves_operation {T : Type} {op other : HostOperation} (h : other ≠ op)
    (f : HostReading → T) : Preserves (fun s => s.host other) (S.operation op f) := by
  intro s
  by_cases hfail : S.fail = some op
  · rw [operation_injected hfail]
    rfl
  · rw [operation_next hfail, outcome_next]
    split
    · rfl
    · exact Function.update_of_ne h _ _

theorem preserves_operation_gpu {T : Type} (op : HostOperation) (f : HostReading → T) :
    Preserves (fun s => s.gpu) (S.operation op f) := by
  intro s
  by_cases hfail : S.fail = some op
  · rw [operation_injected hfail]
    rfl
  · rw [operation_next hfail, outcome_next]
    split <;> rfl

theorem InStep.congr (h : S.InStep n m s) {n' : HostOperation → ℕ} (hn : ∀ op, n op = n' op) :
    S.InStep n' m s :=
  ⟨fun op => by rw [← hn op]; exact h.host op, h.gpu⟩

theorem InStep.operation {T : Type} (h : S.InStep n m s) (op : HostOperation)
    (f : HostReading → T) :
    (outcome (S.operation op f) s).1 = S.outcomeAt op (n op) f ∧
      S.InStep (Function.update n op (n op + 1)) m (outcome (S.operation op f) s).2 := by
  obtain ⟨houtcome, hat⟩ := (h.host op).operation f
  refine ⟨houtcome, ?_, (preserves_operation_gpu op f s).trans h.gpu⟩
  intro other
  rcases eq_or_ne other op with rfl | hne
  · rw [Function.update_self]
    exact hat
  · rw [Function.update_of_ne hne]
    intro hother
    exact (preserves_operation hne f s).trans (h.host other hother)

variable {F : Type} (core : BaseAiCore F)

/-- What `sample` does at its `i`-th call. -/
def sampleAt (S : Script) (i : ℕ) : Except Exn (List (Option GpuRow)) :=
  match S.steps[i]? with
  | none => .error ⟨"IndexError"⟩
  | some step => .ok (step.map fun g => some g.row)

/-- `sample` advances its cursor. -/
theorem InStep.sample (h : S.InStep n m s) :
    (outcome (ScriptedGpuReader.sample S.steps) s).1 = S.sampleAt m ∧
      S.InStep n (m + 1) (outcome (ScriptedGpuReader.sample S.steps) s).2 := by
  have hgpu := h.gpu
  unfold outcome ScriptedGpuReader.sample sampleAt
  rw [hgpu, getElem?_min_length]
  cases hstep : S.steps[m]? with
  | none =>
    have hlen := List.getElem?_eq_none_iff.1 hstep
    exact ⟨rfl, h.host, by simp only [hgpu]; omega⟩
  | some step =>
    obtain ⟨hlen, -⟩ := List.getElem?_eq_some_iff.1 hstep
    exact ⟨rfl, h.host, by simp only; omega⟩

theorem readValue_sampleAt (i : ℕ) :
    readValue (S.sampleAt i) [] = (S.step i).map fun g => some g.row := by
  unfold sampleAt Script.step
  cases S.steps[i]? <;> rfl

/-! ## One snapshot -/

/-- The readers report nothing of their own: a wrapper without a reporter to
    delegate to answers with an empty mapping. -/
def reasons (S : Script) : ReasonSurface :=
  match S.fail with
  | none => .absent
  | some _ => .mapping (.ok [])

theorem silent_reasons : S.reasons.Silent := by
  unfold reasons
  cases S.fail <;> rfl

/-- What the `i`-th snapshot meets. -/
def boundary (S : Script) (i : ℕ) (clocks : Clocks) : Boundary where
  clocks := clocks
  host := {
    cpuPercent := S.outcomeAt .cpuPercent i fun row => measured row.cpuPercent
    loadAverage1m := S.outcomeAt .loadAverage1m i fun row => measured row.loadAverage1m
    memory := S.outcomeAt .memory i fun row => some row.memory.attributes
    cpuTemperature := S.outcomeAt .cpuTemperature i fun row => measured row.cpuTemperatureC
    diskThroughput := S.outcomeAt .diskThroughput i fun row => some row.diskThroughput.attributes
    processRssBytes := S.outcomeAt .processRssBytes i fun row => measured row.processRssBytes
    unavailableReasons := S.reasons }
  gpu := { sample := S.sampleAt i, unavailableReasons := .absent }

/-- The calls made so far: `i` of each live operation and `j` for the static facts. -/
def callsMade (i j : ℕ) : HostOperation → ℕ
  | .staticFacts => j
  | _ => i

theorem hostReader_eq : S.hostReader = {
    cpuPercent := S.operation .cpuPercent fun row => measured row.cpuPercent
    loadAverage1m := S.operation .loadAverage1m fun row => measured row.loadAverage1m
    memory := S.operation .memory fun row => some row.memory.attributes
    cpuTemperature := S.operation .cpuTemperature fun row => measured row.cpuTemperatureC
    diskThroughput := S.operation .diskThroughput fun row => some row.diskThroughput.attributes
    processRssBytes := S.operation .processRssBytes fun row => measured row.processRssBytes
    staticFacts := S.operation .staticFacts fun row => some row.staticFacts
    unavailableReasons := fun _ => S.reasons } := by
  unfold hostReader Script.operation reasons
  cases S.fail <;> rfl

/-- The calls of `_snapshot` meet row `i` and step `i`, and the next ones those after them. -/
theorem InStep.observe {i j : ℕ} (h : S.InStep (callsMade i j) i s) (clocks : Clocks) :
    (observe S.hostReader (ScriptedGpuReader.reader core S.steps) clocks s).1 = S.boundary i clocks ∧
      S.InStep (callsMade (i + 1) j) (i + 1)
        (observe S.hostReader (ScriptedGpuReader.reader core S.steps) clocks s).2 := by
  rw [hostReader_eq]
  obtain ⟨h1, h⟩ := h.operation .cpuPercent fun row => measured row.cpuPercent
  obtain ⟨h2, h⟩ := h.operation .loadAverage1m fun row => measured row.loadAverage1m
  obtain ⟨h3, h⟩ := h.operation .memory fun row => some row.memory.attributes
  obtain ⟨h4, h⟩ := h.operation .cpuTemperature fun row => measured row.cpuTemperatureC
  obtain ⟨h5, h⟩ := h.operation .diskThroughput fun row => some row.diskThroughput.attributes
  obtain ⟨h6, h⟩ := h.operation .processRssBytes fun row => measured row.processRssBytes
  obtain ⟨h7, h⟩ := h.sample
  constructor
  · simp only [SweatMeter.observe, ScriptedGpuReader.reader, h1, h2, h3, h4, h5, h6, h7]
    rfl
  · refine h.congr ?_
    intro op
    cases op <;> rfl

theorem readValue_outcomeAt {T : Type} (op : HostOperation) (i : ℕ) (f : HostReading → T) (d : T) :
    readValue (S.outcomeAt op i f) d = ((S.row op i).map f).getD d := by
  rcases S.outcomeAt_eq op i f with ⟨row, hrow, h⟩ | ⟨hrow, e, h⟩ <;> rw [hrow, h] <;> rfl

/-- The values `_snapshot` normalizes are those of row `i`. -/
theorem value_boundary (i : ℕ) (clocks : Clocks) (f : HostField) :
    (S.boundary i clocks).host.value f =
      .ok (measured ((S.row f.operation i).bind fun row => row.value f)) := by
  unfold HostReader.value
  cases f <;> simp only [boundary, readValue_outcomeAt, HostField.operation] <;>
    cases S.row _ i <;> rfl

/-- A failed operation is noted under the fields it feeds. -/
theorem note_boundary {i : ℕ} {f : HostField} (h : S.row f.operation i = none) (clocks : Clocks) :
    (boundaryNotes (S.boundary i clocks))[f.name]? = some "reader_error" := by
  have hnote {T : Type} (op : HostOperation) (g : HostReading → T) (fields : List String)
      (r : Dict String) (key : String) : (readNote (S.outcomeAt op i g) fields r)[key]? =
        if S.row op i = none ∧ key ∈ fields then some "reader_error" else r[key]? := by
    rw [getElem?_readNote]
    rcases S.outcomeAt_eq op i g with ⟨row, hrow, hg⟩ | ⟨hrow, e, hg⟩ <;> simp [hrow, hg]
  have hsample (r : Dict String) : (readNote (S.sampleAt i) ["gpu"] r)[f.name]? = r[f.name]? := by
    rw [getElem?_readNote]
    cases S.sampleAt i with
    | ok vs => rfl
    | error e => cases f <;> rfl
  have hmemory (r : Dict String) (key : String) : (malformedNote (readValue
      (S.outcomeAt .memory i fun row => some row.memory.attributes) (some emptyMemory))
        memoryFields r)[key]? = r[key]? := by
    rw [readValue_outcomeAt]
    cases S.row .memory i <;> rfl
  have hdisk (r : Dict String) (key : String) : (malformedNote (readValue
      (S.outcomeAt .diskThroughput i fun row => some row.diskThroughput.attributes) (some emptyDisk))
        diskFields r)[key]? = r[key]? := by
    rw [readValue_outcomeAt]
    cases S.row .diskThroughput i <;> rfl
  simp only [boundaryNotes, boundary, hsample, hnote, hmemory, hdisk]
  cases f <;> simp only [HostField.operation] at h <;>
    simp [HostField.name, h, memoryFields, diskFields]

theorem number_measured {m : Measurement Number} {lo : ℚ} {hi : Option ℚ}
    (hrange : ∀ x, m = some x → ∃ q, x.toRat = some q ∧ lo ≤ q ∧ ∀ b ∈ hi, q ≤ b)
    (hfits : Py.Fits (measured m)) : number (measured m) lo hi = .ok m := by
  cases m with
  | none => rfl
  | some x =>
    obtain ⟨q, hq, hlo, hhi⟩ := hrange x rfl
    exact number_num hq hlo hhi hfits

theorem tolerated_boundary (i : ℕ) (clocks : Clocks) :
    Tolerated (S.boundary i clocks) ↔ S.Fits i := by
  have hrows : (S.boundary i clocks).gpu.rows = (S.step i).map fun g => some g.row :=
    readValue_sampleAt i
  constructor
  · intro h
    refine ⟨?_, hrows ▸ h.gpus⟩
    intro f row hrow
    obtain ⟨v, hv, hfits⟩ := h.host f
    rw [value_boundary, hrow] at hv
    cases hv
    exact hfits
  · intro h
    refine ⟨?_, hrows ▸ h.gpus, returns_readerReasons.1 ⟨_, silent_reasons⟩, by rintro _ ⟨⟩⟩
    intro f
    refine ⟨_, value_boundary i clocks f, ?_⟩
    cases hrow : S.row f.operation i with
    | none => trivial
    | some row => exact h.host f row hrow

theorem row_mem {op : HostOperation} {i : ℕ} {row : HostReading} (h : S.row op i = some row) :
    row ∈ S.rows := by
  unfold Script.row at h
  split_ifs at h
  exact List.mem_of_getElem? h

/-- A snapshot that is collected shows row `i`. -/
theorem showsRow_of_collect (hrange : ∀ row ∈ S.rows, row.WithinRange) {i : ℕ} {clocks : Clocks}
    {x : TelemetrySnapshot Number} (hfits : S.Fits i) (h : collect (S.boundary i clocks) = .ok x) :
    S.ShowsRow i x := by
  have hx := collect_ok h
  refine ⟨?_, ?_, ?_⟩
  · intro f row hrow
    have hf := hx.host f
    rw [HostReader.measurement, value_boundary, hrow, ok_bind, Option.bind_some,
      number_measured (hrange row (row_mem hrow) f) (hfits.host f row hrow)] at hf
    exact (Except.ok.inj hf).symm
  · intro f hrow
    have hf := hx.host f
    rw [HostReader.measurement, value_boundary, hrow] at hf
    exact ⟨(Except.ok.inj hf).symm, collect_reason h silent_reasons rfl (note_boundary hrow clocks)⟩
  · obtain ⟨n, hn, hgpus⟩ := hx.gpus
    refine normalizeGpuSamples_ok.2 ⟨n, ?_, hgpus⟩
    rw [← readValue_sampleAt]
    exact hn

/-- The `i`-th snapshot shows row `i` exactly if the values of row and step fit. -/
theorem showsRow_iff (hrange : ∀ row ∈ S.rows, row.WithinRange) (c : TelemetryCollector) (i : ℕ)
    (clocks : Clocks) : S.ShowsRow i (c.snapshot (S.boundary i clocks)).1 ↔ S.Fits i := by
  constructor
  · intro h
    by_contra hnot
    rw [emergency_of_not_tolerated c (fun htol => hnot ((tolerated_boundary i clocks).1 htol))] at h
    refine hnot ⟨?_, ?_⟩
    · intro f row hrow
      rw [← h.host f row hrow]
      trivial
    · obtain ⟨n, hn, -⟩ := normalizeGpuSamples_ok.1 h.gpus
      exact exists_loop.1 ⟨n, hn⟩
  · intro h
    obtain ⟨x, hx⟩ := returns_collect.2 ((tolerated_boundary i clocks).2 h)
    have hsnapshot : (c.snapshot (S.boundary i clocks)).1 = x := by
      simp [TelemetryCollector.snapshot, hx]
    rw [hsnapshot]
    exact showsRow_of_collect hrange h hx

/-! ## One profile -/

/-- What the `j`-th `machine_profile` meets. -/
def profileBoundary (S : Script) (j : ℕ) (clocks : Clocks) : ProfileBoundary where
  clocks := clocks
  staticFacts := S.outcomeAt .staticFacts j fun row => some row.staticFacts
  hostReasons := S.reasons
  staticInfo := ScriptedGpuReader.staticInfo core S.steps
  gpuReasons := .absent

theorem At.observeProfile {j : ℕ} (h : S.At .staticFacts j s) (clocks : Clocks) :
    (observeProfile S.hostReader (ScriptedGpuReader.reader core S.steps) clocks s).1 =
        S.profileBoundary core j clocks ∧
      S.At .staticFacts (j + 1)
        (observeProfile S.hostReader (ScriptedGpuReader.reader core S.steps) clocks s).2 := by
  rw [hostReader_eq]
  obtain ⟨h1, h⟩ := h.operation fun row => some row.staticFacts
  simp only [SweatMeter.observeProfile, ScriptedGpuReader.reader, h1, outcome_lift]
  exact ⟨rfl, h⟩

/-- `machine_profile` leaves the cursors of the live operations and of `sample`. -/
theorem InStep.observeProfile {i j : ℕ} (h : S.InStep (callsMade i j) i s) (clocks : Clocks) :
    S.InStep (callsMade i (j + 1)) i
      (observeProfile S.hostReader (ScriptedGpuReader.reader core S.steps) clocks s).2 := by
  rw [hostReader_eq]
  obtain ⟨-, h⟩ := h.operation .staticFacts fun row => some row.staticFacts
  simp only [SweatMeter.observeProfile, ScriptedGpuReader.reader, outcome_lift]
  refine h.congr ?_
  intro op
  cases op <;> rfl

/-- `snapshot` leaves the cursor of the static facts, also when it is abandoned. -/
theorem preserves_snapshotBody (clocks : Clocks) : Preserves (fun s => s.host .staticFacts)
    (snapshotBody S.hostReader (ScriptedGpuReader.reader core S.steps) clocks) := by
  have hsample : Preserves (fun s => s.host .staticFacts) (ScriptedGpuReader.sample S.steps) := by
    intro s
    unfold outcome ScriptedGpuReader.sample
    cases S.steps[s.gpu]? <;> rfl
  have hop {T : Type} (op : HostOperation) (hne : .staticFacts ≠ op) (f : HostReading → T) (d : T)
      (fields : List String) (r : Dict String) : Preserves (fun s => s.host .staticFacts)
        (readCall (S.operation op f) d fields r) :=
      preserves_readCall (preserves_operation hne f) d fields r
  rw [hostReader_eq]
  unfold snapshotBody
  refine (hop .cpuPercent (by decide) _ _ _ _).bind ?_
  rintro ⟨_, _⟩
  refine (Preserves.lift _).bind fun _ => ?_
  refine (hop .loadAverage1m (by decide) _ _ _ _).bind ?_
  rintro ⟨_, _⟩
  refine (Preserves.lift _).bind fun _ => ?_
  refine (hop .memory (by decide) _ _ _ _).bind ?_
  rintro ⟨_, _⟩
  refine (hop .cpuTemperature (by decide) _ _ _ _).bind ?_
  rintro ⟨_, _⟩
  refine (Preserves.lift _).bind fun _ => ?_
  refine (hop .diskThroughput (by decide) _ _ _ _).bind ?_
  rintro ⟨_, _⟩
  refine (hop .processRssBytes (by decide) _ _ _ _).bind ?_
  rintro ⟨_, _⟩
  refine (Preserves.lift _).bind fun _ => ?_
  refine (preserves_readCall hsample _ _ _).bind ?_
  rintro ⟨_, _⟩
  refine (Preserves.lift _).bind ?_
  rintro ⟨_, _⟩
  refine (Preserves.lift _).bind fun _ => ?_
  refine (Preserves.lift _).bind fun _ => ?_
  refine (Preserves.lift _).bind fun _ => ?_
  refine (Preserves.lift _).bind fun _ => ?_
  refine (Preserves.lift _).bind fun _ => ?_
  refine (Preserves.lift _).bind fun _ => ?_
  refine (Preserves.lift _).bind fun _ => ?_
  refine (Preserves.lift _).bind fun _ => ?_
  refine (Preserves.lift _).bind fun _ => ?_
  refine (Preserves.lift _).bind fun _ => ?_
  refine Preserves.get.bind fun _ => ?_
  refine (Preserves.lift _).bind fun _ => ?_
  refine (Preserves.lift _).bind fun _ => ?_
  exact Preserves.pure _

theorem facts_profileBoundary (j : ℕ) (clocks : Clocks) :
    (S.profileBoundary core j clocks).facts = S.facts j := by
  rw [ProfileBoundary.facts, profileBoundary, readValue_outcomeAt, Script.facts]
  cases S.row .staticFacts j <;> rfl

theorem not_isGpuKey_fact {key : String} (h : key ∈ factFields) :
    ¬ IsGpuKey key ∧ key ≠ "timestamp" := by
  simp only [factFields, List.mem_cons, List.not_mem_nil, or_false] at h
  rcases h with rfl | rfl | rfl | rfl | rfl | rfl | rfl | rfl | rfl | rfl | rfl <;>
    exact ⟨by rintro (h | h) <;> exact absurd h (by decide), by decide⟩

/-- A failed read of the static facts is noted under each of them. -/
theorem readNotes_profileBoundary {j : ℕ} (hrow : S.row .staticFacts j = none) (clocks : Clocks)
    {key : String} (hkey : key ∈ factFields) :
    (S.profileBoundary core j clocks).readNotes[key]? = some "reader_error" := by
  rcases S.outcomeAt_eq .staticFacts j fun row => some row.staticFacts with ⟨row, h, -⟩ | ⟨-, e, he⟩
  · rw [hrow] at h
    cases h
  · have hread : (readNote (.error e : Except Exn (Option HostFacts)) factFields ∅)[key]? =
        some "reader_error" := by
      rw [getElem?_readNote]
      exact if_pos hkey
    simp only [ProfileBoundary.readNotes, profileBoundary, he]
    rw [getElem?_readNote]
    cases ScriptedGpuReader.staticInfo core S.steps with
    | ok values => exact hread
    | error e' =>
      have hgpu : key ∉ ["gpu"] := by
        intro hmem
        exact (not_isGpuKey_fact hkey).1 (Or.inl (List.mem_singleton.1 hmem))
      simp only [if_neg hgpu]
      exact hread

/-- A profile that is assembled uses the facts of row `j`. -/
theorem usesFacts {j : ℕ} {clocks : Clocks} (h : Assembles core (S.profileBoundary core j clocks))
    (c : TelemetryCollector) :
    ∃ p, (c.machineProfile core (S.profileBoundary core j clocks)).1 = .ok p ∧
      S.UsesFacts j p
        (c.machineProfile core (S.profileBoundary core j clocks)).2.unavailableReasons := by
  obtain ⟨⟨p, r⟩, hok⟩ := returns_assemble.2 h
  obtain ⟨-, ⟨fingerprint, -, rfl⟩, -⟩ := assemble_ok.1 hok
  have hfacts := facts_profileBoundary (S := S) core j clocks
  rw [TelemetryCollector.machineProfile, hok]
  refine ⟨_, rfl, ?_, ?_, ?_, ?_⟩
  · intro f
    rw [← hfacts]
    rfl
  · intro f
    rw [← hfacts]
    rfl
  · rw [← hfacts]
    rfl
  · intro hrow key hkey
    obtain ⟨hnotGpu, hnotTime⟩ := not_isGpuKey_fact hkey
    exact assemble_reason hok silent_reasons rfl hnotGpu hnotTime
      (readNotes_profileBoundary core hrow clocks hkey)

/-- The emergency profile uses the facts of row `j` only if these are blank. -/
theorem usesFacts_emergency {j : ℕ} {clocks : Clocks} {p : MachineProfile F}
    (h : emergencyProfile core clocks = .ok p) :
    S.UsesFacts j p collectorError ↔ S.BlankFacts j := by
  obtain ⟨fingerprint, -, h⟩ := bind_eq_ok.1 h
  obtain ⟨-, -, h⟩ := bind_eq_ok.1 h
  cases pure_eq_ok.1 h
  have hreason : collectorError["hostname"]? = none := by decide
  constructor
  · intro huses
    refine ⟨fun hrow => ?_, fun f => (huses.text f).symm, fun f => (huses.number f).symm,
      huses.storage.symm⟩
    have hfailed := huses.failed hrow "hostname" (by decide)
    rw [hreason] at hfailed
    cases hfailed
  · intro hblank
    exact ⟨fun f => (hblank.text f).symm, fun f => (hblank.number f).symm, hblank.storage.symm,
      fun hrow => absurd hrow hblank.row⟩

/-- The `j`-th profile uses the facts of row `j` exactly if it is assembled, or is the emergency
    profile of a row of blank facts. -/
theorem usesFacts_iff {j : ℕ} {clocks : Clocks} (c : TelemetryCollector) :
    (∃ p, (c.machineProfile core (S.profileBoundary core j clocks)).1 = .ok p ∧
      S.UsesFacts j p
        (c.machineProfile core (S.profileBoundary core j clocks)).2.unavailableReasons) ↔
      Assembles core (S.profileBoundary core j clocks) ∨
        S.BlankFacts j ∧ Returns (emergencyProfile core clocks) := by
  by_cases hassembles : Assembles core (S.profileBoundary core j clocks)
  · exact iff_of_true (usesFacts core hassembles c) (.inl hassembles)
  · have hprofile : c.machineProfile core (S.profileBoundary core j clocks) =
        (emergencyProfile core clocks, ⟨collectorError⟩) := by
      cases hok : assemble core (S.profileBoundary core j clocks) with
      | ok a => exact absurd (returns_assemble.1 ⟨a, hok⟩) hassembles
      | error e => simp only [TelemetryCollector.machineProfile, hok]; rfl
    rw [hprofile, or_iff_right hassembles]
    constructor
    · rintro ⟨p, hp, huses⟩
      exact ⟨(usesFacts_emergency core hp).1 huses, p, hp⟩
    · rintro ⟨hblank, p, hp⟩
      exact ⟨p, hp, (usesFacts_emergency core hp).2 hblank⟩

/-! ## Runs -/

/-- The answers of a collector over the scripted readers, from the first row on. -/
def replay (S : Script) (calls : List CollectorCall) : List (Answer F × Dict String) :=
  Session.run S.hostReader (ScriptedGpuReader.reader core S.steps) core { state := {} } calls

end Script

section

variable {α : Type} {P : ℕ → α → Prop} {Q : ℕ → Prop}

theorem forall_getElem?_cons {a : α} {l : List α} {i : ℕ} :
    (∀ k x, (a :: l)[k]? = some x → P (i + k) x) ↔
      P i a ∧ ∀ k x, l[k]? = some x → P (i + 1 + k) x := by
  constructor
  · intro h
    refine ⟨h 0 a rfl, ?_⟩
    intro k x hx
    rw [Nat.add_right_comm]
    exact h (k + 1) x hx
  · rintro ⟨ha, hl⟩ k x hx
    cases k with
    | zero => cases hx; exact ha
    | succ k =>
      have := hl k x hx
      rwa [Nat.add_right_comm] at this

theorem forall_lt_succ {n i : ℕ} :
    (∀ k < n + 1, Q (i + k)) ↔ Q i ∧ ∀ k < n, Q (i + 1 + k) := by
  constructor
  · intro h
    refine ⟨h 0 (Nat.succ_pos n), ?_⟩
    intro k hk
    rw [Nat.add_right_comm]
    exact h (k + 1) (Nat.succ_lt_succ hk)
  · rintro ⟨hi, hn⟩ k hk
    cases k with
    | zero => exact hi
    | succ k =>
      have := hn k (Nat.lt_of_succ_lt_succ hk)
      rwa [Nat.add_right_comm] at this

end

namespace Script

variable {S : Script} {F : Type} (core : BaseAiCore F)

theorem InStep.initial : S.InStep (callsMade 0 0) 0 {} := by
  refine ⟨?_, (Nat.zero_min _).symm⟩
  intro op _
  cases op <;> exact (Nat.zero_min _).symm

/-- The snapshots of a run from row `i` on. -/
theorem snapshots_run (hrange : ∀ row ∈ S.rows, row.WithinRange) {i j : ℕ} {t : Session Cursors}
    (h : S.InStep (callsMade i j) i t.state) (calls : List CollectorCall) :
    (∀ k x, (snapshots (t.run S.hostReader (ScriptedGpuReader.reader core S.steps) core calls))[k]? =
        some x → S.ShowsRow (i + k) x) ↔
      ∀ k < (snapshots
          (t.run S.hostReader (ScriptedGpuReader.reader core S.steps) core calls)).length,
        S.Fits (i + k) := by
  induction calls generalizing i j t with
  | nil => exact iff_of_true (by rintro k x ⟨⟩) (by rintro k ⟨⟩)
  | cons call calls ih =>
    cases call with
    | snapshot clocks =>
      obtain ⟨hboundary, hnext⟩ := h.observe core clocks
      have hfst := t.snapshot_fst S.hostReader (ScriptedGpuReader.reader core S.steps) clocks
      rw [hboundary] at hfst
      have hshows : S.ShowsRow i (t.snapshot S.hostReader
          (ScriptedGpuReader.reader core S.steps) clocks).1 ↔ S.Fits i := by
        rw [hfst]
        exact showsRow_iff hrange t.collector i clocks
      show (∀ k x, (_ :: snapshots _)[k]? = some x → _) ↔ ∀ k < (_ :: snapshots _).length, _
      rw [forall_getElem?_cons, List.length_cons, forall_lt_succ]
      refine (and_congr_left' hshows).trans (and_congr_right ?_)
      intro hfits
      obtain ⟨x, hx⟩ := returns_collect.2 ((tolerated_boundary i clocks).2 hfits)
      rw [← hboundary] at hx
      rw [← t.snapshot_state _ _ hx] at hnext
      exact ih hnext
    | machineProfile clocks =>
      have hnext := h.observeProfile core clocks
      have hsession := t.machineProfile_eq S.hostReader (ScriptedGpuReader.reader core S.steps) core
        clocks
      refine ih (j := j + 1) ?_
      show S.InStep _ _ (t.machineProfile S.hostReader _ core clocks).2.state
      rw [hsession]
      exact hnext

/-- The profiles of a run from row `j` on, whatever becomes of the snapshots. -/
theorem profiles_run {j : ℕ} {t : Session Cursors} (h : S.At .staticFacts j t.state)
    (calls : List CollectorCall) {k : ℕ} {clocks : Clocks}
    (hk : (profileClocks calls)[k]? = some clocks) :
    ∃ c : TelemetryCollector, (profiles
        (t.run S.hostReader (ScriptedGpuReader.reader core S.steps) core calls))[k]? =
      some ((c.machineProfile core (S.profileBoundary core (j + k) clocks)).1,
        (c.machineProfile core (S.profileBoundary core (j + k) clocks)).2.unavailableReasons) := by
  induction calls generalizing j t k with
  | nil => cases hk
  | cons call calls ih =>
    cases call with
    | snapshot clocks' =>
      refine ih ?_ hk
      intro hop
      show (t.snapshot S.hostReader _ clocks').2.state.host _ = _
      rw [Session.snapshot_state_eq, ← h hop]
      exact preserves_snapshotBody core clocks' t.state
    | machineProfile clocks' =>
      obtain ⟨hboundary, hnext⟩ := h.observeProfile core clocks'
      have hsession := t.machineProfile_eq S.hostReader (ScriptedGpuReader.reader core S.steps) core
        clocks'
      simp only [hboundary] at hsession
      have hstate : S.At .staticFacts (j + 1)
          (t.machineProfile S.hostReader (ScriptedGpuReader.reader core S.steps) core clocks').2.state := by
        rw [hsession]
        exact hnext
      cases k with
      | zero =>
        cases hk
        refine ⟨t.collector, ?_⟩
        show some ((t.machineProfile S.hostReader _ core clocks).1,
          (t.machineProfile S.hostReader _ core clocks).2.collector.unavailableReasons) = _
        rw [hsession]
        rfl
      | succ k =>
        have hrow : j + (k + 1) = j + 1 + k := by omega
        rw [hrow]
        exact ih hstate hk

/-- **Scripted replay stays in step.**  The `i`-th snapshot shows row `i` of the
    host script and step `i` of the GPU script, for every `i`, exactly if the
    values of these rows and steps fit; the `j`-th profile uses the facts of row
    `j` exactly if it is assembled, or the emergency profile is returned for a row
    of blank facts. -/
theorem replay_in_step (S : Script) (core : BaseAiCore F)
    (hrange : ∀ row ∈ S.rows, row.WithinRange) (calls : List CollectorCall) :
    ((∀ i x, (snapshots (S.replay core calls))[i]? = some x → S.ShowsRow i x) ↔
      ∀ i < (snapshots (S.replay core calls)).length, S.Fits i) ∧
    ∀ j clocks, (profileClocks calls)[j]? = some clocks →
      ((∃ p reasons, (profiles (S.replay core calls))[j]? = some (.ok p, reasons) ∧
        S.UsesFacts j p reasons) ↔
          Assembles core (S.profileBoundary core j clocks) ∨
            S.BlankFacts j ∧ Returns (emergencyProfile core clocks)) := by
  refine ⟨?_, ?_⟩
  · have := snapshots_run core hrange (InStep.initial (S := S)) calls
      (t := { state := {} })
    simp only [Nat.zero_add] at this
    exact this
  · intro j clocks hclocks
    obtain ⟨c, hc⟩ := profiles_run core ((InStep.initial (S := S)).host .staticFacts) calls hclocks
      (t := { state := {} })
    simp only [callsMade, Nat.zero_add] at hc
    rw [← usesFacts_iff core c, replay, hc]
    constructor
    · rintro ⟨p, reasons, heq, huses⟩
      obtain ⟨hp, rfl⟩ := Prod.mk.inj (Option.some.inj heq)
      exact ⟨p, hp, huses⟩
    · rintro ⟨p, hp, huses⟩
      exact ⟨p, _, by rw [hp], huses⟩

/-! ## Short scripts -/

/-- Clocks at the epoch. -/
def epochClocks : Clocks := ⟨.ok (some fallbackInstant), .ok none, .ok none, .ok⟩

/-- Two rows of load, with the CPU operation injected to fail. -/
def twoLoads : Script where
  rows := [{ loadAverage1m := some (.int 1) }, { loadAverage1m := some (.int 2) }]
  steps := [[], []]
  fail := some .cpuPercent

/-- Rows whose values are non-negative integers and no percentage are within range. -/
theorem withinRange_of_int {row : HostReading} (hcpu : row.cpuPercent = none)
    (h : ∀ f x, row.value f = some x → ∃ k : ℕ, x = .int k) : row.WithinRange := by
  intro f x hx
  obtain ⟨k, rfl⟩ := h f x hx
  have hk : (0 : ℚ) ≤ (k : ℤ) := by exact_mod_cast Nat.zero_le k
  have hmin : f.minimum ≤ 0 := by cases f <;> norm_num [HostField.minimum]
  refine ⟨(k : ℤ), rfl, hmin.trans hk, ?_⟩
  intro m hm
  cases f <;> cases hm
  have : row.value .cpuPercent = none := hcpu
  rw [this] at hx
  cases hx

theorem twoLoads_value {row : HostReading} (hrow : row ∈ twoLoads.rows) :
    row.cpuPercent = none ∧ ∀ f x, row.value f = some x → ∃ k : ℕ, x = .int k ∧ k ≤ 2 := by
  simp only [twoLoads, List.mem_cons, List.not_mem_nil, or_false] at hrow
  rcases hrow with rfl | rfl
  · refine ⟨rfl, ?_⟩
    intro f x hx
    cases f <;> cases hx
    exact ⟨1, rfl, by decide⟩
  · refine ⟨rfl, ?_⟩
    intro f x hx
    cases f <;> cases hx
    exact ⟨2, rfl, by decide⟩

/-- Two snapshots around a profile, while the CPU operation fails. -/
theorem replay_in_step_twoLoads :
    let calls := [.snapshot epochClocks, .machineProfile epochClocks, .snapshot epochClocks]
    (∀ i x, (snapshots (twoLoads.replay listing calls))[i]? = some x → twoLoads.ShowsRow i x) ∧
      ∃ p reasons, (profiles (twoLoads.replay listing calls))[0]? = some (.ok p, reasons) ∧
        twoLoads.UsesFacts 0 p reasons := by
  intro calls
  have hrange : ∀ row ∈ twoLoads.rows, row.WithinRange := by
    intro row hrow
    obtain ⟨hcpu, hvalue⟩ := twoLoads_value hrow
    refine withinRange_of_int hcpu ?_
    intro f x hx
    obtain ⟨k, rfl, -⟩ := hvalue f x hx
    exact ⟨k, rfl⟩
  have hfits : ∀ i, twoLoads.Fits i := by
    intro i
    refine ⟨?_, ?_⟩
    · intro f row hrow
      cases hx : row.value f with
      | none => trivial
      | some x =>
        obtain ⟨k, rfl, hk⟩ := (twoLoads_value (row_mem hrow)).2 f x hx
        show (k : ℤ).natAbs < doubleLimit
        have hlimit : 2 < doubleLimit := by decide +kernel
        omega
    · have hstep : twoLoads.step i = [] := by
        match i with
        | 0 | 1 | _ + 2 => rfl
      rw [hstep]
      exact ⟨by simp, by rintro j row ⟨⟩⟩
  have hassembles : Assembles listing (twoLoads.profileBoundary listing 0 epochClocks) := by
    refine ⟨fun f => trivial, by rintro o ⟨⟩, ⟨_, rfl, rfl⟩, ?_, by rintro _ ⟨⟩⟩
    exact returns_readerReasons.1 ⟨_, silent_reasons (S := twoLoads)⟩
  obtain ⟨hshows, huses⟩ := replay_in_step twoLoads listing hrange calls
  exact ⟨hshows.2 fun i _ => hfits i, (huses 0 epochClocks rfl).2 (.inl hassembles)⟩

/-- A row of load beside a GPU whose power is too large for a double. -/
def brightGpu : Script where
  rows := [{ loadAverage1m := some (.int 1) }]
  steps := [[{
    index := 0
    measurement := fun f => if f = .powerWatts then some (.int (10 ^ 400)) else none }]]

/-- A row whose load is too large for a double, and a row after it. -/
def heavyLoad : Script where
  rows := [{ loadAverage1m := some (.int (10 ^ 400)), processRssBytes := some (.int 1) },
    { processRssBytes := some (.int 2) }]
  steps := []

theorem brightGpu_value {row : HostReading} (hrow : row ∈ brightGpu.rows) : row.WithinRange := by
  simp only [brightGpu, List.mem_cons, List.not_mem_nil, or_false] at hrow
  subst hrow
  refine withinRange_of_int rfl ?_
  intro f x hx
  cases f <;> cases hx
  exact ⟨1, rfl⟩

theorem heavyLoad_value {row : HostReading} (hrow : row ∈ heavyLoad.rows) : row.WithinRange := by
  simp only [heavyLoad, List.mem_cons, List.not_mem_nil, or_false] at hrow
  rcases hrow with rfl | rfl
  · refine withinRange_of_int rfl ?_
    intro f x hx
    cases f <;> cases hx
    · exact ⟨10 ^ 400, by norm_num⟩
    · exact ⟨1, rfl⟩
  · refine withinRange_of_int rfl ?_
    intro f x hx
    cases f <;> cases hx
    exact ⟨2, rfl⟩

/-- The load of the row is lost with the power of the GPU; and after a load that
    is too large the second snapshot shows the resident size of the first row. -/
theorem replay_out_of_step :
    ((∀ row ∈ brightGpu.rows, row.WithinRange) ∧
      ¬ ∀ i x, (snapshots (brightGpu.replay listing [.snapshot epochClocks]))[i]? = some x →
        brightGpu.ShowsRow i x) ∧
    (∀ row ∈ heavyLoad.rows, row.WithinRange) ∧
      ((snapshots (heavyLoad.replay listing [.snapshot epochClocks, .snapshot epochClocks]))[1]?.map
        fun x => x.host .processRssBytes) = some (some (.int 1)) := by
  refine ⟨⟨fun _ => brightGpu_value, ?_⟩, fun _ => heavyLoad_value, by decide +kernel⟩
  intro h
  have hlost : ((snapshots (brightGpu.replay listing [.snapshot epochClocks]))[0]?.map
      fun x => x.host .loadAverage1m) = some none := by decide +kernel
  cases hx : (snapshots (brightGpu.replay listing [.snapshot epochClocks]))[0]? with
  | none =>
    rw [hx] at hlost
    cases hlost
  | some x =>
    rw [hx] at hlost
    have hshows := (h 0 x hx).host .loadAverage1m _ rfl
    rw [Option.map_some, Option.some.injEq] at hlost
    rw [hlost] at hshows
    cases hshows

end Script

end SweatMeter
